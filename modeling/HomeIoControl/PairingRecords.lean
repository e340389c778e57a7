import HomeIoControl.OneWayPresses
import HomeIoControl.PairingTelemetry

/-!
# What the record of a pairing attempt tells

The record keeps the first events of an attempt and counts all of them, so its advice can be told
from the attempt itself.
-/

namespace HomeIoControl.PairingRecords

open ProtocolFrames ProtocolCommands DeviceModels DeviceRegistries PairingTelemetry

/-- The event that an observation leaves, given the deferrals counted before it. -/
def eventOf (lbtRetries : UInt8) : Observation → Option TelemetryEvent
  | .tx cmd => some { kind := .tx, cmd }
  | .rx frame rssi => some (frameEvent .rx frame rssi)
  | .rxReject frame rssi => some (frameEvent .rxReject frame rssi)
  | .lbtDefer rssi => some { kind := .lbtDefer, rssi, aux := saturatingSucc lbtRetries }
  | .hop => some { kind := .hop }
  | .phase state => some { kind := .phase, aux := state.code }
  | .discoveryAttempt => none
  | .paired _ _ => none

def isDeferral : Observation → Bool
  | .lbtDefer _ => true
  | _ => false

/-- A frame was heard, whether it was accepted or not. -/
def isHeard : Observation → Bool
  | .rx _ _ => true
  | .rxReject _ _ => true
  | _ => false

def lbtAfter (lbtRetries : UInt8) (o : Observation) : UInt8 :=
  if isDeferral o then saturatingSucc lbtRetries else lbtRetries

/-- The event of an observation with its time, if there is one. -/
def stamped (startMs : UInt32) (lbtRetries : UInt8) (o : UInt32 × Observation) :
    List TelemetryEvent :=
  ((eventOf lbtRetries o.2).map fun event => { event with millisOffset := o.1 - startMs }).toList

/-- All events of an attempt, those that do not fit among them. -/
def recorded (startMs : UInt32) : UInt8 → List (UInt32 × Observation) → List TelemetryEvent
  | _, [] => []
  | lbtRetries, o :: rest =>
    stamped startMs lbtRetries o ++ recorded startMs (lbtAfter lbtRetries o.2) rest

/-- The record of an attempt. -/
def attempt (startMs : UInt32) (observations : List (UInt32 × Observation)) : Telemetry :=
  observations.foldl (fun t o => t.observe o.1 o.2) (Telemetry.start startMs)

theorem toNat_saturatingSucc (n : UInt8) :
    (saturatingSucc n).toNat = min 255 (n.toNat + 1) := by
  have hmax : counterSaturationMax.toNat = 255 := rfl
  have hlt := n.toNat_lt
  rw [saturatingSucc]
  by_cases hsmall : n < counterSaturationMax
  · rw [if_pos hsmall]
    rw [UInt8.lt_iff_toNat_lt, hmax] at hsmall
    have hsucc : (n + 1).toNat = n.toNat + 1 := by
      rw [UInt8.toNat_add]
      exact Nat.mod_eq_of_lt (show n.toNat + 1 < 256 by omega)
    omega
  · rw [if_neg hsmall]
    rw [UInt8.lt_iff_toNat_lt, hmax] at hsmall
    omega

theorem toNat_heardSucc {n : UInt16} (h : n < 65535) : (n + 1).toNat = n.toNat + 1 := by
  have hlt : n.toNat < 65535 := UInt16.lt_iff_toNat_lt.mp h
  rw [UInt16.toNat_add]
  exact Nat.mod_eq_of_lt (show n.toNat + 1 < 65536 by omega)

section Record

variable (t : Telemetry) (now : UInt32) (event : TelemetryEvent)

theorem record_events :
    (t.record now event).events =
      (t.events ++ [{ event with millisOffset := now - t.startMs }]).take
        pairingTelemetryMaxEvents := by
  rw [Telemetry.record]
  by_cases hroom : t.events.length < pairingTelemetryMaxEvents
  · rw [dif_pos hroom, List.take_of_length_le]
    rw [List.length_append]
    exact hroom
  · have hfull : t.events.length = pairingTelemetryMaxEvents :=
      Nat.le_antisymm t.fits (Nat.le_of_not_lt hroom)
    rw [dif_neg hroom, ← hfull, List.take_left]

theorem record_truncated :
    (t.record now event).truncated =
      (t.truncated || decide (pairingTelemetryMaxEvents < t.events.length + 1)) := by
  rw [Telemetry.record]
  by_cases hroom : t.events.length < pairingTelemetryMaxEvents
  · rw [dif_pos hroom, decide_eq_false (by omega), Bool.or_false]
  · rw [dif_neg hroom, decide_eq_true (by omega), Bool.or_true]

theorem record_heardCount :
    (t.record now event).heardCount =
      if isRxKind event.kind ∧ t.heardCount < 65535 then t.heardCount + 1 else t.heardCount := by
  rw [Telemetry.record]
  split <;> rfl

theorem record_lbtRetries : (t.record now event).lbtRetries = t.lbtRetries := by
  rw [Telemetry.record]
  split <;> rfl

theorem record_startMs : (t.record now event).startMs = t.startMs := by
  rw [Telemetry.record]
  split <;> rfl

end Record

/-- What a record says after some events, some of them deferrals. -/
structure Records (startMs : UInt32) (t : Telemetry) (past : List TelemetryEvent)
    (deferrals : ℕ) : Prop where
  startMs : t.startMs = startMs
  events : t.events = past.take pairingTelemetryMaxEvents
  truncated : t.truncated = true ↔ pairingTelemetryMaxEvents < past.length
  heard : t.heardCount.toNat = min 65535 (past.countP fun event => isRxKind event.kind)
  lbtRetries : t.lbtRetries.toNat = min 255 deferrals

namespace Records

variable {startMs : UInt32} {t : Telemetry} {past : List TelemetryEvent} {deferrals : ℕ}

theorem start (startMs : UInt32) : Records startMs (Telemetry.start startMs) [] 0 where
  startMs := rfl
  events := rfl
  truncated := by simp [Telemetry.start]
  heard := rfl
  lbtRetries := rfl

/-- A record of the same events, with another counter of deferrals. -/
theorem congr {t' : Telemetry} {deferrals' : ℕ} (h : Records startMs t past deferrals)
    (hstart : t'.startMs = t.startMs) (hevents : t'.events = t.events)
    (htruncated : t'.truncated = t.truncated) (hheard : t'.heardCount = t.heardCount)
    (hlbt : t'.lbtRetries.toNat = min 255 deferrals') : Records startMs t' past deferrals' where
  startMs := hstart.trans h.startMs
  events := hevents.trans h.events
  truncated := by rw [htruncated, h.truncated]
  heard := by rw [hheard, h.heard]
  lbtRetries := hlbt

theorem length_events (h : Records startMs t past deferrals) :
    t.events.length = min pairingTelemetryMaxEvents past.length := by
  rw [h.events, List.length_take]

/-- One event more. -/
theorem record (h : Records startMs t past deferrals) (now : UInt32) (event : TelemetryEvent) :
    Records startMs (t.record now event)
      (past ++ [{ event with millisOffset := now - startMs }]) deferrals where
  startMs := (record_startMs t now event).trans h.startMs
  events := by
    rw [record_events, h.startMs, h.events, List.take_append, List.take_append, List.take_take,
      Nat.min_self, List.length_take]
    congr 2
    omega
  truncated := by
    rw [record_truncated, Bool.or_eq_true, decide_eq_true_eq, h.truncated, h.length_events,
      List.length_append, List.length_singleton]
    omega
  heard := by
    rw [record_heardCount, List.countP_append, List.countP_singleton]
    have hheard := h.heard
    by_cases hrx : isRxKind event.kind = true
    · by_cases hroom : t.heardCount < 65535
      · rw [if_pos ⟨hrx, hroom⟩, toNat_heardSucc hroom, if_pos hrx]
        have hlt : t.heardCount.toNat < 65535 := UInt16.lt_iff_toNat_lt.mp hroom
        omega
      · rw [if_neg (fun hboth => hroom hboth.2), if_pos hrx]
        have hge : ¬ t.heardCount.toNat < 65535 := fun hlt => hroom (UInt16.lt_iff_toNat_lt.mpr hlt)
        omega
    · rw [if_neg (fun hboth => hrx hboth.1), if_neg hrx, Nat.add_zero]
      exact hheard
  lbtRetries := by rw [record_lbtRetries, h.lbtRetries]

theorem saturate (h : Records startMs t past deferrals) :
    (saturatingSucc t.lbtRetries).toNat = min 255 (deferrals + 1) := by
  rw [toNat_saturatingSucc, h.lbtRetries]
  omega

/-- One observation more. -/
theorem observe (h : Records startMs t past deferrals) (o : UInt32 × Observation) :
    Records startMs (t.observe o.1 o.2) (past ++ stamped startMs t.lbtRetries o)
      (deferrals + if isDeferral o.2 then 1 else 0) := by
  obtain ⟨now, o⟩ := o
  cases o with
  | tx cmd => exact h.record now _
  | rx frame rssi => exact h.record now _
  | rxReject frame rssi => exact h.record now _
  | lbtDefer rssi =>
    have hcounted : Records startMs { t with lbtRetries := saturatingSucc t.lbtRetries } past
        (deferrals + 1) := h.congr rfl rfl rfl rfl h.saturate
    exact hcounted.record now _
  | hop => exact h.record now _
  | phase state =>
    have hentered : Records startMs { t with phase := state } past deferrals :=
      h.congr rfl rfl rfl rfl h.lbtRetries
    exact hentered.record now _
  | discoveryAttempt =>
    rw [stamped, eventOf, Option.map_none, Option.toList_none, List.append_nil]
    exact h.congr rfl rfl rfl rfl h.lbtRetries
  | paired nodeId type =>
    rw [stamped, eventOf, Option.map_none, Option.toList_none, List.append_nil]
    exact h.congr rfl rfl rfl rfl h.lbtRetries

end Records

theorem observe_lbtRetries (t : Telemetry) (now : UInt32) (o : Observation) :
    (t.observe now o).lbtRetries = lbtAfter t.lbtRetries o := by
  cases o <;> first | exact record_lbtRetries _ _ _ | rfl

/-- What an attempt records, observation by observation. -/
theorem Records.run {startMs : UInt32} {t : Telemetry} {past : List TelemetryEvent}
    {deferrals : ℕ} (h : Records startMs t past deferrals)
    (observations : List (UInt32 × Observation)) :
    Records startMs (observations.foldl (fun t o => t.observe o.1 o.2) t)
      (past ++ recorded startMs t.lbtRetries observations)
      (deferrals + observations.countP fun o => isDeferral o.2) := by
  induction observations generalizing t past deferrals with
  | nil =>
    rw [recorded, List.append_nil]
    exact h
  | cons o rest ih =>
    have hrest := ih (h.observe o)
    rw [observe_lbtRetries] at hrest
    have hcount : deferrals + (o :: rest).countP (fun o => isDeferral o.2) =
        deferrals + (if isDeferral o.2 then 1 else 0) + rest.countP fun o => isDeferral o.2 := by
      rw [List.countP_cons]
      omega
    rw [recorded, ← List.append_assoc, hcount]
    exact hrest

/-- The record of a whole attempt. -/
theorem attempt_records (startMs : UInt32) (observations : List (UInt32 × Observation)) :
    Records startMs (attempt startMs observations) (recorded startMs 0 observations)
      (observations.countP fun o => isDeferral o.2) := by
  have hrun := (Records.start startMs).run observations
  rwa [List.nil_append, Nat.zero_add] at hrun

/-- A one-way remote was heard to pair. -/
def HeardOneWayPairing (events : List TelemetryEvent) : Prop :=
  ∃ event ∈ events, isRxKind event.kind = true ∧ isOnewayPairingFrame event = true

/-- A source was heard twice while transmissions were put off as often as they may be. -/
def HeardBusyChannel (deferrals : ℕ) (events : List TelemetryEvent) : Prop :=
  lbtMaxRetries.toNat ≤ deferrals ∧ ∃ event ∈ events, isRxKind event.kind = true ∧
    2 ≤ countOccurrencesOfSource events event.srcNode

/-- A device was heard to answer the discovery of another controller. -/
def HeardForeignController (ownNodeId : NodeId) (events : List TelemetryEvent) : Prop :=
  ownNodeId ≠ zeroNodeId ∧ ∃ event ∈ events, isRxKind event.kind = true ∧
    event.cmd = cmdDiscoverResp ∧ event.dstNode ≠ ownNodeId

theorem appendAdvice_codes (code : AdviceCode) (applies : TelemetryEvent → Bool)
    (events : List TelemetryEvent) {out : List PairingAdvice}
    (h : out.length < pairingAdviceMax) :
    (appendAdvice code applies events out).map PairingAdvice.code =
      out.map PairingAdvice.code ++
        if events.any (fun event => isRxKind event.kind && applies event) then [code] else [] := by
  rw [appendAdvice, if_neg (Nat.not_le.mpr h)]
  cases hfind : events.find? fun event => isRxKind event.kind && applies event with
  | none =>
    have hnone : events.any (fun event => isRxKind event.kind && applies event) = false := by
      rw [List.any_eq_false]
      exact List.find?_eq_none.mp hfind
    rw [hnone]
    simp
  | some event =>
    have hsome : events.any (fun event => isRxKind event.kind && applies event) = true :=
      List.any_eq_true.mpr ⟨event, List.mem_of_find?_eq_some hfind,
        by simpa only using List.find?_some hfind⟩
    rw [hsome]
    simp [adviceAbout]

/-- The codes of a rule, if it applies. -/
def codeIf (applies : Bool) (code : AdviceCode) : List AdviceCode := if applies then [code] else []

/-- The codes that the events of a record give reason to, in order. -/
def reasons (t : Telemetry) (ownNodeId : NodeId) : List AdviceCode :=
  codeIf (t.events.any fun event => isRxKind event.kind && isOnewayPairingFrame event)
      .oneWayPairingTraffic ++
    codeIf (!decide (t.lbtRetries < lbtMaxRetries) && t.events.any fun event =>
        isRxKind event.kind && decide (2 ≤ countOccurrencesOfSource t.events event.srcNode))
      .channelBusyLbtDelayed ++
    codeIf (decide (ownNodeId ≠ zeroNodeId) && t.events.any fun event =>
        isRxKind event.kind && decide (event.cmd = cmdDiscoverResp ∧ event.dstNode ≠ ownNodeId))
      .foreignControllerPairing

theorem length_codeIf (applies : Bool) (code : AdviceCode) : (codeIf applies code).length ≤ 1 := by
  cases applies
  · exact Nat.zero_le _
  · exact Nat.le_refl _

theorem oneWay_codes (events : List TelemetryEvent) :
    (appendOneWayPairingAdvice events []).map PairingAdvice.code =
      codeIf (events.any fun event => isRxKind event.kind && isOnewayPairingFrame event)
        .oneWayPairingTraffic :=
  appendAdvice_codes _ _ _ (by decide)

theorem busy_codes (lbtRetries : UInt8) (events : List TelemetryEvent) (out : List PairingAdvice)
    (h : out.length < pairingAdviceMax) :
    (appendChannelBusyAdvice lbtRetries events out).map PairingAdvice.code =
      out.map PairingAdvice.code ++
        codeIf (!decide (lbtRetries < lbtMaxRetries) && events.any fun event =>
            isRxKind event.kind && decide (2 ≤ countOccurrencesOfSource events event.srcNode))
          .channelBusyLbtDelayed := by
  rw [appendChannelBusyAdvice]
  by_cases hfew : lbtRetries < lbtMaxRetries
  · rw [if_pos hfew, decide_eq_true hfew, Bool.not_true, Bool.false_and]
    exact (List.append_nil _).symm
  · rw [if_neg hfew, decide_eq_false hfew, Bool.not_false, Bool.true_and,
      appendAdvice_codes _ _ _ h]
    rfl

theorem foreign_codes (ownNodeId : NodeId) (events : List TelemetryEvent)
    (out : List PairingAdvice) (h : out.length < pairingAdviceMax) :
    (appendForeignControllerAdvice ownNodeId events out).map PairingAdvice.code =
      out.map PairingAdvice.code ++
        codeIf (decide (ownNodeId ≠ zeroNodeId) && events.any fun event =>
            isRxKind event.kind &&
              decide (event.cmd = cmdDiscoverResp ∧ event.dstNode ≠ ownNodeId))
          .foreignControllerPairing := by
  rw [appendForeignControllerAdvice]
  by_cases hunset : ownNodeId = zeroNodeId
  · rw [if_pos hunset, decide_eq_false (not_not.mpr hunset), Bool.false_and]
    exact (List.append_nil _).symm
  · rw [if_neg hunset, decide_eq_true hunset, Bool.true_and, appendAdvice_codes _ _ _ h]
    simp only [codeIf, Bool.decide_and]

/-- The rules about what was heard, one behind the other. -/
def heardAdvice (t : Telemetry) (ownNodeId : NodeId) : List PairingAdvice :=
  appendForeignControllerAdvice ownNodeId t.events
    (appendChannelBusyAdvice t.lbtRetries t.events (appendOneWayPairingAdvice t.events []))

theorem heardAdvice_codes (t : Telemetry) (ownNodeId : NodeId) :
    (heardAdvice t ownNodeId).map PairingAdvice.code = reasons t ownNodeId := by
  have hone := oneWay_codes t.events
  have hshort : (appendOneWayPairingAdvice t.events []).length ≤ 1 := by
    rw [← List.length_map PairingAdvice.code, hone]
    exact length_codeIf _ _
  have htwo := busy_codes t.lbtRetries t.events (appendOneWayPairingAdvice t.events [])
    (Nat.lt_of_le_of_lt hshort (by decide))
  have hroom : (appendChannelBusyAdvice t.lbtRetries t.events
      (appendOneWayPairingAdvice t.events [])).length ≤ 2 := by
    rw [← List.length_map PairingAdvice.code, htwo, List.length_append, List.length_map]
    exact Nat.add_le_add hshort (length_codeIf _ _)
  rw [heardAdvice, foreign_codes _ _ _ (Nat.lt_of_le_of_lt hroom (by decide)), htwo, hone]
  rfl

/-- Silence is told of only where nothing else is. -/
theorem analyze_codes (t : Telemetry) (ownNodeId : NodeId) :
    (analyzePairingTelemetry t ownNodeId).map PairingAdvice.code =
      if reasons t ownNodeId = [] ∧ t.heardCount = 0 then [.rfSilent]
      else reasons t ownNodeId := by
  have hcodes := heardAdvice_codes t ownNodeId
  have hrun : analyzePairingTelemetry t ownNodeId =
      if (heardAdvice t ownNodeId).length = 0 ∧ t.heardCount = 0 ∧
          (heardAdvice t ownNodeId).length < pairingAdviceMax then
        heardAdvice t ownNodeId ++ [{ code := .rfSilent }]
      else heardAdvice t ownNodeId := rfl
  have hnone : (heardAdvice t ownNodeId).length = 0 ↔ reasons t ownNodeId = [] := by
    rw [← hcodes, List.map_eq_nil_iff, List.length_eq_zero_iff]
  rw [hrun]
  by_cases hsilent : reasons t ownNodeId = [] ∧ t.heardCount = 0
  · have hlength := hnone.mpr hsilent.1
    have hmax : (heardAdvice t ownNodeId).length < pairingAdviceMax := by
      rw [hlength]
      decide
    rw [if_pos ⟨hlength, hsilent.2, hmax⟩, if_pos hsilent, List.map_append, hcodes, hsilent.1]
    rfl
  · rw [if_neg fun h => hsilent ⟨hnone.mp h.1, h.2.1⟩, if_neg hsilent, hcodes]

theorem mem_codeIf {applies : Bool} {code code' : AdviceCode} :
    code ∈ codeIf applies code' ↔ code = code' ∧ applies = true := by
  cases applies <;> simp [codeIf]

theorem mem_reasons (t : Telemetry) (ownNodeId : NodeId) (code : AdviceCode) :
    code ∈ reasons t ownNodeId ↔
      code = .oneWayPairingTraffic ∧ HeardOneWayPairing t.events ∨
        code = .channelBusyLbtDelayed ∧ HeardBusyChannel t.lbtRetries.toNat t.events ∨
        code = .foreignControllerPairing ∧ HeardForeignController ownNodeId t.events := by
  simp only [reasons, List.mem_append, mem_codeIf, Bool.and_eq_true, List.any_eq_true,
    Bool.not_eq_true', decide_eq_false_iff_not, decide_eq_true_eq, HeardOneWayPairing,
    HeardBusyChannel, HeardForeignController, UInt8.lt_iff_toNat_lt, Nat.not_lt, or_assoc]

/-- The codes stand in one order, each at most once. -/
theorem reasons_sublist (t : Telemetry) (ownNodeId : NodeId) :
    (reasons t ownNodeId).Sublist
      [.oneWayPairingTraffic, .channelBusyLbtDelayed, .foreignControllerPairing] := by
  have hif (applies : Bool) (code : AdviceCode) : (codeIf applies code).Sublist [code] := by
    cases applies
    · exact List.nil_sublist _
    · exact List.Sublist.refl _
  exact ((hif _ _).append (hif _ _)).append (hif _ _)

theorem countP_stamped (startMs : UInt32) (lbtRetries : UInt8) (o : UInt32 × Observation) :
    (stamped startMs lbtRetries o).countP (fun event => isRxKind event.kind) =
      if isHeard o.2 then 1 else 0 := by
  obtain ⟨now, o⟩ := o
  cases o <;> rfl

theorem countP_recorded (startMs : UInt32) (lbtRetries : UInt8)
    (observations : List (UInt32 × Observation)) :
    (recorded startMs lbtRetries observations).countP (fun event => isRxKind event.kind) =
      observations.countP fun o => isHeard o.2 := by
  induction observations generalizing lbtRetries with
  | nil => rfl
  | cons o rest ih =>
    rw [recorded, List.countP_append, countP_stamped, ih, List.countP_cons]
    omega

theorem reasons_unheard {t : Telemetry} (ownNodeId : NodeId)
    (h : ∀ event ∈ t.events, isRxKind event.kind = false) : reasons t ownNodeId = [] := by
  have hnone (applies : TelemetryEvent → Bool) :
      t.events.any (fun event => isRxKind event.kind && applies event) = false := by
    rw [List.any_eq_false]
    intro event hevent
    rw [h event hevent]
    simp
  simp only [reasons, hnone, Bool.and_false]
  rfl

/-- The codes of the advice about an attempt that has ended. -/
def adviceOf (startMs : UInt32) (observations : List (UInt32 × Observation)) (now : UInt32)
    (outcome : PairingOutcome) (ownNodeId : NodeId) : List AdviceCode :=
  (analyzePairingTelemetry ((attempt startMs observations).setOutcome now outcome)
    ownNodeId).map PairingAdvice.code

theorem countP_heard (startMs : UInt32) {observations : List (UInt32 × Observation)} :
    (recorded startMs 0 observations).countP (fun event => isRxKind event.kind) = 0 ↔
      ∀ o ∈ observations, isHeard o.2 = false := by
  rw [countP_recorded]
  simp [List.countP_eq_zero]

/-- An attempt that heard nothing has no reason to speak of what it heard. -/
theorem reasons_silent {startMs : UInt32} {observations : List (UInt32 × Observation)}
    (h : ∀ o ∈ observations, isHeard o.2 = false) (ownNodeId : NodeId) :
    reasons (attempt startMs observations) ownNodeId = [] := by
  refine reasons_unheard ownNodeId fun event hevent => ?_
  rw [(attempt_records startMs observations).events] at hevent
  have hnone := List.countP_eq_zero.mp ((countP_heard startMs).mpr h) event
    (List.mem_of_mem_take hevent)
  simpa using hnone

theorem adviceOf_eq (startMs : UInt32) (observations : List (UInt32 × Observation))
    (now : UInt32) (outcome : PairingOutcome) (ownNodeId : NodeId) :
    adviceOf startMs observations now outcome ownNodeId =
      if ∀ o ∈ observations, isHeard o.2 = false then [.rfSilent]
      else reasons (attempt startMs observations) ownNodeId := by
  have hquiet : (attempt startMs observations).heardCount = 0 ↔
      ∀ o ∈ observations, isHeard o.2 = false := by
    rw [← countP_heard startMs, ← UInt16.toNat_inj, (attempt_records startMs observations).heard,
      UInt16.toNat_zero]
    omega
  refine (analyze_codes ((attempt startMs observations).setOutcome now outcome) ownNodeId).trans ?_
  have hreasons : reasons ((attempt startMs observations).setOutcome now outcome) ownNodeId =
      reasons (attempt startMs observations) ownNodeId := rfl
  rw [hreasons]
  by_cases hsilent : ∀ o ∈ observations, isHeard o.2 = false
  · rw [if_pos hsilent, if_pos ⟨reasons_silent hsilent ownNodeId, hquiet.mpr hsilent⟩]
  · rw [if_neg hsilent, if_neg fun h => hsilent (hquiet.mp h.2)]

/-- But for silence, the advice is what the record gives reason to. -/
theorem mem_adviceOf {startMs : UInt32} {observations : List (UInt32 × Observation)} {now : UInt32}
    {outcome : PairingOutcome} {ownNodeId : NodeId} {code : AdviceCode} (h : code ≠ .rfSilent) :
    code ∈ adviceOf startMs observations now outcome ownNodeId ↔
      code ∈ reasons (attempt startMs observations) ownNodeId := by
  rw [adviceOf_eq]
  by_cases hsilent : ∀ o ∈ observations, isHeard o.2 = false
  · rw [if_pos hsilent, reasons_silent hsilent ownNodeId]
    simp [h]
  · rw [if_neg hsilent]

/-- What the advice of an attempt tells: each reason is given exactly if the events that the
record had room for give it, and silence exactly if nothing at all was heard. -/
theorem advice_tells (startMs : UInt32) (observations : List (UInt32 × Observation))
    (now : UInt32) (outcome : PairingOutcome) (ownNodeId : NodeId) :
    (.oneWayPairingTraffic ∈ adviceOf startMs observations now outcome ownNodeId ↔
        HeardOneWayPairing ((recorded startMs 0 observations).take pairingTelemetryMaxEvents)) ∧
      (.channelBusyLbtDelayed ∈ adviceOf startMs observations now outcome ownNodeId ↔
        HeardBusyChannel (observations.countP fun o => isDeferral o.2)
          ((recorded startMs 0 observations).take pairingTelemetryMaxEvents)) ∧
      (.foreignControllerPairing ∈ adviceOf startMs observations now outcome ownNodeId ↔
        HeardForeignController ownNodeId
          ((recorded startMs 0 observations).take pairingTelemetryMaxEvents)) ∧
      (.rfSilent ∈ adviceOf startMs observations now outcome ownNodeId ↔
        ∀ o ∈ observations, isHeard o.2 = false) ∧
      (adviceOf startMs observations now outcome ownNodeId = [.rfSilent] ∨
        (adviceOf startMs observations now outcome ownNodeId).Sublist
          [.oneWayPairingTraffic, .channelBusyLbtDelayed, .foreignControllerPairing]) := by
  have hrecords := attempt_records startMs observations
  have hmem := mem_reasons (attempt startMs observations) ownNodeId
  have hdeferrals (events : List TelemetryEvent) :
      HeardBusyChannel (attempt startMs observations).lbtRetries.toNat events ↔
        HeardBusyChannel (observations.countP fun o => isDeferral o.2) events := by
    have hlimit : lbtMaxRetries.toNat = 5 := rfl
    rw [HeardBusyChannel, HeardBusyChannel, hrecords.lbtRetries, hlimit]
    exact and_congr_left fun _ => by omega
  rw [hrecords.events] at hmem
  refine ⟨?_, ?_, ?_, ?_, ?_⟩
  · rw [mem_adviceOf (by simp), hmem]
    simp
  · rw [mem_adviceOf (by simp), hmem]
    simp [hdeferrals]
  · rw [mem_adviceOf (by simp), hmem]
    simp
  · rw [adviceOf_eq]
    by_cases hsilent : ∀ o ∈ observations, isHeard o.2 = false
    · rw [if_pos hsilent]
      exact iff_of_true List.mem_cons_self hsilent
    · rw [if_neg hsilent, hmem]
      exact iff_of_false (by simp) hsilent
  · rw [adviceOf_eq]
    by_cases hsilent : ∀ o ∈ observations, isHeard o.2 = false
    · exact Or.inl (if_pos hsilent)
    · rw [if_neg hsilent]
      exact Or.inr (reasons_sublist _ _)

end HomeIoControl.PairingRecords
