import HomeIoControl.CarriedOperations
import HomeIoControl.PollEntries
import HomeIoControl.RepeatFilters

/-!
# One press, processed once

A one-way remote repeats each command, and the hub is to process a press once: log it, fire its
event, predict and poll the devices that follow it. The hub remembers the last frame it processed,
of whatever remote. What it reports of the presses it processes is compared with the law that
looks at each remote on its own.
-/

namespace HomeIoControl.OneWayPresses

open MachineRuns TracedPrograms RepeatFilters OrderedMaps ProtocolFrames ProtocolCodecs
  DeviceModels DeviceRegistries PendingOperations StatusPolls PollEntries RadioLinks HubStatus
  HubOperations HubLoop HubRules HubFrames CarriedOperations

/-- What tells one press from another: its remote, its command and its decoded intent. -/
structure PressKey where
  src : NodeId
  cmd : UInt8
  intent : Option (UInt8 × UInt8)
  deriving DecidableEq

def infoKey (info : OneWayFrameInfo) : PressKey :=
  ⟨info.src, info.cmd, if info.hasIntent then some (info.main0, info.main1) else none⟩

def pressKey (frame : IoFrame) : PressKey := infoKey (decode1wFrame frame)

abbrev Press := Passed PressKey

/-- The dedup window in milliseconds of real time. -/
def pressWindow : ℕ := onewayDedupWindowMs.toNat

/-- The press whose processing is reported. -/
def pressOf (r : HubReport) : Option Press :=
  match r.output with
  | .remoteFrame info _ => some ⟨infoKey info, r.time⟩
  | _ => none

/-- The hub, reporting the presses it processes. -/
def pressMachine : Machine HubState HubEvent Press where
  step s e := (hubStep s e, (reports s e).filterMap pressOf)

/-- The second hub polls the devices, with this delay: each has its timeout, and tracking of those
that are registered begins. -/
structure Polled (delayMs : UInt32) (deviceIds : List String) (hub hub' : Hub) : Prop where
  registry : hub'.registry = hub.registry
  timeouts : ∀ id, hub'.remotePolls.find id =
    if id ∈ deviceIds then some delayMs else hub.remotePolls.find id
  tracked : ∀ id ∈ deviceIds, (hub.registry.get id).isSome →
    ∃ now, hub'.pollPolicy.entry id = begun (hub.pollPolicy.entry id) 0 now
  others : ∀ id, id ∉ deviceIds ∨ (hub.registry.get id).isNone →
    hub'.pollPolicy.entry id = hub.pollPolicy.entry id

/-- The event that a sender fires: with an intent, if the sender is exposed and the connection
stands when the surroundings are next asked. -/
def fired (info : OneWayFrameInfo) (hub : Hub) (asked : Surroundings) : List HubReport :=
  if info.hasIntent = true ∧ asked.next.1.connected = true ∧
      isExposedSender hub.exposedSenders (nodeIdToString info.src) = true then
    [⟨asked.next.2.time,
      .senderEvent info (anyLinked (hub.registry.linkedDevices (nodeIdToString info.src)))⟩]
  else []

/-- The first part of an event processes a press: it logs the frame and fires its event and
reports nothing else, predicts the devices that follow the sender, and polls them. -/
structure Processes (s : HubState) (e : HubEvent) (frame : IoFrame) (time : ℕ) : Prop where
  reported : (atGate s e).2.log =
    ⟨time, .remoteFrame (decode1wFrame frame)
      (s.hub.registry.linkedDevices (nodeIdToString frame.src))⟩ ::
        fired (decode1wFrame frame) s.hub (e.surroundings s).env.next.2.next.2
  followed :
    let info := decode1wFrame frame
    let targets := s.hub.resolve1wTargetDevices info (nodeIdToString frame.src)
    let predicted := applyOptimisticLinkedState info targets s.hub.registry
    Polled (if predicted.2 then 0 else remoteActivityStatusPollDelayMs) targets
      { s.hub with registry := predicted.1 } (atGate s e).1

/-- The first part of an event drops what it hears: nothing is reported, no device changes and no
poll is scheduled. -/
structure Drops (s : HubState) (e : HubEvent) : Prop where
  silent : (atGate s e).2.log = []
  registry : (atGate s e).1.registry = s.hub.registry
  pollPolicy : (atGate s e).1.pollPolicy = s.hub.pollPolicy
  remotePolls : (atGate s e).1.remotePolls = s.hub.remotePolls

/-- What an event hears is processed unless it is a fresh repeat by the law of one press, which is
dropped. -/
def OncePerPress (s : HubState × List Press) (e : HubEvent) : Prop :=
  ∀ frame time, heard s.1 e = some (frame, time) →
    (¬ IsFreshRepeat PressKey.src pressWindow s.2 (pressKey frame) time →
      Processes s.1 e frame time) ∧
    (IsFreshRepeat PressKey.src pressWindow s.2 (pressKey frame) time → Drops s.1 e)

/-- A press is heard undisturbed: a fresh repeat before another remote's press was processed, and
a reading of the clock within the window before the clock has wrapped. -/
def HeardUndisturbed (s : HubState × List Press) (e : HubEvent) : Prop :=
  ∀ frame time, heard s.1 e = some (frame, time) →
    Undisturbed PressKey.src pressWindow clockPeriod s.2 (pressKey frame) time

section

variable {σ ε : Type} (ports : ReceivePorts σ ε)

theorem beginStatusPollTracking_begins (deviceId : String) (hub : Hub) :
    Returns (beginStatusPollTracking ports deviceId 0 hub) fun hub' =>
      ((hub.registry.get deviceId).isNone ∧ hub' = hub) ∨
        ((hub.registry.get deviceId).isSome ∧ ∃ now,
          hub' = { hub with pollPolicy := hub.pollPolicy.beginTracking deviceId 0 now }) := by
  refine Returns.ite (fun hnone => Returns.pure (.inl ⟨hnone, rfl⟩)) fun hsome => ?_
  refine Returns.skip fun now => Returns.pure (.inr ⟨?_, now, rfl⟩)
  exact Option.isSome_iff_ne_none.mpr fun hnone => hsome (Option.isNone_iff_eq_none.mpr hnone)

/-- One poll more. -/
theorem Polled.cons {delayMs : UInt32} {deviceId : String} {deviceIds : List String}
    {hub hub₁ hub' : Hub}
    (begins : ((hub.registry.get deviceId).isNone ∧ hub₁ = hub) ∨
      ((hub.registry.get deviceId).isSome ∧ ∃ now,
        hub₁ = { hub with pollPolicy := hub.pollPolicy.beginTracking deviceId 0 now }))
    (h : Polled delayMs deviceIds (hub₁.scheduleStatusPoll deviceId delayMs) hub') :
    Polled delayMs (deviceId :: deviceIds) hub hub' := by
  have hregistry : hub₁.registry = hub.registry := by
    rcases begins with ⟨-, rfl⟩ | ⟨-, now, rfl⟩ <;> rfl
  have htimeouts : hub₁.remotePolls = hub.remotePolls := by
    rcases begins with ⟨-, rfl⟩ | ⟨-, now, rfl⟩ <;> rfl
  have hother : ∀ id, id ≠ deviceId ∨ (hub.registry.get id).isNone →
      hub₁.pollPolicy.entry id = hub.pollPolicy.entry id := by
    rintro id hid
    rcases begins with ⟨-, rfl⟩ | ⟨hsome, now, rfl⟩
    · rfl
    · have hne : id ≠ deviceId := by
        rcases hid with hne | hnone
        · exact hne
        · rintro rfl
          rw [Option.isNone_iff_eq_none.mp hnone] at hsome
          cases hsome
      exact (entry_beginTracking _ deviceId id 0 now).trans (if_neg hne)
  have hself : (hub.registry.get deviceId).isSome → ∃ now,
      hub₁.pollPolicy.entry deviceId = begun (hub.pollPolicy.entry deviceId) 0 now := by
    intro hsome
    rcases begins with ⟨hnone, -⟩ | ⟨-, now, rfl⟩
    · rw [Option.isNone_iff_eq_none.mp hnone] at hsome
      cases hsome
    · exact ⟨now, (entry_beginTracking _ deviceId deviceId 0 now).trans (if_pos rfl)⟩
  refine ⟨h.registry.trans hregistry, fun id => ?_, fun id hid hsome => ?_, fun id hid => ?_⟩
  · rw [h.timeouts, Hub.scheduleStatusPoll, OrderedMap.find_insert, htimeouts]
    by_cases hmem : id ∈ deviceIds <;> by_cases heq : id = deviceId <;> simp [hmem, heq]
  · have hsome₁ : (hub₁.registry.get id).isSome := by rwa [hregistry]
    by_cases hmem : id ∈ deviceIds
    · obtain ⟨now, hentry⟩ := h.tracked id hmem hsome₁
      refine ⟨now, hentry.trans ?_⟩
      by_cases heq : id = deviceId
      · subst heq
        obtain ⟨first, hfirst⟩ := hself hsome
        change begun (hub₁.pollPolicy.entry id) 0 now = _
        rw [hfirst]
        rfl
      · change begun (hub₁.pollPolicy.entry id) 0 now = _
        rw [hother id (.inl heq)]
    · obtain rfl := (List.mem_cons.mp hid).resolve_right hmem
      obtain ⟨now, hentry⟩ := hself hsome
      exact ⟨now, (h.others id (.inl hmem)).trans hentry⟩
  · have hrest : id ∉ deviceIds ∨ (hub₁.registry.get id).isNone := by
      rw [hregistry]
      exact hid.imp_left fun hnot hmem => hnot (List.mem_cons_of_mem _ hmem)
    refine (h.others id hrest).trans (hother id ?_)
    exact hid.imp_left fun hnot heq => hnot (heq ▸ List.mem_cons_self)

theorem scheduleDevicePolls_polls (delayMs : UInt32) (deviceIds : List String) (hub : Hub) :
    Returns (scheduleDevicePolls ports delayMs deviceIds hub) (Polled delayMs deviceIds hub) := by
  induction deviceIds generalizing hub with
  | nil =>
    refine Returns.pure ⟨rfl, fun _ => ?_, fun _ h => ?_, fun _ _ => rfl⟩
    · simp
    · cases h
  | cons deviceId deviceIds ih =>
    exact (beginStatusPollTracking_begins ports deviceId hub).bind fun hub₁ begins =>
      (ih _).weaken fun _ h => h.cons begins

end

theorem decode1wFrame_src (frame : IoFrame) : (decode1wFrame frame).src = frame.src := by
  unfold decode1wFrame
  dsimp only
  split_ifs <;> rfl

theorem decode1wFrame_cmd (frame : IoFrame) : (decode1wFrame frame).cmd = frame.cmd := by
  unfold decode1wFrame
  dsimp only
  split_ifs <;> rfl

/-- What firing the event of a sender reports. -/
theorem maybeFireSenderEvent_log (info : OneWayFrameInfo) (hub : Hub)
    (w : World Surroundings HubReport) :
    (maybeFireSenderEvent surroundingPorts.toReceivePorts info
      (anyLinked (hub.registry.linkedDevices (nodeIdToString info.src)))
        (nodeIdToString info.src) hub w).2.log = w.log ++ fired info hub w.env := by
  unfold maybeFireSenderEvent fired
  cases hintent : info.hasIntent with
  | false =>
    rw [if_pos rfl, if_neg (by simp), List.append_nil]
    rfl
  | true =>
    rw [if_neg (by simp), bind_apply]
    have hasked : surroundingPorts.isConnected w =
        (w.env.next.1.connected, ⟨w.env.next.2, w.log⟩) := rfl
    rw [hasked]
    dsimp only
    cases hconnected : w.env.next.1.connected with
    | false =>
      rw [if_pos rfl, if_neg (by simp), List.append_nil]
      rfl
    | true =>
      rw [if_neg (by simp)]
      cases hexposed : isExposedSender hub.exposedSenders (nodeIdToString info.src) with
      | false =>
        rw [if_pos rfl, if_neg (by simp), List.append_nil]
        rfl
      | true =>
        rw [if_neg (by simp), if_pos (by simp)]
        rfl

private theorem nodeIdToString_injective {a b : NodeId}
    (h : nodeIdToString a = nodeIdToString b) : a = b := by
  have hspelled := congrArg hexToNodeId h
  simpa using hspelled

private theorem nodeIdToString_ne_empty (a : NodeId) : "" ≠ nodeIdToString a := by
  intro h
  have hspelled := congrArg hexToNodeId h
  have hempty : hexToNodeId "" = none := by decide
  rw [hexToNodeId_nodeIdToString, hempty] at hspelled
  cases hspelled

/-- Two frames have one key for the filter exactly if they have one key for the law. -/
theorem isDuplicate_dedupState (f g : IoFrame) {earlier time : ℕ} (h : earlier ≤ time) :
    isDuplicate1wFrame (dedupState f (clockAt earlier)) (dedupState g (clockAt time))
        onewayDedupWindowMs = true ↔
      pressKey f = pressKey g ∧ (time - earlier) % clockPeriod < pressWindow := by
  have hage := clockAt_sub h
  have hwindow : clockAt time - clockAt earlier < onewayDedupWindowMs ↔
      (time - earlier) % clockPeriod < pressWindow := by
    rw [UInt32.lt_iff_toNat_lt, hage, pressWindow]
  have hsrc : nodeIdToString f.src = nodeIdToString g.src ↔ f.src = g.src :=
    ⟨nodeIdToString_injective, congrArg nodeIdToString⟩
  unfold isDuplicate1wFrame dedupState pressKey infoKey
  simp only [← hwindow, PressKey.mk.injEq, decode1wFrame_src, decode1wFrame_cmd]
  cases hf : (decode1wFrame f).hasIntent <;> cases hg : (decode1wFrame g).hasIntent <;>
    by_cases hs : f.src = g.src <;> by_cases hc : f.cmd = g.cmd <;>
    simp [hsrc, hs, hc, Classical.or_iff_not_imp_left]

/-- An event leaves the frame it processed as the last one, or the last one as it was. -/
theorem hubStep_last1wLogged (s : HubState) (e : HubEvent) :
    (hubStep s e).hub.oneWay.last1wLogged =
      match heard s e with
      | none => s.hub.oneWay.last1wLogged
      | some (frame, time) =>
        if isRepeat s.hub frame (clockAt time) then s.hub.oneWay.last1wLogged
        else dedupState frame (clockAt time) := by
  unfold heard
  cases haction : e.action with
  | command cmd =>
    unfold hubStep
    rw [haction]
    exact (obey_commanded s.hub cmd).traffic.last1wLogged
  | remotePollFires deviceId =>
    unfold hubStep
    rw [haction]
    exact (remotePollFires_commanded deviceId s.hub).traffic.last1wLogged
  | pass =>
    dsimp only
    by_cases hrunning : Running s.hub
    · have hheard := receive_afterHearing s.hub (e.surroundings s)
      have hrest := (hubStep_gate haction hrunning).last1wLogged
      rw [if_pos hrunning, hrest, atGate, hheard.oneWay, afterHearing]
      cases overheard s.hub (e.surroundings s).env with
      | none => rfl
      | some r => exact overhear_last1wLogged r.1 _ s.hub
    · unfold hubStep
      rw [haction, if_neg hrunning]
      dsimp only [act]
      rw [loop_idle _ hrunning]
      rfl

theorem heard_time {s : HubState} {e : HubEvent} {frame : IoFrame} {time : ℕ}
    (h : heard s e = some (frame, time)) : s.time ≤ time ∧ time ≤ (hubStep s e).time := by
  unfold heard at h
  cases haction : e.action with
  | command cmd => rw [haction] at h; cases h
  | remotePollFires deviceId => rw [haction] at h; cases h
  | pass =>
    rw [haction] at h
    dsimp only [overheard] at h
    split_ifs at h
    obtain ⟨frame', -, heq⟩ := Option.map_eq_some_iff.mp h
    cases heq
    have hstart : s.time ≤ (e.surroundings s).env.time := Nat.le_add_right _ _
    have hfirst := (e.surroundings s).env.time_le_next
    have hsecond := (e.surroundings s).env.next.2.time_le_next
    have hend := (e.surroundings s).env.next.2.next.2.time_le_endTime
    simp only [Surroundings.next_endTime] at hend
    exact ⟨by omega, hend⟩

/-- The packet that an event hears, the clock it reads, and the frame in it. -/
theorem heard_packet {s : HubState} {e : HubEvent} {frame : IoFrame} {time : ℕ}
    (h : heard s e = some (frame, time)) :
    ∃ packet, (e.surroundings s).env.next.1.packet = some packet ∧
      oneWayFrame s.hub packet = some frame ∧
      (e.surroundings s).env.next.2.next.2.time = time := by
  unfold heard at h
  cases haction : e.action with
  | command cmd => rw [haction] at h; cases h
  | remotePollFires deviceId => rw [haction] at h; cases h
  | pass =>
    rw [haction] at h
    dsimp only [overheard] at h
    split_ifs at h
    obtain ⟨frame', hbind, heq⟩ := Option.map_eq_some_iff.mp h
    obtain ⟨packet, hpacket, hframe⟩ := Option.bind_eq_some_iff.mp hbind
    cases heq
    exact ⟨packet, hpacket, hframe, rfl⟩

/-- Following a frame that was overheard processes it. -/
theorem followOneWayFrame_processes {s : HubState} {e : HubEvent} {frame : IoFrame}
    {oneWay : OneWayListening} {env : Surroundings}
    (h : atGate s e = followOneWayFrame surroundingPorts.toReceivePorts (decode1wFrame frame)
      (nodeIdToString frame.src) { s.hub with oneWay := oneWay } ⟨env, []⟩)
    (asked : env = (e.surroundings s).env.next.2.next.2) :
    Processes s e frame env.time := by
  subst asked
  have hfired := maybeFireSenderEvent_log (decode1wFrame frame) { s.hub with oneWay := oneWay }
    ⟨(e.surroundings s).env.next.2.next.2, [⟨(e.surroundings s).env.next.2.next.2.time,
      .remoteFrame (decode1wFrame frame)
        (s.hub.registry.linkedDevices (nodeIdToString frame.src))⟩]⟩
  rw [decode1wFrame_src] at hfired
  constructor
  · rw [h]
    refine Eq.trans ?_ hfired
    exact ((scheduleDevicePolls_untouched (surroundings_silent _) _ _ _) _ rfl).2
  · rw [h]
    have hpolled := scheduleDevicePolls_polls surroundingPorts.toReceivePorts
      (if (applyOptimisticLinkedState (decode1wFrame frame)
        (s.hub.resolve1wTargetDevices (decode1wFrame frame) (nodeIdToString frame.src))
          s.hub.registry).2 then 0 else remoteActivityStatusPollDelayMs)
      (s.hub.resolve1wTargetDevices (decode1wFrame frame) (nodeIdToString frame.src))
      { s.hub with
        registry := (applyOptimisticLinkedState (decode1wFrame frame)
          (s.hub.resolve1wTargetDevices (decode1wFrame frame) (nodeIdToString frame.src))
            s.hub.registry).1
        oneWay := oneWay }
    have hfollowed := hpolled (maybeFireSenderEvent surroundingPorts.toReceivePorts
      (decode1wFrame frame) (anyLinked (s.hub.registry.linkedDevices (nodeIdToString frame.src)))
        (nodeIdToString frame.src) { s.hub with oneWay := oneWay }
        ⟨(e.surroundings s).env.next.2.next.2, [⟨(e.surroundings s).env.next.2.next.2.time,
          .remoteFrame (decode1wFrame frame)
            (s.hub.registry.linkedDevices (nodeIdToString frame.src))⟩]⟩).2
    exact ⟨hfollowed.registry, hfollowed.timeouts, hfollowed.tracked, hfollowed.others⟩

/-- A repeat is dropped; any other press is processed. -/
theorem gate_processes {s : HubState} {e : HubEvent} {frame : IoFrame} {time : ℕ}
    (h : heard s e = some (frame, time)) :
    (isRepeat s.hub frame (clockAt time) = true → Drops s e) ∧
      (isRepeat s.hub frame (clockAt time) = false → Processes s e frame time) := by
  obtain ⟨packet, hpacket, hframe, rfl⟩ := heard_packet h
  have hgate : atGate s e = processOneWayFrame surroundingPorts.toReceivePorts frame s.hub
      ⟨(e.surroundings s).env.next.2, []⟩ := by
    rw [atGate, receive_packet hpacket, processReceivedPacket_oneWay _ hframe]
    rfl
  have hclock : surroundingPorts.toReceivePorts.millis ⟨(e.surroundings s).env.next.2, []⟩ =
      (clockAt (e.surroundings s).env.next.2.next.2.time,
        ⟨(e.surroundings s).env.next.2.next.2, []⟩) := rfl
  rw [processOneWayFrame_eq, bind_apply, hclock] at hgate
  dsimp only at hgate
  constructor
  · intro hrepeat
    rw [if_pos hrepeat, overhear_eq] at hgate
    exact ⟨by rw [hgate]; rfl, by rw [hgate]; rfl, by rw [hgate]; rfl, by rw [hgate]; rfl⟩
  · intro hnew
    rw [if_neg (by simp [hnew]), overhear_eq] at hgate
    exact followOneWayFrame_processes hgate rfl

/-- The hub remembers the last press on record. -/
structure Remembered (s : HubState × List Press) : Prop where
  inOrder : InOrder s.2 s.1.time
  nothing : s.2.getLast? = none → s.1.hub.oneWay.last1wLogged.srcId = ""
  last : ∀ p, s.2.getLast? = some p → ∃ frame, pressKey frame = p.key ∧
    s.1.hub.oneWay.last1wLogged = dedupState frame (clockAt p.time)

/-- The filter of the hub is the filter on the record. -/
theorem isRepeat_iff_repeatsLast {s : HubState × List Press} (remembered : Remembered s)
    (frame : IoFrame) {time : ℕ} (h : s.1.time ≤ time) :
    isRepeat s.1.hub frame (clockAt time) = true ↔
      RepeatsLast pressWindow clockPeriod s.2 (pressKey frame) time := by
  unfold isRepeat
  cases hlast : s.2.getLast? with
  | none =>
    have hsrc := remembered.nothing hlast
    constructor
    · intro hdup
      unfold isDuplicate1wFrame at hdup
      rw [if_pos (.inl (by rw [hsrc]; exact nodeIdToString_ne_empty frame.src))] at hdup
      cases hdup
    · rintro ⟨p, hp, -⟩
      rw [hlast] at hp
      cases hp
  | some p =>
    obtain ⟨logged, hkey, hlogged⟩ := remembered.last p hlast
    have hle : p.time ≤ time :=
      Nat.le_trans (remembered.inOrder.2 p (List.mem_of_getLast? hlast)) h
    rw [hlogged, isDuplicate_dedupState logged frame hle, hkey]
    constructor
    · rintro ⟨hsame, hage⟩
      exact ⟨p, hlast, hsame, hage⟩
    · rintro ⟨p', hp', hsame, hage⟩
      rw [hlast] at hp'
      cases hp'
      exact ⟨hsame, hage⟩

/-- What an operation asks for is no press. -/
theorem asks_noPress (op : PendingOperation) (hub : Hub) {r : HubReport}
    (h : r.output ∈ asks op hub) : pressOf r = none := by
  have hexchange : ∀ request, r.output ∈ exchangeFor request → pressOf r = none := by
    intro request hmem
    obtain ⟨frame, -, hframe⟩ := List.mem_map.mp hmem
    rw [pressOf, ← hframe]
  have hown : r.output ∈ [HubOutput.oneWay op] → pressOf r = none := by
    intro hmem
    rw [pressOf, List.mem_singleton.mp hmem]
  unfold asks at h
  cases htype : op.type with
  | discoverAndPair =>
    rw [htype] at h
    dsimp only at h
    split_ifs at h
    · rw [pressOf, List.mem_singleton.mp h]
    · cases h
  | onewayCommand => rw [htype] at h; exact hown h
  | onewayPosition => rw [htype] at h; exact hown h
  | onewayEnroll => rw [htype] at h; exact hown h
  | onewayUnenroll => rw [htype] at h; exact hown h
  | _ => rw [htype] at h; exact hexchange _ h

/-- The presses that a pass reports are those of its first part. -/
theorem pressed_gate {s : HubState} {e : HubEvent} (hpass : e.action = .pass)
    (hrunning : Running s.hub) :
    (reports s e).filterMap pressOf = (atGate s e).2.log.filterMap pressOf := by
  obtain ⟨asked, hlog, hasked⟩ := afterDispatch_asks hpass hrunning
  have hnone : ∀ r ∈ asked, pressOf r = none := by
    intro r hr
    have hmem : r.output ∈ ((letThrough s e).map fun op => asks op (atGate s e).1).getD [] := by
      rw [← hasked]
      exact List.mem_map_of_mem hr
    cases hop : letThrough s e with
    | none => rw [hop] at hmem; cases hmem
    | some op => rw [hop] at hmem; exact asks_noPress op _ hmem
  rw [(hubStep_pass hpass hrunning).2, hlog, List.filterMap_append,
    List.filterMap_eq_nil_iff.mpr hnone, List.append_nil]

/-- The first part of a pass reports nothing where it hears no one-way frame. -/
theorem gate_silent {s : HubState} {e : HubEvent}
    (h : overheard s.hub (e.surroundings s).env = none) : (atGate s e).2.log = [] := by
  unfold atGate
  cases hpacket : (e.surroundings s).env.next.1.packet with
  | none =>
    rw [receive_silent hpacket]
    rfl
  | some packet =>
    rw [receive_packet hpacket]
    have hother : oneWayFrame s.hub packet = none := by
      unfold overheard at h
      rw [hpacket] at h
      exact Option.map_eq_none_iff.mp h
    exact (processReceivedPacket_other (surroundings_silent []) hother
      ⟨(e.surroundings s).env.next.2, []⟩ rfl).2

/-- Only the presses that an event hears are reported as processed, unless it drops them. -/
theorem pressed_eq (s : HubState) (e : HubEvent) :
    (reports s e).filterMap pressOf =
      match heard s e with
      | none => []
      | some (frame, time) =>
        if isRepeat s.hub frame (clockAt time) then [] else [⟨pressKey frame, time⟩] := by
  by_cases hpass : e.action = .pass ∧ Running s.hub
  swap
  · -- no pass of a running hub: nothing is heard and nothing reported
    unfold heard reports
    cases haction : e.action with
    | command cmd => rfl
    | remotePollFires deviceId => rfl
    | pass =>
      have hrunning : ¬ Running s.hub := fun hrunning => hpass ⟨haction, hrunning⟩
      rw [if_neg hrunning]
      dsimp only [act]
      rw [loop_idle _ hrunning]
      rfl
  have hgate := pressed_gate hpass.1 hpass.2
  cases hheard : heard s e with
  | none =>
    have hnone : overheard s.hub (e.surroundings s).env = none := by
      rw [heard, hpass.1, if_pos hpass.2] at hheard
      exact hheard
    rw [hgate, gate_silent hnone]
    rfl
  | some r =>
    obtain ⟨frame, time⟩ := r
    obtain ⟨hdrops, hprocesses⟩ := gate_processes hheard
    dsimp only
    cases hrepeat : isRepeat s.hub frame (clockAt time) with
    | true =>
      rw [if_pos rfl, hgate, (hdrops hrepeat).silent]
      rfl
    | false =>
      rw [if_neg Bool.false_ne_true, hgate, (hprocesses hrepeat).reported]
      unfold fired
      split_ifs <;> rfl

theorem remembered_step (s : HubState × List Press) (e : HubEvent) (remembered : Remembered s) :
    Remembered (pressMachine.recording.step s e).1 := by
  have hlogged := hubStep_last1wLogged s.1 e
  have hlater := time_le_hubStep s.1 e
  have hpressed := pressed_eq s.1 e
  change Remembered (hubStep s.1 e, s.2 ++ (reports s.1 e).filterMap pressOf)
  rw [hpressed]
  cases hheard : heard s.1 e with
  | none =>
    rw [hheard] at hlogged
    rw [List.append_nil]
    refine ⟨remembered.inOrder.later hlater, ?_, ?_⟩
    · rw [hlogged]
      exact remembered.nothing
    · rw [hlogged]
      exact remembered.last
  | some r =>
    obtain ⟨frame, time⟩ := r
    obtain ⟨hstart, hend⟩ := heard_time hheard
    rw [hheard] at hlogged
    dsimp only at hlogged ⊢
    by_cases hrepeat : isRepeat s.1.hub frame (clockAt time) = true
    · rw [if_pos hrepeat, List.append_nil]
      rw [if_pos hrepeat] at hlogged
      refine ⟨remembered.inOrder.later hlater, ?_, ?_⟩
      · rw [hlogged]
        exact remembered.nothing
      · rw [hlogged]
        exact remembered.last
    · rw [if_neg hrepeat]
      rw [if_neg hrepeat] at hlogged
      refine ⟨((remembered.inOrder.later hstart).push (pressKey frame)).later hend, ?_, ?_⟩
      · intro hnone
        rw [List.getLast?_concat] at hnone
        cases hnone
      · intro p hp
        rw [List.getLast?_concat] at hp
        cases hp
        exact ⟨frame, rfl, hlogged⟩

/-- What is processed is not dropped. -/
theorem Processes.not_drops {s : HubState} {e : HubEvent} {frame : IoFrame} {time : ℕ}
    (h : Processes s e frame time) : ¬ Drops s e := by
  intro hdrops
  have hlog := h.reported.symm.trans hdrops.silent
  cases hlog

/-- One event keeps the law exactly if what it hears is undisturbed. -/
theorem oncePerPress_iff_heardUndisturbed (s : HubState × List Press) (e : HubEvent)
    (remembered : Remembered s) : OncePerPress s e ↔ HeardUndisturbed s e := by
  refine forall_congr' fun frame => forall_congr' fun time => forall_congr' fun hheard => ?_
  obtain ⟨hstart, -⟩ := heard_time hheard
  have hfilter := isRepeat_iff_repeatsLast remembered frame hstart
  have hlaw : (RepeatsLast pressWindow clockPeriod s.2 (pressKey frame) time ↔
      IsFreshRepeat PressKey.src pressWindow s.2 (pressKey frame) time) ↔
        Undisturbed PressKey.src pressWindow clockPeriod s.2 (pressKey frame) time :=
    repeatsLast_iff_isFreshRepeat (remembered.inOrder.later hstart) (by decide)
  obtain ⟨hdrops, hprocesses⟩ := gate_processes hheard
  rw [← hlaw, ← hfilter]
  cases hrepeat : isRepeat s.1.hub frame (clockAt time) with
  | true =>
    have hdropped := hdrops hrepeat
    refine ⟨fun h => iff_of_true rfl ?_, fun h => ⟨fun hnot => absurd (h.mp rfl) hnot,
      fun _ => hdropped⟩⟩
    by_contra hnot
    exact (h.1 hnot).not_drops hdropped
  | false =>
    have hprocessed := hprocesses hrepeat
    refine ⟨fun h => iff_of_false Bool.false_ne_true fun hfresh =>
      hprocessed.not_drops (h.2 hfresh), fun h => ⟨fun _ => hprocessed, fun hfresh => ?_⟩⟩
    exact absurd (h.mpr hfresh) Bool.false_ne_true

/-- Just booted: no one-way frame has been processed. -/
def booted (hub : Hub) (time : ℕ) : HubState :=
  ⟨{ hub with oneWay := { hub.oneWay with last1wLogged := {} } }, time⟩

/-- Over every run from boot, presses are processed by the law of one press exactly while every
press is heard undisturbed. -/
theorem presses_processed_once_iff_undisturbed (hub : Hub) (time : ℕ) (es : List HubEvent) :
    pressMachine.recording.Along OncePerPress (booted hub time, []) es ↔
      pressMachine.recording.Along HeardUndisturbed (booted hub time, []) es := by
  have hboot : Remembered (booted hub time, []) := by
    refine ⟨⟨List.Pairwise.nil, nofun⟩, fun _ => rfl, nofun⟩
  exact pressMachine.recording.along_iff_along remembered_step
    oncePerPress_iff_heardUndisturbed hboot es

/-- A press of one remote, a press of another, and the repeat of the first, 20 ms apart. -/
def interleavedPresses : List HubEvent :=
  [hearing 1000 ⟨0xA1, 0, 0⟩ 0, hearing 20 ⟨0xB2, 0, 0⟩ 0, hearing 20 ⟨0xA1, 0, 0⟩ 0]

/-- The state in which the repeat of `interleavedPresses` is heard. -/
def beforeRepeat : HubState × List Press :=
  pressMachine.recording.run (booted { nodeId := ⟨0, 0, 1⟩ } 0, []) (interleavedPresses.take 2)

/-- The repeat is a fresh one: its remote made no other press since. -/
theorem beforeRepeat_fresh : IsFreshRepeat PressKey.src pressWindow beforeRepeat.2
    (pressKey (remoteFrame ⟨0xA1, 0, 0⟩ 0)) 1040 := by
  have hrecord : beforeRepeat.2 = [] ++ ⟨pressKey (remoteFrame ⟨0xA1, 0, 0⟩ 0), 1000⟩ ::
      [⟨pressKey (remoteFrame ⟨0xB2, 0, 0⟩ 0), 1020⟩] := by
    decide
  refine ⟨_, _, _, hrecord, rfl, by decide, ?_⟩
  intro q hq hsrc
  rw [List.mem_singleton.mp hq] at hsrc
  have hother : (pressKey (remoteFrame ⟨0xB2, 0, 0⟩ 0)).src ≠
      (pressKey (remoteFrame ⟨0xA1, 0, 0⟩ 0)).src := by
    decide
  exact absurd hsrc hother

/-- The repeat of a press is processed again when another remote was heard in between. -/
theorem interleaved_press_is_processed_twice :
    ¬ ∀ (hub : Hub) (time : ℕ) (es : List HubEvent),
      pressMachine.recording.Along OncePerPress (booted hub time, []) es := by
  intro h
  obtain ⟨-, -, hthird, -⟩ := h { nodeId := ⟨0, 0, 1⟩ } 0 interleavedPresses
  have hlaw : OncePerPress beforeRepeat (hearing 20 ⟨0xA1, 0, 0⟩ 0) := hthird
  have hheard : heard beforeRepeat.1 (hearing 20 ⟨0xA1, 0, 0⟩ 0) =
      some (remoteFrame ⟨0xA1, 0, 0⟩ 0, 1040) := by
    decide
  have hreported : (atGate beforeRepeat.1 (hearing 20 ⟨0xA1, 0, 0⟩ 0)).2.log.length = 1 := by
    decide
  have hdropped : Drops beforeRepeat.1 (hearing 20 ⟨0xA1, 0, 0⟩ 0) :=
    (hlaw _ _ hheard).2 beforeRepeat_fresh
  have hsilent := congrArg List.length hdropped.silent
  rw [hreported] at hsilent
  cases hsilent

end HomeIoControl.OneWayPresses
