import HomeIoControl.HubFrames
import HomeIoControl.OneWayFrames
import HomeIoControl.QueueEdits

/-!
# Adopting a one-way key

Arming opens a window. A key frame heard in it is reported and closes it, as do a disarming and
the auto-off timer of that arming; an arming opens a new one. A window is read off the events
since its arming, and the listener's flag, timer and observation follow it. What the responder of
a key extraction takes is not heard.
-/

namespace HomeIoControl.KeyAdoptions

open MachineRuns QueueEdits ProtocolFrames ProtocolCrypto ProtocolCommands ProtocolCodecs
  DeviceModels PairingResponder HubStatus HubLoop HubFrames OneWayFrames

def onewayKeyAdoptionAutoOffMs : ℕ := 10 * 60 * 1000

/-- What is reported of a recovered key: the identity, and the type of its sender if that was
observed. -/
structure Report where
  adopted : OneWayAdoptedKey
  observedType : Option DeviceType
  deriving DecidableEq

/-- The hub with its timer `oneway_key_adoption_auto_off`. -/
structure Listener where
  hub : Hub
  autoOff : Option ℕ

inductive Output where
  | report (r : Report)
  | armedCallback (armed : Bool)
  deriving DecidableEq

/-- What happens to the hub. Its responder is armed, disarmed and timed out on its own terms; the
challenge is what it draws if it takes a frame. -/
inductive Action where
  | setArmed
  | setDisarmed
  | hears (frame : IoFrame) (candidateChallenge : Challenge)
  | autoOffFires
  | extraction (responder : KeyExtraction)

/-- An action, and its time in unbounded milliseconds since boot. -/
structure Event where
  now : ℕ
  action : Action

namespace Listener

/-- Just booted: neither the listener nor the responder is armed. -/
def boot (hub : Hub) : Listener := ⟨{ hub with oneWay := {}, keyExtraction := {} }, none⟩

def armed (s : Listener) : Bool := s.hub.oneWay.keyAdoptionArmed

/-- `set_oneway_key_adoption_armed(true)`: a pending timer of the name is replaced. -/
def setArmed (s : Listener) (now : ℕ) : Listener × List Output :=
  let oneWay := { s.hub.oneWay with keyAdoptionArmed := true, lastObservedClass := none }
  (⟨{ s.hub with oneWay := oneWay }, some (now + onewayKeyAdoptionAutoOffMs)⟩,
    [.armedCallback true])

/-- `set_oneway_key_adoption_armed(false)`: the timer stays pending. -/
def setDisarmed (s : Listener) : Listener × List Output :=
  if s.armed = false then (s, [])
  else
    let oneWay := { s.hub.oneWay with keyAdoptionArmed := false }
    ({ s with hub := { s.hub with oneWay := oneWay } }, [.armedCallback false])

end Listener

/-- The observed type of a sender: the last typed broadcast must have been its own. -/
def observedType (lastObserved : Option (NodeId × DeviceType)) (sender : NodeId) :
    Option DeviceType :=
  (lastObserved.filter fun observed => observed.1 = sender).map Prod.snd

/-- The report of `try_adopt_oneway_key_`. -/
def adoptionReport (hub : Hub) (frame : IoFrame) : Option Report :=
  if hub.oneWay.keyAdoptionArmed = false ∨ frame.cmd ≠ cmdOnewayAddController then none
  else
    match decode1wAddController frame with
    | .error _ => none
    | .ok adopted => some ⟨adopted, observedType hub.oneWay.lastObservedClass adopted.senderNode⟩

/-- A frame that the responder leaves comes to the one-way branch of `process_received_packet_`. -/
def comesToOneWay (frame : IoFrame) : Bool :=
  !HubStatus.isExchangeInternalCommand frame.cmd && is1w frame

namespace Listener

/-- A received frame, which the responder may take. Otherwise the class observation comes before
the adoption. -/
def hears (s : Listener) (now : ℕ) (frame : IoFrame) (candidateChallenge : Challenge) :
    Listener × List Output :=
  match tryHandleKeyExtractionFrame (clockAt now) candidateChallenge s.hub.keyExtraction frame with
  | some (keyExtraction, _) => ({ s with hub := { s.hub with keyExtraction := keyExtraction } }, [])
  | none =>
    if comesToOneWay frame = false then (s, [])
    else
      let observed := (s.hub.record1wActivity (clockAt now)).recordOnewayObservedClass
        (decode1wFrame frame)
      ({ s with hub := observed.tryAdoptOnewayKey frame },
        match adoptionReport observed frame with
        | none => []
        | some r => [.report r, .armedCallback false])

/-- One event. The timer fires when it is pending and due. -/
def step (s : Listener) (e : Event) : Listener × List Output :=
  match e.action with
  | .setArmed => s.setArmed e.now
  | .setDisarmed => s.setDisarmed
  | .hears frame candidateChallenge => s.hears e.now frame candidateChallenge
  | .autoOffFires =>
    match s.autoOff with
    | none => (s, [])
    | some deadline =>
      if deadline ≤ e.now then setDisarmed { s with autoOff := none } else (s, [])
  | .extraction responder => ({ s with hub := { s.hub with keyExtraction := responder } }, [])

end Listener

def listenerMachine : Machine Listener Event Output := ⟨Listener.step⟩

/-- A key is recovered from the frame. -/
def bearsKey (frame : IoFrame) : Bool := (decode1wAddController frame).isOk

/-- What a frame tells of its sender's class. -/
def typed (frame : IoFrame) : Option (NodeId × DeviceType) :=
  if comesToOneWay frame = false ∨ broadcastTargetType frame.dst = .unknown then none
  else some (frame.src, broadcastTargetType frame.dst)

/-- What an event leaves of the responder. -/
def responderStep (responder : KeyExtraction) (e : Event) : KeyExtraction :=
  match e.action with
  | .hears frame candidateChallenge =>
    ((tryHandleKeyExtractionFrame (clockAt e.now) candidateChallenge responder frame).map
      Prod.fst).getD responder
  | .extraction responder => responder
  | _ => responder

/-- The frame that an event brings to the listener: the responder has left it. -/
def Event.frame (responder : KeyExtraction) (e : Event) : Option IoFrame :=
  match e.action with
  | .hears frame candidateChallenge =>
    if (tryHandleKeyExtractionFrame (clockAt e.now) candidateChallenge responder frame).isSome then
      none
    else some frame
  | _ => none

/-- The frames that a history brings to the listener. -/
def framesHeard : KeyExtraction → List Event → List IoFrame
  | _, [] => []
  | responder, e :: es =>
    (e.frame responder).toList ++ framesHeard (responderStep responder e) es

/-- An open window: when it was opened, and the frames heard since. -/
structure Window where
  opened : ℕ
  heard : List IoFrame

/-- What an event does to windows. -/
def windowStep (responder : KeyExtraction) (w : Option Window) (e : Event) : Option Window :=
  match e.action with
  | .setArmed => some ⟨e.now, []⟩
  | .setDisarmed => none
  | .hears frame _ =>
    if bearsKey frame then none
    else w.map fun w => { w with heard := w.heard ++ (e.frame responder).toList }
  | .autoOffFires => w.filter fun w => e.now < w.opened + onewayKeyAdoptionAutoOffMs
  | .extraction _ => w

/-- The window that a history leaves open, with the responder it leaves. -/
def windowsAfter (responder : KeyExtraction) (w : Option Window) :
    List Event → KeyExtraction × Option Window :=
  List.foldl (fun v e => (responderStep v.1 e, windowStep v.1 v.2 e)) (responder, w)

/-- The responder that a history from boot leaves. -/
def responderAfter (es : List Event) : KeyExtraction := es.foldl responderStep {}

/-- The event leaves open the window that was opened at a time. -/
def KeepsOpen (opened : ℕ) (e : Event) : Prop :=
  match e.action with
  | .setArmed => False
  | .setDisarmed => False
  | .hears frame _ => bearsKey frame = false
  | .autoOffFires => e.now < opened + onewayKeyAdoptionAutoOffMs
  | .extraction _ => True

/-- In the history, an arming is followed by nothing that closes its window. -/
def OpenedBy (es : List Event) (w : Window) : Prop :=
  ∃ before after, es = before ++ ⟨w.opened, .setArmed⟩ :: after ∧
    (∀ e ∈ after, KeepsOpen w.opened e) ∧ w.heard = framesHeard (responderAfter before) after

theorem windowsAfter_cons (responder : KeyExtraction) (w : Option Window) (e : Event)
    (es : List Event) : windowsAfter responder w (e :: es) =
      windowsAfter (responderStep responder e) (windowStep responder w e) es := rfl

theorem windowsAfter_append (responder : KeyExtraction) (w : Option Window) (es es' : List Event) :
    windowsAfter responder w (es ++ es') =
      windowsAfter (windowsAfter responder w es).1 (windowsAfter responder w es).2 es' :=
  List.foldl_append

theorem windowsAfter_responder (responder : KeyExtraction) (w : Option Window) (es : List Event) :
    (windowsAfter responder w es).1 = es.foldl responderStep responder := by
  induction es generalizing responder w with
  | nil => rfl
  | cons e es ih => exact ih _ _

theorem framesHeard_append (responder : KeyExtraction) (es es' : List Event) :
    framesHeard responder (es ++ es') =
      framesHeard responder es ++ framesHeard (es.foldl responderStep responder) es' := by
  induction es generalizing responder with
  | nil => rfl
  | cons e es ih => rw [List.cons_append, framesHeard, framesHeard, ih, List.append_assoc]; rfl

theorem windowStep_keepsOpen {w : Window} {e : Event} (h : KeepsOpen w.opened e)
    (responder : KeyExtraction) : windowStep responder (some w) e =
      some ⟨w.opened, w.heard ++ (e.frame responder).toList⟩ := by
  obtain ⟨opened, heard⟩ := w
  obtain ⟨now, action⟩ := e
  cases action with
  | setArmed => exact absurd h id
  | setDisarmed => exact absurd h id
  | hears frame candidateChallenge =>
    have hkey : bearsKey frame = false := h
    simp [windowStep, hkey]
  | autoOffFires =>
    have hdue : now < opened + onewayKeyAdoptionAutoOffMs := h
    simp [windowStep, hdue, Event.frame, Option.filter]
  | extraction keyExtraction => simp [windowStep, Event.frame]

theorem windowsAfter_keepsOpen {opened : ℕ} {es : List Event}
    (h : ∀ e ∈ es, KeepsOpen opened e) (responder : KeyExtraction) (heard : List IoFrame) :
    (windowsAfter responder (some ⟨opened, heard⟩) es).2 =
      some ⟨opened, heard ++ framesHeard responder es⟩ := by
  induction es generalizing responder heard with
  | nil => simp [windowsAfter, framesHeard]
  | cons e es ih =>
    have hrest := ih fun e' he' => h e' (List.mem_cons_of_mem _ he')
    rw [windowsAfter_cons, windowStep_keepsOpen (h e List.mem_cons_self), hrest, framesHeard,
      List.append_assoc]

/-- An event after which a window is open has opened it or left it open. -/
theorem windowStep_eq_some {responder : KeyExtraction} {w : Option Window} {e : Event}
    {w' : Window} (h : windowStep responder w e = some w') :
    (e = ⟨w'.opened, .setArmed⟩ ∧ w'.heard = []) ∨
      ∃ w₀, w = some w₀ ∧ w₀.opened = w'.opened ∧ KeepsOpen w'.opened e ∧
        w'.heard = w₀.heard ++ (e.frame responder).toList := by
  obtain ⟨now, action⟩ := e
  cases action with
  | setArmed =>
    left
    rw [← Option.some.inj h]
    exact ⟨rfl, rfl⟩
  | setDisarmed => cases h
  | hears frame candidateChallenge =>
    right
    dsimp only [windowStep] at h
    split_ifs at h with hkey
    obtain ⟨w₀, rfl, rfl⟩ := Option.map_eq_some_iff.mp h
    exact ⟨w₀, rfl, rfl, Bool.eq_false_iff.mpr hkey, rfl⟩
  | autoOffFires =>
    right
    obtain ⟨rfl, hdue⟩ := Option.filter_eq_some_iff.mp h
    have hopen : now < w'.opened + onewayKeyAdoptionAutoOffMs := of_decide_eq_true hdue
    exact ⟨w', rfl, rfl, hopen, by simp [Event.frame]⟩
  | extraction keyExtraction =>
    right
    exact ⟨w', h, rfl, trivial, by simp [Event.frame]⟩

/-- The fold of a history finds the window that the history tells of. -/
theorem windowsAfter_eq_some_iff {es : List Event} {w : Window} :
    (windowsAfter {} none es).2 = some w ↔ OpenedBy es w := by
  constructor
  · induction es using List.reverseRecOn generalizing w with
    | nil =>
      intro h
      cases h
    | append_singleton es e ih =>
      intro h
      rw [windowsAfter_append] at h
      rcases windowStep_eq_some h with ⟨rfl, hheard⟩ | ⟨w₀, hw₀, hopened, hkeeps, hheard⟩
      · exact ⟨es, [], rfl, by simp, hheard⟩
      · obtain ⟨before, after, rfl, hall, hfirst⟩ := ih hw₀
        rw [hopened] at hall ⊢
        refine ⟨before, after ++ [e], by simp, ?_, ?_⟩
        · intro e' he'
          rcases List.mem_append.mp he' with he' | he'
          · exact hall e' he'
          · rw [List.mem_singleton.mp he']
            exact hkeeps
        · have hresponder : (windowsAfter {} none
              (before ++ ⟨w₀.opened, .setArmed⟩ :: after)).1 =
                after.foldl responderStep (responderAfter before) := by
            rw [windowsAfter_responder, List.foldl_append]
            rfl
          dsimp only at hheard
          rw [hheard, hfirst, framesHeard_append, hresponder, framesHeard, framesHeard,
            List.append_nil]
  · rintro ⟨before, after, rfl, hall, hheard⟩
    rw [windowsAfter_append, windowsAfter_cons]
    change (windowsAfter _ (some ⟨w.opened, []⟩) after).2 = some w
    rw [windowsAfter_keepsOpen hall, List.nil_append, windowsAfter_responder]
    exact congrArg some (congrArg (Window.mk w.opened) hheard.symm)

/-- The listener is armed exactly in a window. In it the timer of its arming is pending, and the
observation is the last one the window has heard. The responder is that of the history. -/
structure Follows (s : Listener) (responder : KeyExtraction) (w : Option Window) : Prop where
  responder : s.hub.keyExtraction = responder
  armed : s.armed = w.isSome
  autoOff : ∀ v ∈ w, s.autoOff = some (v.opened + onewayKeyAdoptionAutoOffMs)
  observed : ∀ v ∈ w, s.hub.oneWay.lastObservedClass = lastAssigned typed v.heard

theorem follows_boot (hub : Hub) : Follows (.boot hub) {} none :=
  ⟨rfl, rfl, by simp, by simp⟩

/-- Nothing but the flag tells of a closed window. -/
theorem follows_none {s : Listener} {responder : KeyExtraction}
    (hresponder : s.hub.keyExtraction = responder) (h : s.armed = false) :
    Follows s responder none :=
  ⟨hresponder, h, by simp, by simp⟩

theorem setDisarmed_keyExtraction (s : Listener) :
    s.setDisarmed.1.hub.keyExtraction = s.hub.keyExtraction := by
  unfold Listener.setDisarmed
  split_ifs <;> rfl

theorem setDisarmed_armed (s : Listener) : s.setDisarmed.1.armed = false := by
  unfold Listener.setDisarmed
  split_ifs with h
  · exact h
  · rfl

/-- A key is recovered only from a frame of the one-way branch. -/
theorem comesToOneWay_of_bearsKey {frame : IoFrame} (h : bearsKey frame = true) :
    comesToOneWay frame = true ∧ frame.cmd = cmdOnewayAddController := by
  unfold bearsKey decode1wAddController at h
  split_ifs at h with honeway hcmd hlength
  · cases h
  · cases h
  · cases h
  · rw [Bool.not_eq_false] at honeway
    rw [not_not] at hcmd
    rw [comesToOneWay, honeway, hcmd]
    exact ⟨rfl, rfl⟩

/-- The responder leaves key frames. -/
theorem tryHandleKeyExtractionFrame_of_bearsKey {frame : IoFrame} (h : bearsKey frame = true)
    (now : UInt32) (candidateChallenge : Challenge) (responder : KeyExtraction) :
    tryHandleKeyExtractionFrame now candidateChallenge responder frame = none := by
  have hcmd := (comesToOneWay_of_bearsKey h).2
  unfold tryHandleKeyExtractionFrame
  rw [hcmd]
  split_ifs <;> first | rfl | contradiction

theorem decode1wFrame_src (frame : IoFrame) : (decode1wFrame frame).src = frame.src := by
  unfold decode1wFrame
  split_ifs <;> rfl

theorem decode1wFrame_targetType (frame : IoFrame) :
    (decode1wFrame frame).targetType = broadcastTargetType frame.dst := by
  unfold decode1wFrame
  split_ifs <;> rfl

section

variable {s : Listener} {responder : KeyExtraction} {frame : IoFrame}

/-- The hub after the class observation of a frame. -/
def observing (s : Listener) (now : ℕ) (frame : IoFrame) : Hub :=
  (s.hub.record1wActivity (clockAt now)).recordOnewayObservedClass (decode1wFrame frame)

theorem observing_armed (s : Listener) (now : ℕ) (frame : IoFrame) :
    (observing s now frame).oneWay.keyAdoptionArmed = s.armed := by
  unfold observing Hub.recordOnewayObservedClass
  split_ifs <;> rfl

theorem observing_keyExtraction (s : Listener) (now : ℕ) (frame : IoFrame) :
    (observing s now frame).keyExtraction = s.hub.keyExtraction := by
  unfold observing Hub.recordOnewayObservedClass
  split_ifs <;> rfl

theorem observing_lastObservedClass (armed : s.armed = true) (comes : comesToOneWay frame = true)
    (now : ℕ) : (observing s now frame).oneWay.lastObservedClass =
      (typed frame).or s.hub.oneWay.lastObservedClass := by
  have harmed : (s.hub.record1wActivity (clockAt now)).oneWay.keyAdoptionArmed = true := armed
  unfold observing Hub.recordOnewayObservedClass typed
  rw [harmed, comes, decode1wFrame_targetType, decode1wFrame_src]
  by_cases htype : broadcastTargetType frame.dst = .unknown
  · simp only [htype, or_true, if_true, Option.none_or]
    rfl
  · simp only [htype, Bool.true_eq_false, or_self, if_false, Option.some_or]

/-- Adoption forgets nothing but the flag. -/
theorem tryAdoptOnewayKey_lastObservedClass (hub : Hub) (frame : IoFrame) :
    (hub.tryAdoptOnewayKey frame).oneWay.lastObservedClass = hub.oneWay.lastObservedClass := by
  unfold Hub.tryAdoptOnewayKey
  split_ifs
  · rfl
  · split <;> rfl

theorem tryAdoptOnewayKey_armed (hub : Hub) (frame : IoFrame) :
    (hub.tryAdoptOnewayKey frame).oneWay.keyAdoptionArmed =
      (hub.oneWay.keyAdoptionArmed && !bearsKey frame) := by
  unfold Hub.tryAdoptOnewayKey
  split_ifs with h
  · rcases h with h | hcmd
    · rw [h]
      rfl
    · have hbears : bearsKey frame = false := by
        rw [Bool.eq_false_iff]
        intro hbears
        exact hcmd (comesToOneWay_of_bearsKey hbears).2
      rw [hbears, Bool.not_false, Bool.and_true]
  · unfold bearsKey
    cases decode1wAddController frame with
    | error _ => simp [Except.isOk, Except.toBool]
    | ok _ => simp [Except.isOk, Except.toBool]

theorem tryAdoptOnewayKey_keyExtraction (hub : Hub) (frame : IoFrame) :
    (hub.tryAdoptOnewayKey frame).keyExtraction = hub.keyExtraction := by
  unfold Hub.tryAdoptOnewayKey
  split_ifs
  · rfl
  · split <;> rfl

/-- A frame that the responder takes leaves the window as it is. -/
theorem follows_taken {w : Option Window} (h : Follows s responder w) {now : ℕ}
    {candidateChallenge : Challenge} {r : KeyExtraction × List ResponderEffect}
    (taken : tryHandleKeyExtractionFrame (clockAt now) candidateChallenge responder frame =
      some r) :
    Follows (s.hears now frame candidateChallenge).1
      (responderStep responder ⟨now, .hears frame candidateChallenge⟩)
      (windowStep responder w ⟨now, .hears frame candidateChallenge⟩) := by
  have hbears : bearsKey frame = false := by
    rw [Bool.eq_false_iff]
    intro hbears
    rw [tryHandleKeyExtractionFrame_of_bearsKey hbears] at taken
    cases taken
  have hwindow : windowStep responder w ⟨now, .hears frame candidateChallenge⟩ = w := by
    simp [windowStep, hbears, Event.frame, taken]
  rw [hwindow]
  unfold Listener.hears
  dsimp only [responderStep]
  rw [h.responder, taken]
  exact ⟨rfl, h.armed, h.autoOff, h.observed⟩

/-- The frames heard in a window, with one more, of which none bears a key. -/
theorem follows_hears {w : Option Window} (h : Follows s responder w) {now : ℕ}
    {candidateChallenge : Challenge}
    (left : tryHandleKeyExtractionFrame (clockAt now) candidateChallenge responder frame = none) :
    Follows (s.hears now frame candidateChallenge).1
      (responderStep responder ⟨now, .hears frame candidateChallenge⟩)
      (windowStep responder w ⟨now, .hears frame candidateChallenge⟩) := by
  have hresponder : responderStep responder ⟨now, .hears frame candidateChallenge⟩ = responder := by
    simp [responderStep, left]
  have hframe : Event.frame responder ⟨now, .hears frame candidateChallenge⟩ = some frame := by
    simp [Event.frame, left]
  have hkeeps : ((observing s now frame).tryAdoptOnewayKey frame).keyExtraction = responder := by
    rw [tryAdoptOnewayKey_keyExtraction, observing_keyExtraction, h.responder]
  rw [hresponder]
  unfold Listener.hears
  dsimp only [windowStep]
  rw [hframe, h.responder, left]
  dsimp only
  split_ifs with hcomes hbears hbears
  · rw [(comesToOneWay_of_bearsKey hbears).1] at hcomes
    cases hcomes
  · cases w with
    | none => exact h
    | some v =>
      refine ⟨h.responder, h.armed, fun u hu => ?_, fun u hu => ?_⟩ <;>
        obtain rfl := Option.some.inj hu
      · exact h.autoOff v rfl
      · have hnone : typed frame = none := if_pos (Or.inl hcomes)
        dsimp only [Option.toList]
        rw [lastAssigned_append, lastAssigned_cons, hnone]
        exact h.observed v rfl
  · refine follows_none hkeeps ?_
    change ((observing s now frame).tryAdoptOnewayKey frame).oneWay.keyAdoptionArmed = false
    rw [tryAdoptOnewayKey_armed, hbears, Bool.not_true, Bool.and_false]
  · have harmed : ((observing s now frame).tryAdoptOnewayKey frame).oneWay.keyAdoptionArmed =
        s.armed := by
      rw [tryAdoptOnewayKey_armed, observing_armed, Bool.eq_false_iff.mpr hbears, Bool.not_false,
        Bool.and_true]
    cases w with
    | none => exact follows_none hkeeps (harmed.trans h.armed)
    | some v =>
      refine ⟨hkeeps, harmed.trans h.armed, fun u hu => ?_, fun u hu => ?_⟩ <;>
        obtain rfl := Option.some.inj hu
      · exact h.autoOff v rfl
      · change ((observing s now frame).tryAdoptOnewayKey frame).oneWay.lastObservedClass = _
        dsimp only [Option.toList]
        rw [tryAdoptOnewayKey_lastObservedClass,
          observing_lastObservedClass h.armed (Bool.eq_true_of_not_eq_false hcomes),
          h.observed v rfl, lastAssigned_append]
        simp

end

/-- Each event takes the listener along with the windows. -/
theorem follows_step {s : Listener} {responder : KeyExtraction} {w : Option Window}
    (h : Follows s responder w) (e : Event) :
    Follows (s.step e).1 (responderStep responder e) (windowStep responder w e) := by
  obtain ⟨now, action⟩ := e
  cases action with
  | setArmed =>
    refine ⟨h.responder, rfl, fun v hv => ?_, fun v hv => ?_⟩ <;> obtain rfl := Option.some.inj hv
    · rfl
    · rfl
  | setDisarmed =>
    exact follows_none ((setDisarmed_keyExtraction s).trans h.responder) (setDisarmed_armed s)
  | hears frame candidateChallenge =>
    cases htry : tryHandleKeyExtractionFrame (clockAt now) candidateChallenge responder frame with
    | none => exact follows_hears h htry
    | some r => exact follows_taken h htry
  | extraction keyExtraction => exact ⟨rfl, h.armed, h.autoOff, h.observed⟩
  | autoOffFires =>
    dsimp only [Listener.step, windowStep, responderStep]
    cases w with
    | none =>
      split
      · exact h
      · split_ifs
        · exact follows_none ((setDisarmed_keyExtraction _).trans h.responder)
            (setDisarmed_armed _)
        · exact h
    | some v =>
      rw [h.autoOff v rfl]
      dsimp only
      split_ifs with hdue
      · have hclosed : Option.filter (fun w => decide (now < w.opened + onewayKeyAdoptionAutoOffMs))
            (some v) = none := by simp [Option.filter, hdue]
        rw [hclosed]
        exact follows_none ((setDisarmed_keyExtraction _).trans h.responder) (setDisarmed_armed _)
      · have hopen : Option.filter (fun w => decide (now < w.opened + onewayKeyAdoptionAutoOffMs))
            (some v) = some v := by simp [Option.filter, Nat.lt_of_not_le hdue]
        rw [hopen]
        exact h

theorem follows_run {s : Listener} {responder : KeyExtraction} {w : Option Window}
    (h : Follows s responder w) (es : List Event) :
    Follows (listenerMachine.run s es) (windowsAfter responder w es).1
      (windowsAfter responder w es).2 := by
  induction es generalizing s responder w with
  | nil => exact h
  | cons e es ih => exact ih (follows_step h e)

theorem adoptionReport_eq_some_iff {hub : Hub} {frame : IoFrame} {r : Report} :
    adoptionReport hub frame = some r ↔ hub.oneWay.keyAdoptionArmed = true ∧
      decode1wAddController frame = .ok r.adopted ∧
      r.observedType = observedType hub.oneWay.lastObservedClass r.adopted.senderNode := by
  have hcommand : ∀ adopted, decode1wAddController frame = .ok adopted →
      frame.cmd = cmdOnewayAddController := by
    intro adopted hdecode
    refine (comesToOneWay_of_bearsKey ?_).2
    rw [bearsKey, hdecode]
    rfl
  unfold adoptionReport
  split_ifs with hquiet
  · refine iff_of_false (by simp) ?_
    rintro ⟨harmed, hdecode, -⟩
    rcases hquiet with hquiet | hquiet
    · rw [harmed] at hquiet
      cases hquiet
    · exact hquiet (hcommand _ hdecode)
  · rw [not_or, Bool.not_eq_false] at hquiet
    obtain ⟨adopted, observed⟩ := r
    cases decode1wAddController frame with
    | error _ => simp
    | ok key =>
      simp only [Option.some.injEq, Report.mk.injEq, Except.ok.injEq, hquiet.1, true_and]
      refine and_congr_right fun hkey => ?_
      rw [hkey]
      exact eq_comm

/-- A frame is reported when a window is open and a key is recovered from it. -/
theorem report_mem_iff {s : Listener} {responder : KeyExtraction} {w : Option Window}
    (h : Follows s responder w) (e : Event) (r : Report) :
    .report r ∈ (s.step e).2 ↔ ∃ v frame candidateChallenge, w = some v ∧
      e.action = .hears frame candidateChallenge ∧
      decode1wAddController frame = .ok r.adopted ∧
      r.observedType = observedType (lastAssigned typed (v.heard ++ [frame]))
        r.adopted.senderNode := by
  obtain ⟨now, action⟩ := e
  cases action with
  | setArmed => simp [Listener.step, Listener.setArmed]
  | setDisarmed =>
    dsimp only [Listener.step, Listener.setDisarmed]
    split_ifs <;> simp
  | extraction keyExtraction => simp [Listener.step]
  | autoOffFires =>
    dsimp only [Listener.step]
    split
    · simp
    · unfold Listener.setDisarmed
      split_ifs <;> simp
  | hears frame candidateChallenge =>
    have hreport : .report r ∈ (s.step ⟨now, .hears frame candidateChallenge⟩).2 ↔
        tryHandleKeyExtractionFrame (clockAt now) candidateChallenge s.hub.keyExtraction frame =
          none ∧ comesToOneWay frame = true ∧
          adoptionReport (observing s now frame) frame = some r := by
      dsimp only [Listener.step, Listener.hears]
      cases tryHandleKeyExtractionFrame (clockAt now) candidateChallenge s.hub.keyExtraction
        frame with
      | some taken => simp
      | none =>
        dsimp only
        split_ifs with hcomes
        · simp [hcomes]
        · rw [Bool.eq_true_of_not_eq_false hcomes]
          change _ ∈ (match adoptionReport (observing s now frame) frame with
            | none => []
            | some r => [Output.report r, .armedCallback false]) ↔ _
          cases adoptionReport (observing s now frame) frame <;> simp [eq_comm]
    rw [hreport, adoptionReport_eq_some_iff, observing_armed, h.armed]
    constructor
    · rintro ⟨-, hcomes, hopen, hdecode, hobserved⟩
      obtain ⟨v, rfl⟩ := Option.isSome_iff_exists.mp hopen
      rw [observing_lastObservedClass h.armed hcomes, h.observed v rfl] at hobserved
      refine ⟨v, frame, candidateChallenge, rfl, rfl, hdecode, ?_⟩
      rw [lastAssigned_append, hobserved]
      simp
    · rintro ⟨v, frame', challenge', rfl, hframe, hdecode, hobserved⟩
      obtain ⟨rfl, -⟩ := Action.hears.inj hframe
      have hbears : bearsKey frame = true := by
        rw [bearsKey, hdecode]
        rfl
      have hcomes := (comesToOneWay_of_bearsKey hbears).1
      refine ⟨tryHandleKeyExtractionFrame_of_bearsKey hbears _ _ _, hcomes, rfl, hdecode, ?_⟩
      rw [observing_lastObservedClass h.armed hcomes, h.observed v rfl, hobserved,
        lastAssigned_append]
      simp

/-- At any time a key is reported exactly when the history has an arming that nothing has closed
since: no disarming, no timer that was due for it, no earlier key frame. The type comes with it if
the last typed broadcast heard since that arming was the sender's. -/
theorem reported_iff_in_open_window (hub : Hub) (es : List Event) (e : Event) (r : Report) :
    .report r ∈ ((listenerMachine.run (.boot hub) es).step e).2 ↔
      ∃ w frame candidateChallenge, OpenedBy es w ∧ e.action = .hears frame candidateChallenge ∧
        decode1wAddController frame = .ok r.adopted ∧
        r.observedType = observedType (lastAssigned typed (w.heard ++ [frame]))
          r.adopted.senderNode := by
  rw [report_mem_iff (follows_run (follows_boot hub) es)]
  simp only [← windowsAfter_eq_some_iff]

/-- What a controller sends to enroll itself is adopted in an open window as it was built, and the
window is closed. -/
theorem enrollment_is_adopted (hub : Hub) (es : List Event) (w : Window) (isOpen : OpenedBy es w)
    (now : ℕ) (candidateChallenge : Challenge) (src : NodeId) (targetType : DeviceType)
    (manufacturer : UInt8) (sequence : UInt16) (key : Block) (withMac : Bool) (f : IoFrame)
    (built : create1wAddController src targetType manufacturer sequence key withMac = some f) :
    ∃ g, received f = some g ∧
      let heard :=
        (listenerMachine.run (.boot hub) es).step ⟨now, .hears g candidateChallenge⟩
      .report
        { adopted :=
            { systemKey := key
              manufacturer := manufacturer
              senderNode := src
              sequence := sequence
              macStatus := if withMac then .verified else .notPresent }
          observedType := observedType (lastAssigned typed (w.heard ++ [g])) src } ∈ heard.2 ∧
      heard.1.armed = false := by
  obtain ⟨hlength, honeway, hcmd, hsrc, hdata, hmac⟩ := create1wAddController_fields built
  refine ⟨f, received_self hlength fun _ => by rw [hcmd]; rfl, ?_⟩
  have hdecode := decode_of_fields honeway hcmd hsrc hdata
  have hfollows := follows_run (follows_boot hub) es
  have hwindow := windowsAfter_eq_some_iff.mpr isOpen
  rw [hwindow] at hfollows
  constructor
  · rw [report_mem_iff hfollows]
    refine ⟨w, f, candidateChallenge, rfl, rfl, hdecode.trans ?_, rfl⟩
    rw [hmac]
    cases withMac <;> simp [macStatus, macDifference_eq_zero_iff]
  · have hclosed := follows_step hfollows ⟨now, .hears f candidateChallenge⟩
    have hbears : bearsKey f = true := by
      rw [bearsKey, hdecode]
      rfl
    rw [hclosed.armed]
    simp [windowStep, hbears]

/-- A shutter's controller enrolls itself while the hub is armed. -/
theorem shutter_enrollment_is_adopted : ∃ f g,
    create1wAddController ⟨0xC3, 0x00, 0x01⟩ .rollerShutter 0x02 0x0599 (Vector.replicate 16 0x5A)
      true = some f ∧ received f = some g ∧
      let heard := (listenerMachine.run (.boot { nodeId := ⟨0, 0, 1⟩ })
        [⟨1000, .setArmed⟩]).step ⟨5000, .hears g (Vector.replicate 6 0)⟩
      .report
        { adopted :=
            { systemKey := Vector.replicate 16 0x5A
              manufacturer := 0x02
              senderNode := ⟨0xC3, 0x00, 0x01⟩
              sequence := 0x0599
              macStatus := .verified }
          observedType := observedType (lastAssigned typed [g]) ⟨0xC3, 0x00, 0x01⟩ } ∈ heard.2 ∧
      heard.1.armed = false := by
  obtain ⟨f, hf⟩ := Option.isSome_iff_exists.mp (create1wAddController_isSome ⟨0xC3, 0x00, 0x01⟩
    .rollerShutter 0x02 0x0599 (Vector.replicate 16 0x5A) true)
  have hopen : OpenedBy [⟨1000, .setArmed⟩] ⟨1000, []⟩ := ⟨[], [], rfl, by simp, rfl⟩
  obtain ⟨g, hg, hadopted⟩ := enrollment_is_adopted { nodeId := ⟨0, 0, 1⟩ } _ _ hopen 5000
    (Vector.replicate 6 0) _ _ _ _ _ true f hf
  exact ⟨f, g, hf, hg, hadopted⟩

end HomeIoControl.KeyAdoptions
