import HomeIoControl.CarriedOperations

/-!
# How long a background poll yields

One-way traffic holds a background poll back, and a cap is to bound the hold. The cap is measured
from the start of the burst on air, which a frame after a quiet period moves. What a waiting poll
needs is that the burst it was deferred under goes on.
-/

namespace HomeIoControl.PollDeferral

open MachineRuns TracedPrograms ProtocolFrames PendingOperations PairingResponder RadioLinks
  HubStatus HubOperations HubLoop HubRules HubFrames CarriedOperations

/-- Whether it is the key-extraction responder that holds the front of the queue back. -/
def responderHolds (s : HubState) (e : HubEvent) : Bool :=
  (responderHoldsPoll surroundingPorts (atGate s e).1 (atGate s e).2).1

/-- When the gate last read the clock. -/
def gateTime (s : HubState) (e : HubEvent) : ℕ :=
  (deferBackgroundPoll surroundingPorts (atGate s e).1 (atGate s e).2).2.env.time

/-- A pass of the running loop defers the front of the queue. -/
def Defers (s : HubState) (e : HubEvent) : Prop :=
  e.action.isPass = true ∧ Running s.hub ∧ heldBack s e = true

/-- The operation is at the front of the queue when the event happens. -/
def AtFront (op : PendingOperation) (s : HubState) (_ : HubEvent) : Prop :=
  s.hub.opQueue.ops.head? = some op

/-- The event hears no one-way frame that starts a new burst. -/
def BurstGoesOn (s : HubState) (e : HubEvent) : Prop :=
  ∀ frame time, heard s e = some (frame, time) →
    onewayBurstStartedFresh s.hub.oneWay.last1wActivityMs (clockAt time)
      onewayQuietPeriodMs = false

instance (op : PendingOperation) (s : HubState) (e : HubEvent) : Decidable (AtFront op s e) :=
  inferInstanceAs (Decidable (_ = _))

instance (s : HubState) (e : HubEvent) : Decidable (Defers s e) :=
  inferInstanceAs (Decidable (_ ∧ _))

instance (s : HubState) (e : HubEvent) : Decidable (BurstGoesOn s e) :=
  decidable_of_iff (∀ r ∈ heard s e, onewayBurstStartedFresh s.hub.oneWay.last1wActivityMs
    (clockAt r.2) onewayQuietPeriodMs = false) Prod.forall

/-- Where the responder does not hold the poll, one-way traffic decides. -/
theorem heldBack_eq {s : HubState} {e : HubEvent} (h : responderHolds s e = false) :
    heldBack s e = deferBackgroundPollFor1wActivity (nextOpIsBackground (atGate s e).1)
      (atGate s e).1.oneWay.first1wActivityMs (atGate s e).1.oneWay.last1wActivityMs
      (clockAt (gateTime s e)) onewayQuietPeriodMs onewayPollDeferCapMs := by
  have hopen : (responderHoldsPoll surroundingPorts (atGate s e).1 (atGate s e).2).1 =
      false := h
  unfold heldBack gateTime deferBackgroundPoll
  rw [bind_apply, hopen]
  rfl

/-- The cap, in milliseconds of real time. -/
def deferCap : ℕ := onewayPollDeferCapMs.toNat

/-- A poll is only held back for a burst younger than the cap. -/
theorem young_of_deferred {background : Bool} {first last now quiet : UInt32}
    (h : deferBackgroundPollFor1wActivity background first last now quiet onewayPollDeferCapMs =
      true) : (now - first).toNat < deferCap := by
  unfold deferBackgroundPollFor1wActivity at h
  split_ifs at h with hnone hcap
  have hyoung := UInt32.not_le.mp hcap
  exact UInt32.lt_iff_toNat_lt.mp hyoung

/-- A burst that was young at one time is old a cap later, before the clock has come round. -/
theorem old_after_cap {first : UInt32} {earlier now : ℕ}
    (young : (clockAt earlier - first).toNat < deferCap) (late : earlier + deferCap ≤ now)
    (inTime : now + deferCap ≤ earlier + clockPeriod) :
    deferCap ≤ (clockAt now - first).toNat := by
  have hfirst := first.toNat_lt
  have hcap : deferCap = 5000 := rfl
  rw [UInt32.toNat_sub, clockAt_toNat] at young ⊢
  rw [hcap] at young late inTime ⊢
  unfold clockPeriod at young inTime ⊢
  omega

/-- The gate is passed after the pass has started. -/
theorem gateTime_ge (s : HubState) (e : HubEvent) : s.time + e.wait ≤ gateTime s e := by
  have hports : PortsKeep (fun w => s.time + e.wait ≤ w.env.time)
      surroundingPorts.toReceivePorts := surroundings_keep fun w => after_next w.env
  exact (deferBackgroundPoll_keeps hports (atGate s e).1 (atGate s e).2
    (receive_forward s.hub (e.surroundings s))).2

section

variable {s : HubState} {e : HubEvent} {op : PendingOperation}

theorem atGate_background (front : AtFront op s e) (background : op.isBackground = true) :
    nextOpIsBackground (atGate s e).1 = true := by
  unfold nextOpIsBackground
  rw [atGate_opQueue, front]
  exact background

/-- With a poll at the front, the rest of a pass leaves what is remembered of one-way traffic. -/
private theorem hubStep_oneWay (hpass : e.action = .pass) (hrunning : Running s.hub)
    (front : AtFront op s e) (background : op.isBackground = true) :
    (hubStep s e).hub.oneWay = (atGate s e).1.oneWay := by
  have hrest : Returns (dispatch surroundingPorts (atGate s e).1 >>=
      pollDue surroundingPorts) fun hub' => hub'.oneWay = (atGate s e).1.oneWay := by
    refine Returns.bind (dispatch_oneWay _ (atGate_background front background))
      fun hub₁ h₁ => ?_
    exact (pollDue_oneWay _ hub₁).weaken fun _ h₂ => h₂.trans h₁
  unfold hubStep
  rw [hpass]
  dsimp only [act]
  rw [loop_running _ hrunning]
  exact hrest _

/-- A frame that starts no new burst leaves the start of the burst. -/
private theorem atGate_first1w (hpass : e.action = .pass) (hrunning : Running s.hub)
    (goesOn : BurstGoesOn s e) :
    (atGate s e).1.oneWay.first1wActivityMs = s.hub.oneWay.first1wActivityMs := by
  have hheard : heard s e = overheard s.hub (e.surroundings s).env := by
    unfold heard
    rw [hpass]
    exact if_pos hrunning
  have hgate := (receive_afterHearing s.hub (e.surroundings s)).oneWay
  have holder := goesOn
  unfold BurstGoesOn at holder
  rw [hheard] at holder
  rw [atGate, hgate, afterHearing]
  cases hover : overheard s.hub (e.surroundings s).env with
  | none => rfl
  | some r =>
    obtain ⟨frame, time⟩ := r
    dsimp only
    rw [overhear_first1w, if_neg (by simp [holder frame time hover])]

/-- While a poll waits at the front and the burst goes on, no event moves the burst's start. -/
theorem hubStep_first1w (front : AtFront op s e) (background : op.isBackground = true)
    (goesOn : BurstGoesOn s e) :
    (hubStep s e).hub.oneWay.first1wActivityMs = s.hub.oneWay.first1wActivityMs := by
  cases haction : e.action with
  | command cmd =>
    unfold hubStep
    rw [haction]
    exact (obey_commanded s.hub cmd).traffic.first1wActivityMs
  | remotePollFires deviceId =>
    unfold hubStep
    rw [haction]
    exact (remotePollFires_commanded deviceId s.hub).traffic.first1wActivityMs
  | pass =>
    by_cases hrunning : Running s.hub
    · rw [hubStep_oneWay haction hrunning front background]
      exact atGate_first1w haction hrunning goesOn
    · unfold hubStep
      rw [haction]
      dsimp only [act]
      rw [loop_idle _ hrunning]
      rfl

end

/-- Along a run in which the poll waits and the burst goes on, the burst's start stays. -/
theorem run_first1w {op : PendingOperation} (background : op.isBackground = true)
    (s : HubState) (es : List HubEvent) (waits : hubMachine.Along (AtFront op) s es)
    (goesOn : hubMachine.Along BurstGoesOn s es) :
    (hubMachine.run s es).hub.oneWay.first1wActivityMs = s.hub.oneWay.first1wActivityMs := by
  induction es generalizing s with
  | nil => rfl
  | cons e es ih =>
    have hrest := ih (hubStep s e) waits.2 goesOn.2
    exact hrest.trans (hubStep_first1w waits.1 background goesOn.1)

theorem run_running (s : HubState) (es : List HubEvent) (h : Running s.hub) :
    Running (hubMachine.run s es).hub :=
  hubMachine.run_keeps (fun s => Running s.hub) hubStep_running h es

/-- A poll that was deferred while a burst was on air is carried out by every pass that starts a
cap later, if meanwhile the burst goes on and it is not the responder that holds the poll at either
gate. -/
theorem deferred_poll_is_dispatched_while_burst_goes_on (op : PendingOperation)
    (background : op.isBackground = true) (s : HubState) (first last : HubEvent)
    (es : List HubEvent) (waits : hubMachine.Along (AtFront op) s (first :: (es ++ [last])))
    (deferred : Defers s first) (pass : last.action.isPass = true)
    (late : gateTime s first + deferCap ≤ (hubMachine.run s (first :: es)).time + last.wait)
    (idle : responderHolds s first = false)
    (idleLast : responderHolds (hubMachine.run s (first :: es)) last = false)
    (goesOn : hubMachine.Along BurstGoesOn (hubStep s first) (es ++ [last]))
    (inTime : gateTime (hubMachine.run s (first :: es)) last + deferCap ≤
      gateTime s first + clockPeriod) :
    CarriesOut op (hubMachine.run s (first :: es)) last := by
  obtain ⟨hpass, hrunning, hheld⟩ := deferred
  obtain ⟨hfront, hwaits⟩ := waits
  obtain ⟨hwaits, hlast⟩ := hubMachine.along_append.mp hwaits
  obtain ⟨hgoes, hgoesLast⟩ := hubMachine.along_append.mp goesOn
  have hfirst : first.action = .pass := HubAction.eq_pass_of_isPass hpass
  have hend : last.action = .pass := HubAction.eq_pass_of_isPass pass
  -- when it was deferred, the burst was young
  have hyoung := young_of_deferred ((heldBack_eq idle).symm.trans hheld)
  -- the burst's start is still the same at the late pass
  have hstart := hubStep_oneWay hfirst hrunning hfront background
  have hkept := run_first1w background (hubStep s first) es hwaits hgoes
  have hrunningLast : Running (hubMachine.run s (first :: es)).hub :=
    run_running s (first :: es) hrunning
  have hgate := atGate_first1w hend hrunningLast hgoesLast.1
  have hsame : (atGate (hubMachine.run s (first :: es)) last).1.oneWay.first1wActivityMs =
      (atGate s first).1.oneWay.first1wActivityMs := by
    rw [hgate, hubMachine.run_cons]
    exact hkept.trans (congrArg OneWayListening.first1wActivityMs hstart)
  -- so the burst is old by then
  have hlate := Nat.le_trans late (gateTime_ge (hubMachine.run s (first :: es)) last)
  have hold := old_after_cap hyoung hlate inTime
  have hopen : heldBack (hubMachine.run s (first :: es)) last = false := by
    rw [heldBack_eq idleLast, hsame]
    refine Bool.eq_false_iff.mpr fun hdeferred => ?_
    exact absurd (young_of_deferred hdeferred) (Nat.not_lt.mpr hold)
  apply carriesOut_of_letThrough
  rw [letThrough, if_pos ⟨pass, hrunningLast, hopen⟩, atGate_opQueue]
  exact hlast.1

/-- A poll of an unregistered device waits in the queue of a hub that has heard nothing. -/
def waitingHub : HubState :=
  hubStep ⟨{ nodeId := ⟨0, 0, 1⟩, initialized := true }, 0⟩
    { action := .command (.requestStatus "A1B2C3") }

def waitingPoll : PendingOperation := { type := .requestStatus, deviceId := "A1B2C3" }

/-- Passes at regular times after the first, each of which hears a remote. -/
def steadyTraffic (spacing count : ℕ) : List HubEvent :=
  List.replicate count (hearing spacing ⟨0xC3, 0, 0⟩ 0)

theorem poll_dispatched_after_cap :
    CarriesOut waitingPoll (hubMachine.run waitingHub
      (hearing 1000 ⟨0xC3, 0, 0⟩ 0 :: steadyTraffic 600 8)) (hearing 600 ⟨0xC3, 0, 0⟩ 0) :=
  deferred_poll_is_dispatched_while_burst_goes_on waitingPoll rfl waitingHub
    (hearing 1000 ⟨0xC3, 0, 0⟩ 0) (hearing 600 ⟨0xC3, 0, 0⟩ 0) (steadyTraffic 600 8)
    (by decide) (by decide) rfl (by decide) (by decide) (by decide) (by decide +kernel)
    (by decide)

/-- Frames a little more than the quiet period apart each start a new burst, and the poll is
still held back when the cap has passed. -/
theorem poll_is_deferred_beyond_cap :
    ¬ ∀ (op : PendingOperation) (s : HubState) (first last : HubEvent) (es : List HubEvent),
      op.isBackground = true → hubMachine.Along (AtFront op) s (first :: (es ++ [last])) →
      Defers s first → last.action.isPass = true →
      gateTime s first + deferCap ≤ (hubMachine.run s (first :: es)).time + last.wait →
      CarriesOut op (hubMachine.run s (first :: es)) last := by
  intro h
  have hsome := h waitingPoll waitingHub (hearing 1000 ⟨0xC3, 0, 0⟩ 0)
    (hearing 720 ⟨0xC3, 0, 0⟩ 0) (steadyTraffic 720 7) rfl (by decide)
    (by decide) rfl (by decide)
  have hstill : (afterDispatch (hubMachine.run waitingHub
      (hearing 1000 ⟨0xC3, 0, 0⟩ 0 :: steadyTraffic 720 7))
        (hearing 720 ⟨0xC3, 0, 0⟩ 0)).1.opQueue.ops = [waitingPoll] := by
    decide
  have hfront : (hubMachine.run waitingHub
      (hearing 1000 ⟨0xC3, 0, 0⟩ 0 :: steadyTraffic 720 7)).hub.opQueue.ops = [waitingPoll] := by
    decide
  have htaken := hsome.taken
  rw [hstill, hfront] at htaken
  cases htaken

end HomeIoControl.PollDeferral
