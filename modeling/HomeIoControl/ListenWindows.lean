import HomeIoControl.RadioLinks

/-!
# The channel and the deadline of a listen

What a listen asks of the radio: which channel every wait is on, where every hop goes, which
packets the handler is given, and how long it waits. The length of a wait is computed from a
second reading of the clock, so the waits keep to the window exactly when the deadline does not
pass between the two readings.
-/

namespace HomeIoControl.ListenWindows

open TracedPrograms ProtocolFrames RadioLinks

/-- A radio together with the time, which never runs back and of which `millis` shows the low 32
bits, and on which a channel stays tuned until it is changed. -/
structure TimedRadio (σ : Type) extends Radio σ where
  clock : σ → ℕ
  millis_reads : ∀ s, (millis s).1 = UInt32.ofNat (clock (millis s).2)
  millis_clock : ∀ s, clock s ≤ clock (millis s).2
  waitForPacket_clock : ∀ ms s, clock s ≤ clock (waitForPacket ms s).2
  isPreambleDetected_clock : ∀ s, clock s ≤ clock (isPreambleDetected s).2
  isSyncDetected_clock : ∀ s, clock s ≤ clock (isSyncDetected s).2
  changeFrequency_clock : ∀ freq s, clock s ≤ clock (changeFrequency freq s)
  millis_freq : ∀ s, currentFreq (millis s).2 = currentFreq s
  waitForPacket_freq : ∀ ms s, currentFreq (waitForPacket ms s).2 = currentFreq s
  isPreambleDetected_freq : ∀ s, currentFreq (isPreambleDetected s).2 = currentFreq s
  isSyncDetected_freq : ∀ s, currentFreq (isSyncDetected s).2 = currentFreq s
  changeFrequency_freq : ∀ freq s, currentFreq (changeFrequency freq s) = freq

/-- A reading of the clock, a wait with the packet it delivered, or a change of the channel. -/
inductive RadioCall where
  | read (time : ℕ)
  | wait (start : ℕ) (freq ms : UInt32) (packet : Option RadioRxPacket)
  | tune (old new : UInt32)
  deriving DecidableEq

variable {σ κ : Type}

/-- The same radio, writing down what it is asked for. -/
def recorded (radio : TimedRadio σ) : Radio (σ × List RadioCall) where
  millis s := ((radio.millis s.1).1,
    ((radio.millis s.1).2, s.2 ++ [.read (radio.clock (radio.millis s.1).2)]))
  delay ms s := (radio.delay ms s.1, s.2)
  readRssi s := ((radio.readRssi s.1).1, ((radio.readRssi s.1).2, s.2))
  sendPacket data freq preamble s :=
    ((radio.sendPacket data freq preamble s.1).1,
      ((radio.sendPacket data freq preamble s.1).2, s.2))
  waitForPacket ms s := ((radio.waitForPacket ms s.1).1,
    ((radio.waitForPacket ms s.1).2,
      s.2 ++ [.wait (radio.clock s.1) (radio.currentFreq s.1) ms (radio.waitForPacket ms s.1).1]))
  isPreambleDetected s :=
    ((radio.isPreambleDetected s.1).1, ((radio.isPreambleDetected s.1).2, s.2))
  isSyncDetected s := ((radio.isSyncDetected s.1).1, ((radio.isSyncDetected s.1).2, s.2))
  currentFreq s := radio.currentFreq s.1
  changeFrequency freq s :=
    (radio.changeFrequency freq s.1, s.2 ++ [.tune (radio.currentFreq s.1) freq])
  generateChallenge s := ((radio.generateChallenge s.1).1, ((radio.generateChallenge s.1).2, s.2))
  lastRssi s := radio.lastRssi s.1
  responsePreamble := radio.responsePreamble
  hopDwellMs := radio.hopDwellMs
  hasFastTxRxTurnaround := radio.hasFastTxRxTurnaround
  maxWaits := radio.maxWaits

/-- A packet that the handler was called with, and what it made of it. -/
abbrev Handled := RadioRxPacket × ReplyDisposition

/-- The same handler, writing down its calls. -/
def recordedHandler (onFrame : ReplyHandler κ) : ReplyHandler (κ × List Handled) :=
  fun captured parsed packet =>
    let handled := onFrame captured.1 parsed packet
    ((handled.1, captured.2 ++ [(packet, handled.2)]), handled.2)

/-- What is left of a recorded listen without its record. -/
def unrecorded (r : Listened (κ × List Handled)) : Listened κ :=
  ⟨r.outcome, r.frame, r.captured.1⟩

section

variable {radio : TimedRadio σ} {spec : ListenSpec} {deadline : UInt32} {site : ListenSite}
  {onFrame : ReplyHandler κ}

private theorem windowOpen_refines :
    Refines Prod.fst id (windowOpen (recorded radio) deadline)
      (windowOpen radio.toRadio deadline) := by
  refine Refines.bind (Refines.ask_same fun _ => rfl) ?_
  intro now
  exact Refines.pure _

private theorem hopFrequency_refines (skip : UInt32) :
    Refines Prod.fst id (hopFrequency (recorded radio) skip) (hopFrequency radio.toRadio skip) :=
  Refines.ask fun _ => rfl

private theorem preambleOrSyncIncoming_refines :
    Refines Prod.fst id (preambleOrSyncIncoming (recorded radio) spec)
      (preambleOrSyncIncoming radio.toRadio spec) := by
  refine Refines.ite (Refines.pure _) ?_
  refine Refines.bind (Refines.ask_same fun _ => rfl) ?_
  intro preamble
  exact Refines.ite (Refines.pure _) (Refines.ask fun _ => rfl)

private theorem hopAfterIgnored_refines :
    Refines Prod.fst id (hopAfterIgnored (recorded radio) spec deadline)
      (hopAfterIgnored radio.toRadio spec deadline) := by
  refine Refines.ite (Refines.pure _) ?_
  refine Refines.bind windowOpen_refines ?_
  intro isOpen
  refine Refines.ite ?_ (Refines.pure _)
  refine Refines.bind preambleOrSyncIncoming_refines ?_
  intro incoming
  exact Refines.ite (Refines.pure _) (hopFrequency_refines spec.skip)

private theorem dispatchReceivedPacket_refines {packet : RadioRxPacket} {frame : IoFrame}
    {captured : κ × List Handled}
    {ignored' : IoFrame → κ × List Handled →
      RadioProg (σ × List RadioCall) (Listened (κ × List Handled))}
    {ignored : IoFrame → κ → RadioProg σ (Listened κ)}
    (rest : ∀ frame captured,
      Refines Prod.fst unrecorded (ignored' frame captured) (ignored frame captured.1)) :
    Refines Prod.fst unrecorded
      (dispatchReceivedPacket site (recordedHandler onFrame) packet frame captured ignored')
      (dispatchReceivedPacket site onFrame packet frame captured.1 ignored) := by
  unfold dispatchReceivedPacket
  refine Refines.bind (Refines.tell _) ?_
  intro _
  cases hd : (onFrame captured.1 (parseInto frame packet.data).1 packet).2 with
  | accept =>
    simp only [recordedHandler, hd]
    exact Refines.pure _
  | abort =>
    simp only [recordedHandler, hd]
    exact Refines.pure _
  | ignore =>
    simp only [recordedHandler, hd]
    exact rest _ _

private theorem listenLoop_refines (waits : ℕ) (frame : IoFrame) (captured : κ × List Handled) :
    Refines Prod.fst unrecorded
      (listenLoop (recorded radio) site spec (recordedHandler onFrame) deadline waits frame
        captured)
      (listenLoop radio.toRadio site spec onFrame deadline waits frame captured.1) := by
  have htimeout : ∀ (frame : IoFrame) (captured : κ × List Handled),
      Refines Prod.fst unrecorded
        (pure ⟨.timedOut, frame, captured⟩ :
          RadioProg (σ × List RadioCall) (Listened (κ × List Handled)))
        (pure ⟨.timedOut, frame, captured.1⟩ : RadioProg σ (Listened κ)) :=
    fun frame captured => Refines.pure _
  induction waits generalizing frame captured with
  | zero => exact htimeout frame captured
  | succ waits ih =>
    refine Refines.bind windowOpen_refines ?_
    intro isOpen
    refine Refines.ite (htimeout frame captured) ?_
    refine Refines.bind (Refines.ask_same fun _ => rfl) ?_
    intro now
    refine Refines.bind (Refines.ask_same fun _ => rfl) ?_
    intro received
    cases received with
    | some packet =>
      apply dispatchReceivedPacket_refines
      intro frame captured
      refine Refines.bind hopAfterIgnored_refines ?_
      intro _
      exact ih frame captured
    | none =>
      refine Refines.bind windowOpen_refines ?_
      intro isOpen
      refine Refines.ite (htimeout frame captured) (Refines.ite (ih frame captured) ?_)
      refine Refines.bind preambleOrSyncIncoming_refines ?_
      intro incoming
      apply Refines.ite
      · refine Refines.bind (hopFrequency_refines spec.skip) ?_
        intro _
        exact ih frame captured
      · refine Refines.bind (Refines.ask_same fun _ => rfl) ?_
        intro now
        refine Refines.bind (Refines.ask_same fun _ => rfl) ?_
        intro received
        cases received with
        | some packet => exact dispatchReceivedPacket_refines ih
        | none => exact ih frame captured

/-- A recorded listen is the listen itself, but for the record. -/
theorem listen_refines (frame : IoFrame) (captured : κ × List Handled) :
    Refines Prod.fst unrecorded
      (listen (recorded radio) site spec (recordedHandler onFrame) frame captured)
      (listen radio.toRadio site spec onFrame frame captured.1) := by
  refine Refines.bind (Refines.ask_same fun _ => rfl) ?_
  intro now
  apply Refines.ite
  · refine Refines.bind (hopFrequency_refines spec.skip) ?_
    intro _
    exact listenLoop_refines _ frame captured
  · exact listenLoop_refines _ frame captured

end

def channels : List UInt32 := [freqCh1, freqCh2, freqCh3]

namespace RadioCall

def isWait : RadioCall → Bool
  | .wait _ _ _ _ => true
  | .read _ | .tune _ _ => false

def isTune : RadioCall → Bool
  | .tune _ _ => true
  | .read _ | .wait _ _ _ _ => false

def packet? : RadioCall → Option RadioRxPacket
  | .wait _ _ _ packet => packet
  | .read _ | .tune _ _ => none

/-- No wait on the request channel, and a hop leads to the channel that is neither that one nor
the one it leaves. -/
def Avoids (requestFreq : UInt32) : RadioCall → Prop
  | .read _ => True
  | .wait _ freq _ _ => freq ≠ requestFreq
  | .tune old new => new ∈ channels ∧ new ≠ requestFreq ∧ new ≠ old

/-- A wait starts before the deadline, and is not asked to last past it. -/
def InWindow (deadline : ℕ) : RadioCall → Prop
  | .wait start _ ms _ => start < deadline ∧ start + ms.toNat ≤ deadline
  | _ => True

end RadioCall

open RadioCall

/-- The packets that the waits delivered. -/
def delivered (calls : List RadioCall) : List RadioRxPacket := calls.filterMap packet?

/-- A listen obeys its channel policy, hands every packet to the handler once and in order, and
ends as the handler says. -/
structure ObeysPolicy (spec : ListenSpec) (outcome : ListenOutcome) (handled : List Handled)
    (calls : List RadioCall) : Prop where
  skips : spec.policy = .rotateSkippingRequest → ∀ call ∈ calls, call.Avoids spec.requestFreq
  holds : spec.policy = .holdRequestChannel → ∀ call ∈ calls, call.isTune = false
  delivers : handled.map Prod.fst = delivered calls
  accepts : outcome = .accepted ↔ .accept ∈ handled.map Prod.snd
  aborts : outcome = .aborted ↔ .abort ∈ handled.map Prod.snd

/-- It obeys its deadline too. -/
structure ListenObeys (spec : ListenSpec) (deadline : ℕ) (outcome : ListenOutcome)
    (handled : List Handled) (calls : List RadioCall) : Prop
    extends ObeysPolicy spec outcome handled calls where
  inWindow : ∀ call ∈ calls, call.InWindow deadline

/-- By the comparison of the code, the window is open at this time. -/
def openAt (deadline time : ℕ) : Prop :=
  0 < (UInt32.ofNat deadline - UInt32.ofNat time).toInt32

/-- The deadline has not passed by the second of two successive readings, of which the first
finds the window open and a wait follows the second. -/
def Punctual (deadline : ℕ) (calls : List RadioCall) : Prop :=
  ∀ before first second wait after,
    calls = before ++ [.read first, .read second] ++ wait :: after → wait.isWait = true →
    openAt deadline first → second < deadline

/-- A wait follows two readings: the first found the window open, and the wait lasts no longer
than what the second left of it. -/
def Checked (deadline begun : ℕ) (before : List RadioCall) : RadioCall → Prop
  | .wait start _ ms _ => ∃ front first, before = front ++ [.read first, .read start] ∧
      openAt deadline first ∧ begun ≤ start ∧ ms ≤ UInt32.ofNat deadline - UInt32.ofNat start
  | _ => True

/-- What is true of the calls so far, which delivered the packets. -/
structure Kept (radio : TimedRadio σ) (spec : ListenSpec) (deadline begun : ℕ)
    (packets : List RadioRxPacket) (s : σ × List RadioCall) : Prop where
  begun_le : begun ≤ radio.clock s.1
  skips : spec.policy = .rotateSkippingRequest → ∀ call ∈ s.2, call.Avoids spec.requestFreq
  holds : spec.policy = .holdRequestChannel → ∀ call ∈ s.2, call.isTune = false
  delivers : delivered s.2 = packets
  checks : AtEach (fun before call _ => Checked deadline begun before call) s.2

/-- The same, once the listen has left the request channel. -/
structure Journal (radio : TimedRadio σ) (spec : ListenSpec) (deadline begun : ℕ)
    (packets : List RadioRxPacket) (s : σ × List RadioCall) : Prop
    extends Kept radio spec deadline begun packets s where
  tuned : spec.policy = .rotateSkippingRequest → radio.currentFreq s.1 ≠ spec.requestFreq

/-- The last call was a reading that found the window open. -/
def Opened (deadline : ℕ) (calls : List RadioCall) : Prop :=
  ∃ front first, calls = front ++ [.read first] ∧ openAt deadline first

/-- A second reading followed, of this moment. -/
def Measured (radio : TimedRadio σ) (deadline : ℕ) (s : σ × List RadioCall) : Prop :=
  ∃ front first, s.2 = front ++ [.read first, .read (radio.clock s.1)] ∧ openAt deadline first

variable {radio : TimedRadio σ} {spec : ListenSpec} {deadline begun : ℕ}
  {packets : List RadioRxPacket} {s : σ × List RadioCall}

theorem nextChannel_mem (freq : UInt32) : nextChannel freq ∈ channels := by
  unfold nextChannel channels
  split_ifs <;> simp

theorem nextChannel_other {freq : UInt32} (h1 : freq ≠ freqCh1) (h3 : freq ≠ freqCh3) :
    nextChannel freq = freqCh3 := by
  rw [nextChannel, if_neg h1, if_neg h3]

theorem nextChannel_ne (freq : UInt32) : nextChannel freq ≠ freq := by
  by_cases h1 : freq = freqCh1
  · rw [h1]
    decide
  by_cases h3 : freq = freqCh3
  · rw [h3]
    decide
  · rw [nextChannel_other h1 h3]
    exact Ne.symm h3

/-- Two steps of a rotation through three channels do not lead back. -/
theorem nextChannel_nextChannel_ne (freq : UInt32) : nextChannel (nextChannel freq) ≠ freq := by
  by_cases h1 : freq = freqCh1
  · rw [h1]
    decide
  by_cases h3 : freq = freqCh3
  · rw [h3]
    decide
  · rw [nextChannel_other h1 h3]
    exact Ne.symm h1

/-- A hop leads to a channel, and neither to the skipped one nor to the one it leaves. -/
theorem hopTarget_avoids (freq skip : UInt32) :
    hopTarget freq skip ∈ channels ∧ hopTarget freq skip ≠ skip ∧ hopTarget freq skip ≠ freq := by
  unfold hopTarget
  split_ifs with h
  · exact ⟨nextChannel_mem _, h ▸ nextChannel_ne _, nextChannel_nextChannel_ne freq⟩
  · exact ⟨nextChannel_mem _, h, nextChannel_ne freq⟩

theorem delivered_append (calls calls' : List RadioCall) :
    delivered (calls ++ calls') = delivered calls ++ delivered calls' :=
  List.filterMap_append

namespace Kept

private theorem concat {s' : σ} (h : Kept radio spec deadline begun packets s)
    (call : RadioCall) (hclock : radio.clock s.1 ≤ radio.clock s')
    (hskips : spec.policy = .rotateSkippingRequest → call.Avoids spec.requestFreq)
    (hholds : spec.policy = .holdRequestChannel → call.isTune = false)
    (hcheck : Checked deadline begun s.2 call) :
    Kept radio spec deadline begun (packets ++ call.packet?.toList) (s', s.2 ++ [call]) where
  begun_le := Nat.le_trans h.begun_le hclock
  skips hpolicy := List.forall_mem_append.mpr
    ⟨h.skips hpolicy, List.forall_mem_singleton.mpr (hskips hpolicy)⟩
  holds hpolicy := List.forall_mem_append.mpr
    ⟨h.holds hpolicy, List.forall_mem_singleton.mpr (hholds hpolicy)⟩
  delivers := by
    rw [delivered_append, h.delivers]
    cases hpacket : call.packet? <;> simp [delivered, hpacket]
  checks := h.checks.concat hcheck

/-- A flag is read without a record. -/
theorem flag {s' : σ} (h : Kept radio spec deadline begun packets s)
    (hclock : radio.clock s.1 ≤ radio.clock s') :
    Kept radio spec deadline begun packets (s', s.2) :=
  ⟨Nat.le_trans h.begun_le hclock, h.skips, h.holds, h.delivers, h.checks⟩

theorem millis (h : Kept radio spec deadline begun packets s) :
    Kept radio spec deadline begun packets ((recorded radio).millis s).2 := by
  have hread := h.concat (.read (radio.clock (radio.millis s.1).2)) (radio.millis_clock s.1)
    (fun _ => trivial) (fun _ => rfl) trivial
  rwa [packet?, Option.toList_none, List.append_nil] at hread

theorem hop (h : Kept radio spec deadline begun packets s) (freq : UInt32)
    (hhold : spec.policy ≠ .holdRequestChannel)
    (hskip : spec.policy = .rotateSkippingRequest →
      freq ∈ channels ∧ freq ≠ spec.requestFreq ∧ freq ≠ radio.currentFreq s.1) :
    Kept radio spec deadline begun packets ((recorded radio).changeFrequency freq s) := by
  have htune := h.concat (.tune (radio.currentFreq s.1) freq)
    (le_of_le_of_eq (radio.changeFrequency_clock freq s.1) rfl) hskip
    (fun hpolicy => absurd hpolicy hhold) trivial
  rwa [packet?, Option.toList_none, List.append_nil] at htune

end Kept

namespace Journal

theorem millis (h : Journal radio spec deadline begun packets s) :
    Journal radio spec deadline begun packets ((recorded radio).millis s).2 where
  toKept := h.toKept.millis
  tuned hpolicy := (radio.millis_freq s.1).trans_ne (h.tuned hpolicy)

theorem preamble (h : Journal radio spec deadline begun packets s) :
    Journal radio spec deadline begun packets ((recorded radio).isPreambleDetected s).2 where
  toKept := h.toKept.flag (radio.isPreambleDetected_clock s.1)
  tuned hpolicy := (radio.isPreambleDetected_freq s.1).trans_ne (h.tuned hpolicy)

theorem sync (h : Journal radio spec deadline begun packets s) :
    Journal radio spec deadline begun packets ((recorded radio).isSyncDetected s).2 where
  toKept := h.toKept.flag (radio.isSyncDetected_clock s.1)
  tuned hpolicy := (radio.isSyncDetected_freq s.1).trans_ne (h.tuned hpolicy)

/-- A wait no longer than what the second of two readings left of the open window. -/
theorem wait (h : Journal radio spec deadline begun packets s)
    (hmeasured : Measured radio deadline s) {ms : UInt32}
    (hms : ms ≤ UInt32.ofNat deadline - UInt32.ofNat (radio.clock s.1)) :
    Journal radio spec deadline begun
      (packets ++ ((recorded radio).waitForPacket ms s).1.toList)
      ((recorded radio).waitForPacket ms s).2 where
  toKept := by
    obtain ⟨front, first, hcalls, hopen⟩ := hmeasured
    exact h.toKept.concat
      (.wait (radio.clock s.1) (radio.currentFreq s.1) ms (radio.waitForPacket ms s.1).1)
      (radio.waitForPacket_clock ms s.1) h.tuned (fun _ => rfl)
      ⟨front, first, hcalls, hopen, h.begun_le, hms⟩
  tuned hpolicy := (radio.waitForPacket_freq ms s.1).trans_ne (h.tuned hpolicy)

end Journal

/-- A hop leaves the request channel, or another one, for the other. -/
theorem Kept.leaves (h : Kept radio spec deadline begun packets s)
    (hhold : spec.policy ≠ .holdRequestChannel) :
    Journal radio spec deadline begun packets ((recorded radio).changeFrequency
      (hopTarget ((recorded radio).currentFreq s) spec.skip) s) := by
  have havoids := hopTarget_avoids (radio.currentFreq s.1) spec.skip
  have hskip : spec.policy = .rotateSkippingRequest → spec.skip = spec.requestFreq :=
    fun hpolicy => if_pos hpolicy
  refine ⟨h.hop _ hhold fun hpolicy => ?_, fun hpolicy => ?_⟩
  · rw [← hskip hpolicy]
    exact havoids
  · rw [← hskip hpolicy]
    exact (radio.changeFrequency_freq _ s.1).trans_ne havoids.2.1

private theorem windowOpen_triple :
    Triple (Journal radio spec deadline begun packets)
      (windowOpen (recorded radio) (UInt32.ofNat deadline))
      fun isOpen s => Journal radio spec deadline begun packets s ∧
        (isOpen = true → Opened deadline s.2) := by
  intro w h
  refine ⟨h.millis, fun hopen => ⟨_, _, rfl, ?_⟩⟩
  rw [openAt, ← radio.millis_reads]
  exact of_decide_eq_true hopen

private theorem millis_triple :
    Triple (fun s => Journal radio spec deadline begun packets s ∧ Opened deadline s.2)
      (ask (recorded radio).millis : RadioProg (σ × List RadioCall) UInt32)
      fun now s => Journal radio spec deadline begun packets s ∧ Measured radio deadline s ∧
        now = UInt32.ofNat (radio.clock s.1) := by
  apply Triple.ask
  rintro s ⟨h, front, first, hcalls, hopen⟩
  refine ⟨h.millis, ⟨front, first, ?_, hopen⟩, radio.millis_reads s.1⟩
  simp [recorded, hcalls]

private theorem wait_triple {now ms : UInt32} (hms : ms ≤ UInt32.ofNat deadline - now) :
    Triple (fun s => Journal radio spec deadline begun packets s ∧ Measured radio deadline s ∧
        now = UInt32.ofNat (radio.clock s.1))
      (ask ((recorded radio).waitForPacket ms) :
        RadioProg (σ × List RadioCall) (Option RadioRxPacket))
      fun received s => Journal radio spec deadline begun (packets ++ received.toList) s := by
  apply Triple.ask
  rintro s ⟨h, hmeasured, rfl⟩
  exact h.wait hmeasured hms

private theorem hopFrequency_triple (hhold : spec.policy ≠ .holdRequestChannel) :
    Triple (Journal radio spec deadline begun packets)
      (hopFrequency (recorded radio) spec.skip)
      fun _ => Journal radio spec deadline begun packets :=
  Triple.ask fun _ h => h.toKept.leaves hhold

/-- Reading the flags records nothing. -/
private theorem preambleOrSyncIncoming_triple (recordHas : List RadioCall → Prop) :
    Triple (fun s => Journal radio spec deadline begun packets s ∧ recordHas s.2)
      (preambleOrSyncIncoming (recorded radio) spec)
      fun _ s => Journal radio spec deadline begun packets s ∧ recordHas s.2 := by
  apply Triple.ite
  · intro _
    exact Triple.pure fun _ h => h
  · intro _
    refine Triple.bind (Triple.ask_keeps fun _ h => ⟨h.1.preamble, h.2⟩) ?_
    intro preamble
    apply Triple.ite
    · intro _
      exact Triple.pure fun _ h => h
    · intro _
      exact Triple.ask_keeps fun _ h => ⟨h.1.sync, h.2⟩

private theorem hopAfterIgnored_triple :
    Triple (Journal radio spec deadline begun packets)
      (hopAfterIgnored (recorded radio) spec (UInt32.ofNat deadline))
      fun _ => Journal radio spec deadline begun packets := by
  apply Triple.ite
  · intro _
    exact Triple.pure fun _ h => h
  · intro hhops
    have hrotating : spec.policy ≠ .holdRequestChannel := by
      simp only [Bool.and_eq_false_iff, not_or, Bool.not_eq_false] at hhops
      exact of_decide_eq_true hhops.1
    refine Triple.bind windowOpen_triple ?_
    intro isOpen
    apply Triple.ite
    · intro hopen
      refine Triple.bind (preambleOrSyncIncoming_triple fun calls =>
        isOpen = true → Opened deadline calls) ?_
      intro incoming
      apply Triple.ite
      · intro _
        exact Triple.pure fun _ h => h.1
      · intro _
        exact Triple.forget (hopFrequency_triple hrotating)
    · intro _
      exact Triple.pure fun _ h => h.1

/-- The handler has ignored every packet so far. -/
def Unfinished (handled : List Handled) : Prop := ∀ call ∈ handled, call.2 = .ignore

/-- What a listen leaves, with the record of both. -/
structure Finished (radio : TimedRadio σ) (spec : ListenSpec) (deadline begun : ℕ)
    (r : Listened (κ × List Handled)) (s : σ × List RadioCall) : Prop where
  journal : Journal radio spec deadline begun (r.captured.2.map Prod.fst) s
  accepts : r.outcome = .accepted ↔ .accept ∈ r.captured.2.map Prod.snd
  aborts : r.outcome = .aborted ↔ .abort ∈ r.captured.2.map Prod.snd

theorem Unfinished.concat {handled : List Handled} (h : Unfinished handled)
    (packet : RadioRxPacket) : Unfinished (handled ++ [(packet, .ignore)]) :=
  List.forall_mem_append.mpr ⟨h, List.forall_mem_singleton.mpr rfl⟩

theorem Unfinished.not_mem {handled : List Handled} (h : Unfinished handled)
    {disposition : ReplyDisposition} (hne : disposition ≠ .ignore) :
    disposition ∉ handled.map Prod.snd := by
  intro hmem
  obtain ⟨call, hcall, rfl⟩ := List.mem_map.mp hmem
  exact hne (h call hcall)

theorem Unfinished.timedOut {captured : κ × List Handled} (h : Unfinished captured.2)
    {frame : IoFrame} (hs : Journal radio spec deadline begun (captured.2.map Prod.fst) s) :
    Finished radio spec deadline begun ⟨.timedOut, frame, captured⟩ s :=
  ⟨hs, iff_of_false ListenOutcome.noConfusion (h.not_mem (by decide)),
    iff_of_false ListenOutcome.noConfusion (h.not_mem (by decide))⟩

theorem Unfinished.ended {handled : List Handled} (h : Unfinished handled) {captured : κ}
    {packet : RadioRxPacket} {outcome : ListenOutcome} {disposition : ReplyDisposition}
    {frame : IoFrame}
    (hends : outcome = .accepted ∧ disposition = .accept ∨
      outcome = .aborted ∧ disposition = .abort)
    (hs : Journal radio spec deadline begun (handled.map Prod.fst ++ [packet]) s) :
    Finished radio spec deadline begun
      ⟨outcome, frame, (captured, handled ++ [(packet, disposition)])⟩ s := by
  have hnone : ∀ d : ReplyDisposition, d ≠ .ignore → (d ∈ handled.map Prod.snd ↔ False) :=
    fun d hd => iff_of_false (h.not_mem hd) id
  refine ⟨by simpa using hs, ?_, ?_⟩ <;>
    rcases hends with ⟨rfl, rfl⟩ | ⟨rfl, rfl⟩ <;>
    simp [List.map_append, hnone]

variable {site : ListenSite} {onFrame : ReplyHandler κ}

private theorem dispatchReceivedPacket_triple {packet : RadioRxPacket} {frame : IoFrame}
    {captured : κ × List Handled}
    {ignored : IoFrame → κ × List Handled →
      RadioProg (σ × List RadioCall) (Listened (κ × List Handled))}
    (hcaptured : Unfinished captured.2)
    (rest : ∀ frame captured, Unfinished captured.2 →
      Triple (Journal radio spec deadline begun (captured.2.map Prod.fst))
        (ignored frame captured) (Finished radio spec deadline begun)) :
    Triple (Journal radio spec deadline begun (captured.2.map Prod.fst ++ [packet]))
      (dispatchReceivedPacket site (recordedHandler onFrame) packet frame captured ignored)
      (Finished radio spec deadline begun) := by
  unfold dispatchReceivedPacket
  refine Triple.bind Triple.tell_keeps ?_
  intro _
  cases hd : (onFrame captured.1 (parseInto frame packet.data).1 packet).2 with
  | accept =>
    simp only [recordedHandler, hd]
    exact Triple.pure fun s hs => hcaptured.ended (.inl ⟨rfl, rfl⟩) hs
  | abort =>
    simp only [recordedHandler, hd]
    exact Triple.pure fun s hs => hcaptured.ended (.inr ⟨rfl, rfl⟩) hs
  | ignore =>
    simp only [recordedHandler, hd]
    have hrest := rest (parseInto frame packet.data).2
      ((onFrame captured.1 (parseInto frame packet.data).1 packet).1,
        captured.2 ++ [(packet, .ignore)]) (hcaptured.concat packet)
    simpa using hrest

theorem min_le_first (a b : UInt32) : min a b ≤ a := by
  rw [UInt32.le_iff_toNat_le]
  simp only [min]
  split_ifs with h
  · rfl
  · rw [UInt32.le_iff_toNat_le] at h
    omega

private theorem listenLoop_triple (waits : ℕ) (frame : IoFrame) (captured : κ × List Handled)
    (hcaptured : Unfinished captured.2) :
    Triple (Journal radio spec deadline begun (captured.2.map Prod.fst))
      (listenLoop (recorded radio) site spec (recordedHandler onFrame) (UInt32.ofNat deadline)
        waits frame captured)
      (Finished radio spec deadline begun) := by
  induction waits generalizing frame captured with
  | zero => exact Triple.pure fun s hs => hcaptured.timedOut hs
  | succ waits ih =>
    refine Triple.bind windowOpen_triple ?_
    intro isOpen
    apply Triple.ite
    · intro _
      exact Triple.pure fun s hs => hcaptured.timedOut hs.1
    · intro hopen
      rw [Bool.not_eq_false] at hopen
      refine Triple.bind (millis_triple.weaken (fun s hs => ⟨hs.1, hs.2 hopen⟩)
        fun _ _ hs => hs) ?_
      intro now
      refine Triple.bind (wait_triple ?_) ?_
      · split_ifs
        · exact min_le_first _ _
        · exact UInt32.le_refl _
      · intro received
        cases received with
        | some packet =>
          apply dispatchReceivedPacket_triple hcaptured
          intro frame captured hcaptured
          refine Triple.bind hopAfterIgnored_triple ?_
          intro _
          exact ih frame captured hcaptured
        | none =>
          simp only [Option.toList_none, List.append_nil]
          refine Triple.bind windowOpen_triple ?_
          intro isOpen
          apply Triple.ite
          · intro _
            exact Triple.pure fun s hs => hcaptured.timedOut hs.1
          · intro hopen
            rw [Bool.not_eq_false] at hopen
            apply Triple.ite
            · intro _
              exact Triple.forget (ih frame captured hcaptured)
            · intro hrotating
              have hhold : spec.policy ≠ .holdRequestChannel := by
                simpa [ListenSpec.rotating] using hrotating
              refine Triple.bind ((preambleOrSyncIncoming_triple (Opened deadline)).weaken
                (fun s hs => ⟨hs.1, hs.2 hopen⟩) fun _ _ hs => hs) ?_
              intro incoming
              apply Triple.ite
              · intro _
                refine Triple.bind (Triple.forget (hopFrequency_triple hhold)) ?_
                intro _
                exact ih frame captured hcaptured
              · intro _
                refine Triple.bind millis_triple ?_
                intro now
                refine Triple.bind (wait_triple (min_le_first _ _)) ?_
                intro received
                cases received with
                | some packet => exact dispatchReceivedPacket_triple hcaptured ih
                | none =>
                  simp only [Option.toList_none, List.append_nil]
                  exact ih frame captured hcaptured

/-- The time at which the deadline is over. -/
def deadlineOf (radio : TimedRadio σ) (spec : ListenSpec) (s : σ) : ℕ :=
  radio.clock (radio.millis s).2 + spec.windowMs.toNat

theorem deadline_eq (radio : TimedRadio σ) (spec : ListenSpec) (s : σ) :
    (radio.millis s).1 + spec.windowMs = UInt32.ofNat (deadlineOf radio spec s) := by
  rw [radio.millis_reads, deadlineOf, UInt32.ofNat_add, UInt32.ofNat_toNat]

/-- A listen from any state leaves a record that fits its result. -/
theorem listen_finished (radio : TimedRadio σ) (site : ListenSite) (spec : ListenSpec)
    (onFrame : ReplyHandler κ) (frame : IoFrame) (captured : κ) (s : σ) (log : List RadioEvent) :
    let run := listen (recorded radio) site spec (recordedHandler onFrame) frame (captured, [])
      ⟨(s, []), log⟩
    Finished radio spec (deadlineOf radio spec s) (radio.clock (radio.millis s).2) run.1
      run.2.env := by
  have hstart : Kept radio spec (deadlineOf radio spec s) (radio.clock (radio.millis s).2) []
      ((recorded radio).millis (s, [])).2 := by
    refine ⟨Nat.le_refl _, fun _ => ?_, fun _ => ?_, rfl, AtEach.singleton trivial⟩
    · exact List.forall_mem_singleton.mpr trivial
    · exact List.forall_mem_singleton.mpr rfl
  have hloop : Triple
      (Journal radio spec (deadlineOf radio spec s) (radio.clock (radio.millis s).2) [])
      (listenLoop (recorded radio) site spec (recordedHandler onFrame)
        ((radio.millis s).1 + spec.windowMs) (radio.maxWaits spec.windowMs) frame (captured, []))
      (Finished radio spec (deadlineOf radio spec s) (radio.clock (radio.millis s).2)) := by
    rw [deadline_eq]
    exact listenLoop_triple _ frame (captured, []) (List.forall_mem_nil _)
  have hlisten : Triple (fun s' => s' = (s, []))
      (listen (recorded radio) site spec (recordedHandler onFrame) frame (captured, []))
      (Finished radio spec (deadlineOf radio spec s) (radio.clock (radio.millis s).2)) := by
    have hread : Triple (fun s' => s' = (s, []))
        (ask (recorded radio).millis : RadioProg (σ × List RadioCall) UInt32)
        fun now s' => s' = ((recorded radio).millis (s, [])).2 ∧ now = (radio.millis s).1 := by
      apply Triple.ask
      rintro _ rfl
      exact ⟨rfl, rfl⟩
    refine Triple.bind hread ?_
    intro now
    apply Triple.given
    rintro rfl
    apply Triple.ite
    · intro hpolicy
      refine Triple.bind (Triple.ask ?_) fun _ => hloop
      rintro _ rfl
      exact hstart.leaves (by rw [hpolicy]; decide)
    · intro hpolicy
      refine hloop.weaken ?_ fun _ _ h => h
      rintro _ rfl
      exact ⟨hstart, fun hskip => absurd hskip hpolicy⟩
  exact hlisten ⟨(s, []), log⟩ rfl

theorem remaining_toNat {deadline start : ℕ} (hle : start ≤ deadline)
    (hlt : deadline - start < 0x100000000) :
    (UInt32.ofNat deadline - UInt32.ofNat start).toNat = deadline - start := by
  rw [UInt32.toNat_sub, UInt32.toNat_ofNat', UInt32.toNat_ofNat']
  omega

/-- The waits keep to the window exactly when the deadline does not pass between the two
readings before one of them. -/
theorem inWindow_iff {calls : List RadioCall}
    (h : AtEach (fun before call _ => Checked deadline begun before call) calls)
    (hwindow : deadline - begun < 0x100000000) :
    (∀ call ∈ calls, call.InWindow deadline) ↔ Punctual deadline calls := by
  constructor
  · rintro hin before first second wait after rfl hwait hopen
    cases wait with
    | wait start freq ms packet =>
      obtain ⟨front, first', hbefore, -⟩ := h (before ++ [.read first, .read second]) _ after rfl
      have hlast := congrArg List.getLast? hbefore
      simp only [List.getLast?_append, List.getLast?_cons_cons, List.getLast?_singleton,
        Option.some_or, Option.some.injEq, RadioCall.read.injEq] at hlast
      rw [hlast]
      exact (hin (.wait start freq ms packet) (by simp)).1
    | read time => cases hwait
    | tune old new => cases hwait
  · intro hpunctual call hcall
    obtain ⟨before, after, rfl⟩ := List.append_of_mem hcall
    cases call with
    | wait start freq ms packet =>
      obtain ⟨front, first, rfl, hopen, hbegun, hms⟩ := h before _ after rfl
      have hstart := hpunctual front first start _ after rfl rfl hopen
      have hremaining := remaining_toNat (Nat.le_of_lt hstart) (by omega)
      rw [UInt32.le_iff_toNat_le, hremaining] at hms
      exact ⟨hstart, by omega⟩
    | read time => trivial
    | tune old new => trivial

/-- Whatever the radio does, a listen obeys its policy. It obeys its deadline too if and only if
the deadline never passes between the reading that finds the window open and the reading that a
wait is computed from. The record is that of the very listen. -/
theorem listen_obeys_iff {σ κ : Type} (radio : TimedRadio σ) (site : ListenSite)
    (spec : ListenSpec) (onFrame : ReplyHandler κ) (frame : IoFrame) (captured : κ) (s : σ)
    (log : List RadioEvent) :
    let run := listen (recorded radio) site spec (recordedHandler onFrame) frame (captured, [])
      ⟨(s, []), log⟩
    listen radio.toRadio site spec onFrame frame captured ⟨s, log⟩ =
        (unrecorded run.1, ⟨run.2.env.1, run.2.log⟩) ∧
      ObeysPolicy spec run.1.outcome run.1.captured.2 run.2.env.2 ∧
      (ListenObeys spec (deadlineOf radio spec s) run.1.outcome run.1.captured.2 run.2.env.2 ↔
        Punctual (deadlineOf radio spec s) run.2.env.2) := by
  intro run
  have hfinished : Finished radio spec (deadlineOf radio spec s)
      (radio.clock (radio.millis s).2) run.1 run.2.env :=
    listen_finished radio site spec onFrame frame captured s log
  have hjournal := hfinished.journal
  have hpolicy : ObeysPolicy spec run.1.outcome run.1.captured.2 run.2.env.2 :=
    ⟨hjournal.skips, hjournal.holds, hjournal.delivers.symm, hfinished.accepts, hfinished.aborts⟩
  have hwindow : deadlineOf radio spec s - radio.clock (radio.millis s).2 < 0x100000000 := by
    have hlt := spec.windowMs.toNat_lt
    rw [deadlineOf]
    omega
  refine ⟨listen_refines frame (captured, []) ⟨(s, []), log⟩, hpolicy, ?_⟩
  rw [← inWindow_iff hjournal.checks hwindow]
  constructor
  · intro h
    exact h.inWindow
  · intro h
    exact ⟨hpolicy, h⟩

/-- A radio whose every reading of the clock takes 2 ms and which never delivers a packet. -/
def slowClock : TimedRadio (ℕ × UInt32) where
  millis s := (UInt32.ofNat (s.1 + 2), (s.1 + 2, s.2))
  delay ms s := (s.1 + ms.toNat, s.2)
  readRssi s := (-120, s)
  sendPacket _ _ _ s := (true, s)
  waitForPacket ms s := (none, (s.1 + ms.toNat, s.2))
  isPreambleDetected s := (false, s)
  isSyncDetected s := (false, s)
  currentFreq s := s.2
  changeFrequency freq s := (s.1, freq)
  generateChallenge s := (Vector.replicate 6 0, s)
  responsePreamble := shortPreamble
  hopDwellMs := 10
  hasFastTxRxTurnaround := true
  maxWaits _ := 1
  clock s := s.1
  millis_reads _ := rfl
  millis_clock s := Nat.le_add_right s.1 2
  waitForPacket_clock ms s := Nat.le_add_right s.1 ms.toNat
  isPreambleDetected_clock s := Nat.le_refl s.1
  isSyncDetected_clock s := Nat.le_refl s.1
  changeFrequency_clock _ s := Nat.le_refl s.1
  millis_freq _ := rfl
  waitForPacket_freq _ _ := rfl
  isPreambleDetected_freq _ := rfl
  isSyncDetected_freq _ := rfl
  changeFrequency_freq _ _ := rfl

/-- The deadline of a window of 3 ms passes between the two readings, and the driver is asked to
wait for 49 days. -/
theorem passed_deadline_waits :
    let spec : ListenSpec := { windowMs := 3 }
    let handler : ReplyHandler PUnit := fun _ _ _ => (⟨⟩, .ignore)
    let run := listen (recorded slowClock) .firstResponse spec (recordedHandler handler)
      (initFrame true false false false) (⟨⟩, []) ⟨((0, freqCh2), []), []⟩
    deadlineOf slowClock spec (0, freqCh2) = 5 ∧
      run.2.env.2 = [.read 2, .read 4, .read 6, .wait 6 freqCh2 0xFFFFFFFF none,
        .read 0x100000007] ∧
      ¬ ListenObeys spec 5 run.1.outcome run.1.captured.2 run.2.env.2 := by
  intro spec handler run
  have hcalls : run.2.env.2 = [.read 2, .read 4, .read 6, .wait 6 freqCh2 0xFFFFFFFF none,
      .read 0x100000007] := by
    decide
  refine ⟨rfl, hcalls, fun h => ?_⟩
  have hin := h.inWindow (.wait 6 freqCh2 0xFFFFFFFF none) (by rw [hcalls]; simp)
  exact absurd hin.1 (by decide)

end HomeIoControl.ListenWindows
