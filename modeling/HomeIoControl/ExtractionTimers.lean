import HomeIoControl.MachineRuns
import HomeIoControl.PairingResponder

/-!
# The timers of a key extraction

Arming starts the auto-off timer, a recovered key the grace timer. Disarming cancels neither, so
that a timer started in one arm cycle may fire in a later one, unless the later one has replaced
it by then.
-/

namespace HomeIoControl.ExtractionTimers

open MachineRuns ProtocolFrames ProtocolCrypto ProtocolCommands PairingResponder

def keyExtractionAutoOffMs : ℕ := 10 * 60 * 1000

/-- A pending timer, with the arm cycle that started it. -/
structure Timer where
  deadline : ℕ
  cycle : ℕ

/-- The responder with its two named timers. The arm cycles are counted, and the time of the last
arming is kept. -/
structure Hub where
  responder : KeyExtraction
  autoOff : Option Timer
  grace : Option Timer
  cycle : ℕ
  armedAt : ℕ

namespace Hub

def boot : Hub := ⟨{}, none, none, 0, 0⟩

def Armed (h : Hub) : Prop := h.responder.ctx.state ≠ .disarmed

instance (h : Hub) : Decidable h.Armed := inferInstanceAs (Decidable (_ ≠ _))

end Hub

inductive Action where
  | setArmed (throwawayId : NodeId)
  | setDisarmed
  | receive (frame : IoFrame) (candidateChallenge : Challenge)
  | autoOffFires
  | graceFires
  deriving DecidableEq

structure Event where
  now : ℕ
  action : Action
  deriving DecidableEq

/-- What the hub does besides changing its state. -/
inductive Output where
  | responder (effect : ResponderEffect)
  | armedCallback (armed : Bool)

/-- `set_key_extraction_armed(true)`, with the generated throwaway address. -/
def setArmed (now : ℕ) (throwawayId : NodeId) (h : Hub) : Hub × List Output :=
  (⟨h.responder.arm throwawayId, some ⟨now + keyExtractionAutoOffMs, h.cycle + 1⟩, h.grace,
    h.cycle + 1, now⟩, [.armedCallback true])

/-- `set_key_extraction_armed(false)`. -/
def setDisarmed (h : Hub) : Hub × List Output :=
  if h.responder.ctx.state = .disarmed then (h, [])
  else ({ h with responder := { h.responder with ctx := {} } }, [.armedCallback false])

/-- The delay with which a list of effects starts the grace timer. -/
def graceDelay (effects : List ResponderEffect) : Option UInt32 :=
  effects.findSome? fun
    | .scheduleGrace delayMs => some delayMs
    | _ => none

/-- A received frame; starting the grace timer replaces the pending one. -/
def receive (now : ℕ) (candidateChallenge : Challenge) (h : Hub) (frame : IoFrame) :
    Hub × List Output :=
  match tryHandleKeyExtractionFrame (UInt32.ofNat now) candidateChallenge h.responder frame with
  | none => (h, [])
  | some (responder, effects) =>
    ({ h with
        responder := responder
        grace := match graceDelay effects with
          | some delayMs => some ⟨now + delayMs.toNat, h.cycle⟩
          | none => h.grace },
      effects.map .responder)

/-- The callback of the auto-off timer. -/
def autoOffCallback (h : Hub) : Hub × List Output :=
  if h.responder.ctx.state = .disarmed then (h, []) else setDisarmed h

/-- The callback of the grace timer. -/
def graceCallback (h : Hub) : Hub × List Output :=
  if h.responder.ctx.state ≠ .extracted ∧ h.responder.ctx.state ≠ .sentAddressResp then (h, [])
  else setDisarmed h

/-- One event. A timer fires when it is pending and due. -/
def step (h : Hub) (e : Event) : Hub × List Output :=
  match e.action with
  | .setArmed throwawayId => setArmed e.now throwawayId h
  | .setDisarmed => setDisarmed h
  | .receive frame candidateChallenge => receive e.now candidateChallenge h frame
  | .autoOffFires =>
    match h.autoOff with
    | some timer => if timer.deadline ≤ e.now then autoOffCallback { h with autoOff := none }
        else (h, [])
    | none => (h, [])
  | .graceFires =>
    match h.grace with
    | some timer => if timer.deadline ≤ e.now then graceCallback { h with grace := none }
        else (h, [])
    | none => (h, [])

def hubMachine : Machine Hub Event Output := ⟨step⟩

/-- An armed hub waits for the auto-off timer of its own arming. One that holds a key waits for a
grace timer that its own cycle started. -/
structure Timed (h : Hub) : Prop where
  autoOff : h.Armed → ∃ timer, h.autoOff = some timer ∧
    timer.deadline = h.armedAt + keyExtractionAutoOffMs
  grace : h.responder.ctx.HasKey → ∃ timer, h.grace = some timer ∧ timer.cycle = h.cycle

section

variable {h : Hub}

theorem armed_of_hasKey (hkey : h.responder.ctx.HasKey) : h.Armed := by
  intro hdisarmed
  exact ResponderContext.not_hasKey .disarmed hdisarmed (by decide) (by decide) hkey

theorem timed_of_disarmed (off : h.responder.ctx.state = .disarmed) : Timed h where
  autoOff armed := absurd off armed
  grace hkey := absurd off (armed_of_hasKey hkey)

theorem timed_boot : Timed .boot := timed_of_disarmed rfl

theorem setDisarmed_disarms (h : Hub) :
    (setDisarmed h).1.responder.ctx.state = .disarmed := by
  unfold setDisarmed
  split
  · next off => exact off
  · rfl

theorem timed_setArmed (now : ℕ) (throwawayId : NodeId) (h : Hub) :
    Timed (setArmed now throwawayId h).1 where
  autoOff _ := ⟨_, rfl, rfl⟩
  grace hkey := absurd hkey (ResponderContext.not_hasKey .armedIdle rfl (by decide) (by decide))

/-- A frame that brings the responder to a key starts the grace timer. -/
theorem hasKey_before {now : UInt32} {candidateChallenge : Challenge} {k : KeyExtraction}
    {frame : IoFrame} {r : KeyExtraction × List ResponderEffect}
    (hr : tryHandleKeyExtractionFrame now candidateChallenge k frame = some r)
    (hkey : r.1.ctx.HasKey) (hquiet : graceDelay r.2 = none) : k.ctx.HasKey := by
  by_cases takes : TakesKey k.ctx frame
  · rw [tryHandleKeyExtractionFrame_of_takesKey takes, Option.some.injEq] at hr
    rw [← hr] at hquiet
    simp [graceDelay, armPostExtractionGrace] at hquiet
  · have hstep := tryHandleKeyExtractionFrame_step hr
    generalize r.1.ctx = ctx, sentFrames r.2 = sent, loggedResults r.2 = logged at hstep hkey
    cases hstep with
    | silent => exact hkey
    | discover =>
      exact absurd hkey
        (ResponderContext.not_hasKey .sentDiscoverResp rfl (by decide) (by decide))
    | confirm =>
      exact absurd hkey (ResponderContext.not_hasKey .sentConfirmAck rfl (by decide) (by decide))
    | keyInit =>
      exact absurd hkey (ResponderContext.not_hasKey .sentChallenge rfl (by decide) (by decide))
    | keyInitRetry => exact hkey
    | keyTransfer htakes => exact absurd htakes takes
    | address _ _ hbefore => exact hbefore
    | addressChallenge => exact hkey

/-- A disarmed responder takes no frame. -/
theorem armed_of_handled {now : UInt32} {candidateChallenge : Challenge} {k : KeyExtraction}
    {frame : IoFrame} {r : KeyExtraction × List ResponderEffect}
    (hr : tryHandleKeyExtractionFrame now candidateChallenge k frame = some r) :
    k.ctx.state ≠ .disarmed := by
  intro off
  rw [tryHandleKeyExtractionFrame, if_pos off] at hr
  cases hr

theorem timed_receive (t : Timed h) (now : ℕ) (candidateChallenge : Challenge)
    (frame : IoFrame) : Timed (receive now candidateChallenge h frame).1 := by
  unfold receive
  cases hr : tryHandleKeyExtractionFrame (UInt32.ofNat now) candidateChallenge h.responder
      frame with
  | none => exact t
  | some r =>
    refine ⟨fun _ => t.autoOff (armed_of_handled hr), fun hkey => ?_⟩
    cases hdelay : graceDelay r.2 with
    | none =>
      have hbefore := hasKey_before hr hkey hdelay
      simpa only [hdelay] using t.grace hbefore
    | some delayMs =>
      simp only [hdelay]
      exact ⟨_, rfl, rfl⟩

theorem timed_autoOffCallback (h : Hub) : Timed (autoOffCallback h).1 := by
  unfold autoOffCallback
  split
  · next off => exact timed_of_disarmed off
  · exact timed_of_disarmed (setDisarmed_disarms h)

/-- Without its grace timer a hub that holds no key is timed as before. -/
theorem timed_graceCallback (t : Timed h) : Timed (graceCallback { h with grace := none }).1 := by
  unfold graceCallback
  split
  · next hstate =>
    refine ⟨t.autoOff, fun hkey => ?_⟩
    rcases hkey with hextracted | haddress
    · exact absurd hextracted hstate.1
    · exact absurd haddress hstate.2
  · exact timed_of_disarmed (setDisarmed_disarms _)

theorem timed_step (t : Timed h) (e : Event) : Timed (step h e).1 := by
  obtain ⟨now, action⟩ := e
  cases action with
  | setArmed throwawayId => exact timed_setArmed now throwawayId h
  | setDisarmed => exact timed_of_disarmed (setDisarmed_disarms h)
  | receive frame candidateChallenge => exact timed_receive t now candidateChallenge frame
  | autoOffFires =>
    simp only [step]
    split
    · split
      · exact timed_autoOffCallback _
      · exact t
    · exact t
  | graceFires =>
    simp only [step]
    split
    · split
      · exact timed_graceCallback t
      · exact t
    · exact t

end

/-- A firing of the grace timer disarms only the cycle that started the timer. -/
def GraceOfOwnCycle (h : Hub) (e : Event) : Prop :=
  e.action = .graceFires → h.Armed → ¬ (step h e).1.Armed →
    ∃ timer, h.grace = some timer ∧ timer.cycle = h.cycle

/-- No timer is overdue by more than the lateness. -/
def Punctual (lateness : ℕ) (h : Hub) (e : Event) : Prop :=
  (∀ timer ∈ h.autoOff, e.now ≤ timer.deadline + lateness) ∧
    ∀ timer ∈ h.grace, e.now ≤ timer.deadline + lateness

instance (lateness : ℕ) (h : Hub) (e : Event) : Decidable (Punctual lateness h e) :=
  inferInstanceAs (Decidable (_ ∧ _))

/-- A hub that is armed after the event was armed no longer ago than the arm window. -/
def ArmedInTime (lateness : ℕ) (h : Hub) (e : Event) : Prop :=
  (step h e).1.Armed → e.now ≤ (step h e).1.armedAt + keyExtractionAutoOffMs + lateness

section

variable {h : Hub} {e : Event}

/-- Only an arming arms. -/
theorem armed_before (armed : (step h e).1.Armed) :
    (∃ throwawayId, e.action = .setArmed throwawayId) ∨
      h.Armed ∧ (step h e).1.armedAt = h.armedAt := by
  obtain ⟨now, action⟩ := e
  cases action with
  | setArmed throwawayId => exact .inl ⟨throwawayId, rfl⟩
  | setDisarmed => exact absurd (setDisarmed_disarms h) armed
  | receive frame candidateChallenge =>
    refine .inr ?_
    simp only [step, receive] at armed ⊢
    cases hr : tryHandleKeyExtractionFrame (UInt32.ofNat now) candidateChallenge h.responder
        frame with
    | none => exact ⟨by simpa only [hr] using armed, rfl⟩
    | some r => exact ⟨armed_of_handled hr, rfl⟩
  | autoOffFires =>
    refine .inr ?_
    simp only [step, autoOffCallback] at armed ⊢
    split at armed
    · split at armed
      · split at armed
        · next off => exact absurd off armed
        · exact absurd (setDisarmed_disarms _) armed
      · next hdue => exact ⟨armed, by rw [if_neg hdue]⟩
    · exact ⟨armed, rfl⟩
  | graceFires =>
    refine .inr ?_
    simp only [step, graceCallback] at armed ⊢
    split at armed
    · next timer _ =>
      split at armed
      · next hdue =>
        rw [if_pos hdue]
        split at armed
        · next hstate => exact ⟨armed, by rw [if_pos hstate]⟩
        · exact absurd (setDisarmed_disarms _) armed
      · next hdue => exact ⟨armed, by rw [if_neg hdue]⟩
    · exact ⟨armed, rfl⟩

theorem Timed.armedInTime (t : Timed h) {lateness : ℕ} (ok : Punctual lateness h e) :
    ArmedInTime lateness h e := by
  intro armed
  rcases armed_before armed with ⟨throwawayId, harm⟩ | ⟨hbefore, hsame⟩
  · have hnow : (step h e).1.armedAt = e.now := by rw [step, harm]; rfl
    omega
  · obtain ⟨timer, hpending, hdeadline⟩ := t.autoOff hbefore
    have hlate := ok.1 timer hpending
    omega

theorem Timed.graceOfOwnCycle (t : Timed h) : GraceOfOwnCycle h e := by
  intro hfires armed hdisarmed
  obtain ⟨now, action⟩ := e
  obtain rfl : action = .graceFires := hfires
  apply t.grace
  by_contra hkey
  apply hdisarmed
  obtain ⟨hextracted, haddress⟩ := not_or.mp hkey
  simp only [step, graceCallback]
  split
  · split
    · rw [if_pos ⟨hextracted, haddress⟩]
      exact armed
    · exact armed
  · exact armed

end

/-- In every interleaving of toggles, frames and timer firings: a grace window disarms only the
cycle that started it, and where no timer is late by more than some bound no cycle is armed for
longer than the arm window and the bound. -/
theorem timers_of_own_cycle (es : List Event) :
    hubMachine.Along GraceOfOwnCycle .boot es ∧
      ∀ lateness, hubMachine.Along (Punctual lateness) .boot es →
        hubMachine.Along (ArmedInTime lateness) .boot es := by
  have keep : ∀ h e, Timed h → Timed (hubMachine.step h e).1 := fun _ e t => timed_step t e
  constructor
  · have always : hubMachine.Along (fun _ _ => True) .boot es :=
      hubMachine.along_of_forall (fun _ _ => trivial) es
    exact always.under hubMachine keep (fun _ _ t _ => t.graceOfOwnCycle) timed_boot
  · intro lateness punctual
    exact punctual.under hubMachine keep (fun _ _ t ok => t.armedInTime ok) timed_boot

private def throwaway : NodeId := ⟨0x12, 0x34, 0x56⟩
private def hub : NodeId := ⟨0xAA, 0x00, 0x01⟩

private def frameOf (cmd : UInt8) (dst : NodeId) (data : List UInt8)
    (h : data.length ≤ frameMaxDataSize) : Action :=
  .receive ⟨0, 0, dst, hub, cmd, data, none, h⟩ (Vector.replicate 6 0x11)

/-- A key is recovered and the switch toggled; the grace timer of the first cycle fires into the
second, which the auto-off timer ends. -/
private def toggledAfterKey : List Event :=
  [⟨0, .setArmed throwaway⟩, ⟨1000, frameOf cmdDiscoverReq broadcastDiscover [] empty_payload_le⟩,
    ⟨2000, frameOf cmdKeyInit throwaway [] empty_payload_le⟩,
    ⟨3000, frameOf cmdKeyTransfer throwaway (List.replicate 16 0x44) (by decide)⟩,
    ⟨4000, .setDisarmed⟩, ⟨5000, .setArmed throwaway⟩, ⟨63000, .graceFires⟩,
    ⟨605000, .autoOffFires⟩]

theorem toggledAfterKey_timers :
    hubMachine.Along (ArmedInTime 0) .boot toggledAfterKey ∧
      (hubMachine.run .boot toggledAfterKey).responder.ctx.state = .disarmed :=
  ⟨(timers_of_own_cycle toggledAfterKey).2 0 (by decide), by decide⟩

end HomeIoControl.ExtractionTimers
