import HomeIoControl.OneWayTransmitters
import Mathlib.Data.List.Nodup
import Mathlib.Data.List.Range

/-!
# One sequence for a logical command

Whatever the radio, the crypto helper and the flash answer, a run of the transmitter is a series of
logical commands. Each reserves at most one sequence, its copies carry that sequence, and one
report closes it. The sequences of one address follow each other on the ring.
-/

namespace HomeIoControl.OneWayTransmitterRuns

open TracedPrograms ProtocolFrames ProtocolCrypto ProtocolCodecs DeviceModels DeviceRequests
  PendingOperations OneWayFrames OneWaySequences OneWayTransmitters

/-- A copy of a frame, and whether it was sent. -/
abbrev Copy := IoFrame × Bool

def copyEvent (c : Copy) : Event := .copy c.1 c.2

/-- What one logical command leaves: no copies without a sequence, all copies under the one
sequence that was reserved, and one report of it. -/
inductive Command : List Event → Prop where
  | refused (r : OneWayCommandReport) (unreserved : r.sequenceReserved = false)
      (unsent : r.transmitted = false) : Command [.report r]
  | sent (nodeId : NodeId) (sequence : UInt16) (copies : List Copy) (r : OneWayCommandReport)
      (same : ∀ c ∈ copies, Carries nodeId sequence c.1) (reserved : r.sequenceReserved = true)
      (reported : r.sequence = sequence) (transmitted : r.transmitted = copies.any Prod.snd) :
      Command (.reserved nodeId sequence :: copies.map copyEvent ++ [.report r])

/-- At least one copy of an add-controller frame was sent. -/
def Swept (es : List Event) : Prop :=
  ∃ frame, frame.cmd = cmdOnewayAddController ∧ Event.copy frame true ∈ es

/-- Clear and sweep, and only after a sweep that went out, stop and lower. -/
def VeluxGesture (es : List Event) : Prop :=
  ∃ cleared swept followed, es = cleared ++ swept ++ followed ∧ Command cleared ∧ Command swept ∧
    (followed = [] ∨ Swept swept ∧
      ∃ stopped lowered, followed = stopped ++ lowered ∧ Command stopped ∧ Command lowered)

def SomfyGesture (es : List Event) : Prop :=
  ∃ cleared added, es = cleared ++ added ∧ Command cleared ∧ Command added

variable {ρ : Type} {around : Surroundings ρ} {identities : List OneWayControllerIdentity}

/-- What an enrollment leaves, by the gesture of its identity's manufacturer. -/
def EnrollmentTrace (identities : List OneWayControllerIdentity) (controllerId : String)
    (es : List Event) : Prop :=
  match getIdentity identities controllerId with
  | none => Command es
  | some identity =>
    if (resolveOnewayWireProfile identity.manufacturer).enrollGesture = .veluxKli then
      VeluxGesture es
    else SomfyGesture es

/-- What one call leaves. -/
def CallTrace (identities : List OneWayControllerIdentity) (es : List Event) : Call → Prop
  | .command _ _ => Command es
  | .position _ _ => Command es
  | .enrollment controllerId => EnrollmentTrace identities controllerId es
  | .unenrollment _ => Command es

/-- What a run leaves: the traces of its calls, one after the other. -/
inductive Transcript (identities : List OneWayControllerIdentity) : List Call → List Event → Prop
  | nil : Transcript identities [] []
  | cons {c : Call} {cs : List Call} {es fs : List Event} (head : CallTrace identities es c)
      (tail : Transcript identities cs fs) : Transcript identities (c :: cs) (es ++ fs)

theorem transmit_traces (frame : IoFrame) : Traces (transmit around frame)
    fun transmitted es => es = [.copy frame transmitted] :=
  Traces.ask_bind fun _ => Traces.tell_bind (Traces.pure rfl)

theorem sendCopies_traces (frame : IoFrame) (n : ℕ) : Traces (sendCopies around frame n)
    fun sent es => ∃ outcomes : List Bool,
      es = outcomes.map (.copy frame) ∧ sent = outcomes.count true := by
  induction n with
  | zero => exact Traces.pure ⟨[], rfl, rfl⟩
  | succ n ih =>
    refine (transmit_traces frame).bind ?_
    rintro transmitted _ rfl
    refine ih.bind ?_
    rintro sent _ ⟨outcomes, rfl, rfl⟩
    refine Traces.pure ⟨transmitted :: outcomes, by simp, ?_⟩
    cases transmitted <;> simp

/-- A burst consists of copies of one frame, and tells whether any of them was sent. -/
theorem sendBurst_traces (frame : IoFrame) : Traces (sendBurst around frame)
    fun transmitted es => ∃ copies : List Copy, es = copies.map copyEvent ∧
      (∀ c ∈ copies, c.1 = frame) ∧ transmitted = copies.any Prod.snd := by
  refine (sendCopies_traces frame onewayBurstRepeats).bind ?_
  rintro _ _ ⟨outcomes, rfl, rfl⟩
  refine Traces.pure ⟨outcomes.map fun sent => (frame, sent), ?_, ?_, ?_⟩
  · simp [copyEvent, Function.comp_def]
  · intro c hc
    obtain ⟨_, _, rfl⟩ := List.mem_map.mp hc
    rfl
  · rw [List.any_map, Bool.eq_iff_iff, decide_eq_true_eq, List.count_pos_iff, List.any_eq_true]
    simp

theorem reserve_traces (nodeId : NodeId) : Traces (reserve around nodeId)
    fun out es => es = (out.map (Event.reserved nodeId)).toList := by
  refine Traces.ask_bind fun out => ?_
  cases out with
  | none => exact Traces.pure rfl
  | some sequence => exact Traces.tell_bind (Traces.pure rfl)

theorem sign_traces : Traces (sign around) fun _ es => es = [] := Traces.ask fun _ => rfl

theorem reportFailure_refused (controllerId : String) :
    Traces (reportFailure (ρ := ρ) controllerId 0 false >>= fun _ => pure false)
      fun _ es => Command es :=
  Traces.tell_bind (Traces.pure (.refused _ rfl rfl))

/-- A call of `send_` is one logical command. -/
theorem send_traces (controllerId : String)
    {build : OneWayControllerIdentity → UInt16 → Option IoFrame} (explicitIntent : String)
    (hbuild : ∀ identity sequence f, build identity sequence = some f →
      Carries identity.nodeId sequence f) :
    Traces (send around identities controllerId build explicitIntent) fun _ es => Command es := by
  unfold send
  split
  · exact reportFailure_refused controllerId
  · next identity _ =>
    refine (reserve_traces identity.nodeId).bind ?_
    rintro (_ | sequence) _ rfl
    · exact reportFailure_refused controllerId
    · refine Traces.silent_bind sign_traces fun signed => ?_
      cases hframe : if signed then build identity sequence else none with
      | none =>
        exact Traces.tell_bind (Traces.pure
          (.sent identity.nodeId sequence [] _ (by simp) rfl rfl rfl))
      | some frame =>
        have hcarries : Carries identity.nodeId sequence frame := by
          cases signed
          · cases hframe
          · exact hbuild identity sequence frame hframe
        refine (sendBurst_traces frame).bind ?_
        rintro _ _ ⟨copies, rfl, hcopies, rfl⟩
        refine Traces.tell_bind (Traces.pure ?_)
        exact .sent identity.nodeId sequence copies _
          (fun c hc => by rw [hcopies c hc]; exact hcarries) rfl rfl rfl

theorem sendCommand_traces (controllerId : String) (cmd : CoverCommand) :
    Traces (sendCommand around identities controllerId cmd) fun _ es => Command es :=
  send_traces controllerId "" fun _ _ _ h => create1wExecuteCommand_carries h

theorem sendPosition_traces (controllerId : String) (position : UInt8) :
    Traces (sendPosition around identities controllerId position) fun _ es => Command es :=
  send_traces controllerId "" fun _ _ _ h => create1wExecutePosition_carries h

theorem sendUnenrollment_traces (controllerId : String) :
    Traces (sendUnenrollment around identities controllerId) fun _ es => Command es :=
  send_traces controllerId "UNENROLL" fun _ _ _ h => create1wRemoveController_carries h

theorem sendSomfyEnrollment_traces (identity : OneWayControllerIdentity) :
    Traces (sendSomfyEnrollment around identities identity) fun _ es => SomfyGesture es := by
  refine (sendUnenrollment_traces identity.id).bind ?_
  intro _ cleared hcleared
  refine (send_traces identity.id "ENROLL" fun _ _ _ h =>
    (create1wAddController_carries h).1).weaken ?_
  intro _ added hadded
  exact ⟨cleared, added, rfl, hcleared, hadded⟩

/-- The bursts of a sweep share their sequence, whatever classes they go to. -/
theorem sweepClasses_traces (identity : OneWayControllerIdentity) (sequence : UInt16)
    (classes : List DeviceType) : Traces (sweepClasses around identity sequence classes)
      fun transmitted es => ∃ copies : List Copy, es = copies.map copyEvent ∧
        (∀ c ∈ copies, Carries identity.nodeId sequence c.1 ∧ c.1.cmd = cmdOnewayAddController) ∧
        transmitted = copies.any Prod.snd := by
  induction classes with
  | nil => exact Traces.pure ⟨[], rfl, fun _ hc => (nomatch hc), rfl⟩
  | cons targetType classes ih =>
    refine Traces.ite (fun _ => ih) fun _ => ?_
    refine Traces.silent_bind sign_traces fun signed => ?_
    cases hframe : if signed then create1wAddController identity.nodeId targetType
      identity.manufacturer sequence identity.systemKey identity.enrollmentWithMac else none with
    | none => exact ih
    | some frame =>
      have hcarries : Carries identity.nodeId sequence frame ∧
          frame.cmd = cmdOnewayAddController := by
        cases signed
        · cases hframe
        · exact create1wAddController_carries hframe
      refine (sendBurst_traces frame).bind ?_
      rintro _ _ ⟨copies, rfl, hcopies, rfl⟩
      refine ih.bind ?_
      rintro _ _ ⟨others, rfl, hothers, rfl⟩
      refine Traces.pure ⟨copies ++ others, by simp, fun c hc => ?_, List.any_append.symm⟩
      rcases List.mem_append.mp hc with hc | hc
      · rw [hcopies c hc]
        exact hcarries
      · exact hothers c hc

/-- A sweep is one logical command, and tells whether any copy was sent. -/
theorem sendEnrollSweep_traces (identity : OneWayControllerIdentity) (classes : EnrollmentClasses) :
    Traces (sendEnrollSweep around identity classes) fun transmitted es =>
      Command es ∧ (transmitted = true → Swept es) := by
  refine (reserve_traces identity.nodeId).bind ?_
  rintro (_ | sequence) _ rfl
  · exact Traces.tell_bind (Traces.pure ⟨.refused _ rfl rfl, fun h => (nomatch h)⟩)
  · refine (sweepClasses_traces identity sequence classes.toList).bind ?_
    rintro _ _ ⟨copies, rfl, hcopies, rfl⟩
    refine Traces.tell_bind (Traces.pure ⟨?_, fun hsent => ?_⟩)
    · exact .sent identity.nodeId sequence copies _ (fun c hc => (hcopies c hc).1) rfl rfl rfl
    · obtain ⟨c, hc, hsent⟩ := List.any_eq_true.mp hsent
      refine ⟨c.1, (hcopies c hc).2, ?_⟩
      rw [← hsent]
      simp only [Option.map_some, Option.toList_some, List.singleton_append, List.mem_cons,
        List.mem_append]
      exact .inr (.inl (List.mem_map.mpr ⟨c, hc, rfl⟩))

theorem sendVeluxKliEnrollment_traces (identity : OneWayControllerIdentity) :
    Traces (sendVeluxKliEnrollment around identities identity) fun _ es => VeluxGesture es := by
  refine (send_traces identity.id "UNENROLL" fun _ _ _ h =>
    create1wRemoveController_carries h).bind ?_
  intro _ cleared hcleared
  refine (sendEnrollSweep_traces identity (effectiveEnrollmentClasses identity)).bind ?_
  rintro enrolled swept ⟨hcommand, hswept⟩
  refine Traces.ite (fun _ => ?_) fun henrolled => ?_
  · exact Traces.pure ⟨cleared, swept, [], by simp, hcleared, hcommand, .inl rfl⟩
  · refine (send_traces identity.id "ENROLL STOP" fun _ _ _ h =>
      create1wExecuteCommand_carries h).bind ?_
    intro _ stopped hstopped
    refine (send_traces identity.id "ENROLL DOWN" fun _ _ _ h =>
      create1wExecutePosition_carries h).bind ?_
    intro _ lowered hlowered
    refine Traces.pure ⟨cleared, swept, stopped ++ lowered, by simp, hcleared, hcommand, .inr ?_⟩
    exact ⟨hswept (Bool.not_eq_false _ |>.mp henrolled), stopped, lowered, rfl, hstopped, hlowered⟩

theorem sendEnrollment_traces (controllerId : String) :
    Traces (sendEnrollment around identities controllerId)
      fun _ es => EnrollmentTrace identities controllerId es := by
  unfold sendEnrollment EnrollmentTrace
  cases getIdentity identities controllerId with
  | none => exact reportFailure_refused controllerId
  | some identity =>
    refine Traces.ite (fun hvelux => ?_) fun hsomfy => ?_
    · simp only [if_pos hvelux]
      exact sendVeluxKliEnrollment_traces identity
    · simp only [if_neg hsomfy]
      exact sendSomfyEnrollment_traces identity

theorem call_traces (c : Call) :
    Traces (call around identities c) fun _ es => CallTrace identities es c := by
  cases c with
  | command controllerId cmd => exact sendCommand_traces controllerId cmd
  | position controllerId position => exact sendPosition_traces controllerId position
  | enrollment controllerId => exact sendEnrollment_traces controllerId
  | unenrollment controllerId => exact sendUnenrollment_traces controllerId

theorem calls_traces (cs : List Call) :
    Traces (calls around identities cs) fun _ es => Transcript identities cs es := by
  induction cs with
  | nil => exact Traces.pure .nil
  | cons c cs ih =>
    refine (call_traces c).bind ?_
    intro _ es hhead
    exact ih.weaken fun _ fs htail => .cons hhead htail

/-- The sequence that an event reserves for the address. -/
def reservation (nodeId : NodeId) : Event → Option UInt16
  | .reserved n sequence => if n = nodeId then some sequence else none
  | _ => none

/-- The sequences reserved for one address, in order. -/
def reservedFor (nodeId : NodeId) (es : List Event) : List UInt16 :=
  es.filterMap (reservation nodeId)

/-- Values that follow each other on the ring of 16-bit words. -/
def ringRun (start : UInt16) (n : ℕ) : List UInt16 :=
  (List.range n).map fun i => start + UInt16.ofNat i

theorem ringRun_succ (start : UInt16) (n : ℕ) :
    ringRun start (n + 1) = ringRun start n ++ [start + UInt16.ofNat n] := by
  simp [ringRun, List.range_succ]

/-- Fewer values than the ring has are different. -/
theorem ringRun_nodup (start : UInt16) {n : ℕ} (hn : n ≤ 2 ^ 16) : (ringRun start n).Nodup := by
  refine List.nodup_range.map_on ?_
  intro i hi j hj heq
  rw [List.mem_range] at hi hj
  have hvalue := congrArg UInt16.toNat ((UInt16.add_right_inj start).mp heq)
  rw [UInt16.toNat_ofNat', UInt16.toNat_ofNat'] at hvalue
  omega

/-- A property of the counter of an address and of what was reserved for it. -/
def Booked (nodeId : NodeId) (inv : Option UInt16 → List UInt16 → Prop)
    (w : World (Station ρ) Event) : Prop :=
  inv (w.env.store.peek nodeId) (reservedFor nodeId w.log)

/-- What the store hands out next follows what was reserved so far, from the value on with which
the counter was opened; nothing is reserved without a counter. -/
def Follows : Option UInt16 → Option UInt16 → List UInt16 → Prop
  | none, shown, values => shown = none ∧ values = []
  | some start, shown, values =>
    ∃ n, shown = some (start + UInt16.ofNat n) ∧ values = ringRun start n

/-- The counter of the address is left, or what it shows is handed out. -/
def HandsOut (store store' : OneWaySequenceStore) (nodeId : NodeId) : Option UInt16 → Prop
  | none => store'.peek nodeId = store.peek nodeId
  | some value => store.peek nodeId = some value ∧ store'.peek nodeId = some (value + 1)

/-- A call of `next` hands out what the counter of the address shows, and moves no other. -/
theorem next_peek {store store' : OneWaySequenceStore} {p p' : Preferences} {save sync : Reply}
    {nodeId : NodeId} {out : Option UInt16}
    (h : store.next p save sync nodeId = (store', p', .returned out)) :
    (∀ other, other ≠ nodeId → store'.peek other = store.peek other) ∧
      HandsOut store store' nodeId out := by
  unfold OneWaySequenceStore.next at h
  cases hfind : store.find nodeId with
  | none =>
    simp only [hfind] at h
    cases h
    exact ⟨fun _ _ => rfl, rfl⟩
  | some counter =>
    have hself := OneWaySequenceStore.nodeId_of_find hfind
    have hwrite : ∀ new : Counter, new.nodeId = nodeId → new.next = counter.next + 1 →
        (∀ other, other ≠ nodeId →
          (OneWaySequenceStore.write nodeId new store).peek other = store.peek other) ∧
        store.peek nodeId = some counter.next ∧
        (OneWaySequenceStore.write nodeId new store).peek nodeId = some (counter.next + 1) := by
      intro new hnew hnext
      refine ⟨fun other hne => ?_, ?_, ?_⟩
      · rw [OneWaySequenceStore.peek, OneWaySequenceStore.find_write_of_ne hnew hne.symm]
        rfl
      · rw [OneWaySequenceStore.peek, hfind]
        rfl
      · rw [OneWaySequenceStore.peek, OneWaySequenceStore.find_write_self hnew hfind,
          Option.map_some, hnext]
    simp only [hfind] at h
    split at h
    · split at h <;> cases h
      · exact ⟨fun _ _ => rfl, rfl⟩
      · exact hwrite _ hself rfl
    · cases h
      exact hwrite _ hself rfl

theorem next_ne_powerLost (store : OneWaySequenceStore) (p : Preferences) (save sync : Bool)
    (nodeId : NodeId) {store' : OneWaySequenceStore} {p' : Preferences} :
    store.next p (replyOf save) (replyOf sync) nodeId ≠ (store', p', .powerLost) := by
  intro h
  unfold OneWaySequenceStore.next at h
  split at h
  · cases h
  · split at h
    · cases save <;> cases sync <;> simp [replyOf, persist] at h
    · cases h

theorem nextSequence_next (around : Surroundings ρ) (nodeId : NodeId) (s : Station ρ) : ∃ save sync,
    s.store.next s.preferences save sync nodeId = ((nextSequence around nodeId s).2.store,
      (nextSequence around nodeId s).2.preferences,
      .returned (nextSequence around nodeId s).1) := by
  refine ⟨replyOf (around.persists s.rest).1.1, replyOf (around.persists s.rest).1.2, ?_⟩
  rw [nextSequence]
  rcases hnext : s.store.next s.preferences (replyOf (around.persists s.rest).1.1)
    (replyOf (around.persists s.rest).1.2) nodeId with ⟨store, preferences, outcome⟩
  cases outcome with
  | returned out => rfl
  | powerLost => exact absurd hnext (next_ne_powerLost _ _ _ _ _)

section

variable {nodeId : NodeId} {inv : Option UInt16 → List UInt16 → Prop}

theorem Booked.later {w w' : World (Station ρ) Event} (h : Booked nodeId inv w)
    (hpeek : w'.env.store.peek nodeId = w.env.store.peek nodeId)
    (hlog : reservedFor nodeId w'.log = reservedFor nodeId w.log) : Booked nodeId inv w' := by
  rwa [Booked, hpeek, hlog]

/-- An event that reserves nothing is not booked. -/
theorem booked_tell {e : Event} (h : reservation nodeId e = none) :
    Preserves (Booked (ρ := ρ) nodeId inv) (tell e) :=
  Preserves.tell fun w hw => hw.later rfl (by simp [reservedFor, h])

theorem booked_sign : Preserves (Booked nodeId inv) (sign around) :=
  Preserves.ask fun _ hw => hw.later rfl rfl

theorem booked_transmit (frame : IoFrame) :
    Preserves (Booked nodeId inv) (transmit around frame) :=
  Preserves.bind (Preserves.ask fun _ hw => hw.later rfl rfl) fun transmitted =>
    Preserves.bind (booked_tell rfl) fun _ => Preserves.pure transmitted

theorem booked_sendCopies (frame : IoFrame) (n : ℕ) :
    Preserves (Booked nodeId inv) (sendCopies around frame n) := by
  induction n with
  | zero => exact Preserves.pure 0
  | succ n ih => exact (booked_transmit frame).bind fun _ => ih.bind fun _ => Preserves.pure _

theorem booked_sendBurst (frame : IoFrame) :
    Preserves (Booked nodeId inv) (sendBurst around frame) :=
  (booked_sendCopies frame onewayBurstRepeats).bind fun _ => Preserves.pure _

theorem booked_reportFailure (controllerId : String) (sequence : UInt16)
    (sequenceReserved : Bool) : Preserves (Booked (ρ := ρ) nodeId inv)
      (reportFailure controllerId sequence sequenceReserved >>= fun _ => pure false) :=
  (booked_tell rfl).bind fun _ => Preserves.pure false

/-- Once its sequence is reserved a command touches no counter. -/
theorem booked_sendUnder (controllerId : String) (identity : OneWayControllerIdentity)
    (build : OneWayControllerIdentity → UInt16 → Option IoFrame) (explicitIntent : String)
    (sequence : UInt16) : Preserves (Booked nodeId inv)
      (sendUnder around controllerId identity build explicitIntent sequence) := by
  refine booked_sign.bind fun signed => ?_
  cases if signed then build identity sequence else none with
  | none => exact booked_reportFailure controllerId sequence true
  | some frame =>
    exact (booked_sendBurst frame).bind fun transmitted =>
      (booked_tell rfl).bind fun _ => Preserves.pure transmitted

theorem booked_sweepClasses (identity : OneWayControllerIdentity) (sequence : UInt16)
    (classes : List DeviceType) :
    Preserves (Booked nodeId inv) (sweepClasses around identity sequence classes) := by
  induction classes with
  | nil => exact Preserves.pure false
  | cons targetType classes ih =>
    refine Preserves.ite ih (booked_sign.bind fun signed => ?_)
    cases if signed then create1wAddController identity.nodeId targetType identity.manufacturer
      sequence identity.systemKey identity.enrollmentWithMac else none with
    | none => exact ih
    | some frame =>
      exact (booked_sendBurst frame).bind fun _ => ih.bind fun _ => Preserves.pure _

end

section

variable {start : Option UInt16} {nodeId : NodeId}

/-- A reservation is the next value of its counter. -/
theorem reserve_follows (other : NodeId) :
    Preserves (Booked nodeId (Follows start)) (reserve around other) := by
  intro w hw
  obtain ⟨save, sync, hnext⟩ := nextSequence_next around other w.env
  obtain ⟨hothers, hself⟩ := next_peek hnext
  change Booked nodeId (Follows start) (noteReservation other (nextSequence around other w.env).1
    ⟨(nextSequence around other w.env).2, w.log⟩).2
  cases hout : (nextSequence around other w.env).1 with
  | none =>
    rw [hout] at hself
    refine hw.later ?_ rfl
    by_cases hne : nodeId = other
    · subst hne
      exact hself
    · exact hothers nodeId hne
  | some sequence =>
    rw [hout] at hself
    obtain ⟨hshown, hmoved⟩ := hself
    by_cases hne : nodeId = other
    · subst hne
      have hlog : reservedFor nodeId (w.log ++ [.reserved nodeId sequence]) =
          reservedFor nodeId w.log ++ [sequence] := by simp [reservedFor, reservation]
      cases start with
      | none =>
        rw [hw.1] at hshown
        cases hshown
      | some start =>
        obtain ⟨n, hpeek, hvalues⟩ := hw
        rw [hpeek, Option.some.injEq] at hshown
        refine ⟨n + 1, ?_, ?_⟩
        · rw [UInt16.ofNat_add, ← UInt16.add_assoc, hshown]
          exact hmoved
        · rw [ringRun_succ, hshown, ← hvalues]
          exact hlog
    · have hlog : reservedFor nodeId (w.log ++ [.reserved other sequence]) =
          reservedFor nodeId w.log := by simp [reservedFor, reservation, Ne.symm hne]
      exact hw.later (hothers nodeId hne) hlog

theorem send_follows (controllerId : String)
    (build : OneWayControllerIdentity → UInt16 → Option IoFrame) (explicitIntent : String) :
    Preserves (Booked nodeId (Follows start))
      (send around identities controllerId build explicitIntent) := by
  unfold send
  split
  · exact booked_reportFailure controllerId 0 false
  · next identity _ =>
    refine (reserve_follows identity.nodeId).bind ?_
    rintro (_ | sequence)
    · exact booked_reportFailure controllerId 0 false
    · exact booked_sendUnder controllerId identity build explicitIntent sequence

theorem sendEnrollSweep_follows (identity : OneWayControllerIdentity)
    (classes : EnrollmentClasses) :
    Preserves (Booked nodeId (Follows start)) (sendEnrollSweep around identity classes) := by
  refine (reserve_follows identity.nodeId).bind ?_
  rintro (_ | sequence)
  · exact booked_reportFailure identity.id 0 false
  · exact (booked_sweepClasses identity sequence classes.toList).bind
      fun transmitted => (booked_tell rfl).bind fun _ => Preserves.pure transmitted

theorem sendEnrollment_follows (controllerId : String) :
    Preserves (Booked nodeId (Follows start)) (sendEnrollment around identities controllerId) := by
  unfold sendEnrollment
  split
  · exact booked_reportFailure controllerId 0 false
  · next identity _ =>
    refine Preserves.ite ?_ ?_
    · refine (send_follows identity.id _ _).bind fun _ => ?_
      refine (sendEnrollSweep_follows identity _).bind fun enrolled => ?_
      refine Preserves.ite (Preserves.pure false) ?_
      exact (send_follows identity.id _ _).bind fun _ =>
        (send_follows identity.id _ _).bind fun _ => Preserves.pure true
    · exact (send_follows identity.id _ _).bind fun _ => send_follows identity.id _ _

theorem calls_follow (cs : List Call) :
    Preserves (Booked nodeId (Follows start)) (calls around identities cs) := by
  induction cs with
  | nil => exact Preserves.pure _
  | cons c cs ih =>
    refine Preserves.bind ?_ fun _ => ih
    cases c with
    | command controllerId cmd => exact send_follows controllerId _ _
    | position controllerId position => exact send_follows controllerId _ _
    | enrollment controllerId => exact sendEnrollment_follows controllerId
    | unenrollment controllerId => exact send_follows controllerId _ _

end

/-- Every run is a series of logical commands, each under at most one reserved sequence and with
one report. The sequences of an address are consecutive on the ring from the value on with which
its counter was opened, and different while there are no more of them than the ring has values. -/
theorem one_sequence_per_command (around : Surroundings ρ)
    (identities : List OneWayControllerIdentity) (preferences : Preferences) (rest : ρ)
    (cs : List Call) :
    Transcript identities cs (transcript around identities preferences rest cs) ∧
    ∀ nodeId, ∃ n,
      reservedFor nodeId (transcript around identities preferences rest cs) =
        ((setup identities preferences rest).env.store.peek nodeId).elim [] (ringRun · n) ∧
      (n ≤ 2 ^ 16 →
        (reservedFor nodeId (transcript around identities preferences rest cs)).Nodup) := by
  constructor
  · have htraces : Traces (calls around identities cs) fun _ es => Transcript identities cs es :=
      calls_traces cs
    obtain ⟨es, hlog, htranscript⟩ := htraces (setup identities preferences rest)
    rw [transcript, hlog]
    exact htranscript
  · intro nodeId
    have hstart : Booked nodeId
        (Follows ((setup identities preferences rest).env.store.peek nodeId))
        (setup identities preferences rest) := by
      cases hpeek : (setup identities preferences rest).env.store.peek nodeId with
      | none => exact ⟨hpeek, rfl⟩
      | some start => exact ⟨0, by simpa using hpeek, rfl⟩
    have hfollow : Preserves
        (Booked nodeId (Follows ((setup identities preferences rest).env.store.peek nodeId)))
        (calls around identities cs) := calls_follow cs
    have hend := hfollow _ hstart
    cases hpeek : (setup identities preferences rest).env.store.peek nodeId with
    | none =>
      rw [hpeek] at hend
      obtain ⟨-, hvalues⟩ := hend
      exact ⟨0, hvalues, fun _ => by rw [transcript, hvalues]; exact .nil⟩
    | some start =>
      rw [hpeek] at hend
      obtain ⟨n, -, hvalues⟩ := hend
      exact ⟨n, hvalues, fun hn => by rw [transcript, hvalues]; exact ringRun_nodup start hn⟩

/-- Surroundings in which everything succeeds. -/
def faultless : Surroundings Unit :=
  ⟨fun _ => ((true, true), ()), fun _ => (true, ()), fun _ _ _ _ => (true, ())⟩

theorem next_of_ok {store : OneWaySequenceStore} {nodeId : NodeId} {value : UInt16}
    (p : Preferences) (h : store.peek nodeId = some value) :
    ∃ store' p', store.next p .ok .ok nodeId = (store', p', .returned (some value)) := by
  obtain ⟨counter, hfind, rfl⟩ := Option.map_eq_some_iff.mp h
  unfold OneWaySequenceStore.next
  rw [hfind]
  by_cases hexhausted : counter.next = counter.reserved
  · simp [hexhausted, persist]
  · simp [hexhausted]

/-- Where everything succeeds a command reserves what its counter shows. -/
theorem send_reserves {identity : OneWayControllerIdentity} {controllerId : String}
    (hidentity : getIdentity identities controllerId = some identity)
    (build : OneWayControllerIdentity → UInt16 → Option IoFrame) (explicitIntent : String)
    {w : World (Station Unit) Event} {value : UInt16}
    (hw : w.env.store.peek identity.nodeId = some value) :
    Booked identity.nodeId (fun shown values => shown = some (value + 1) ∧
        values = reservedFor identity.nodeId w.log ++ [value])
      (send faultless identities controllerId build explicitIntent w).2 := by
  obtain ⟨store, p, hnext⟩ := next_of_ok w.env.preferences hw
  have hsequence : nextSequence faultless identity.nodeId w.env = (some value, ⟨store, p, ()⟩) := by
    simp [nextSequence, faultless, replyOf, hnext]
  have hreserve : reserve faultless identity.nodeId w =
      (some value, ⟨⟨store, p, ()⟩, w.log ++ [.reserved identity.nodeId value]⟩) := by
    rw [reserve, bind_apply, ask, hsequence]
    rfl
  unfold send
  simp only [hidentity]
  rw [bind_apply, hreserve]
  refine booked_sendUnder controllerId identity build explicitIntent value _ ⟨?_, ?_⟩
  · exact (next_peek hnext).2.2
  · simp [reservedFor, reservation]

theorem positions_reserve {identity : OneWayControllerIdentity} {controllerId : String}
    (hidentity : getIdentity identities controllerId = some identity) (n : ℕ)
    {w : World (Station Unit) Event} {value : UInt16}
    (hw : w.env.store.peek identity.nodeId = some value) :
    (reservedFor identity.nodeId
      (calls faultless identities (List.replicate n (.position controllerId 0)) w).2.log).length =
      (reservedFor identity.nodeId w.log).length + n := by
  induction n generalizing w value with
  | zero => rfl
  | succ n ih =>
    obtain ⟨hshown, hvalues⟩ := send_reserves hidentity (fun identity sequence =>
      create1wExecutePosition identity.nodeId identity.ioDeviceType 0 sequence identity.systemKey
        (effectiveExecuteAcei identity) identity.executeBroadcastAll) "" hw
    have hrest := ih hshown
    rw [hvalues, List.length_append, List.length_singleton] at hrest
    rw [Nat.add_right_comm] at hrest
    exact hrest

/-- One value more than the ring has comes round to the first. -/
theorem ringRun_not_nodup (start : UInt16) : ¬(ringRun start (2 ^ 16 + 1)).Nodup := by
  have hfirst : start ∈ ringRun start (2 ^ 16) :=
    List.mem_map.mpr ⟨0, List.mem_range.mpr (by norm_num), UInt16.add_zero start⟩
  have hlast : start + UInt16.ofNat (2 ^ 16) = start := by
    have hround : UInt16.ofNat (2 ^ 16) = 0 := rfl
    rw [hround, UInt16.add_zero]
  rw [ringRun_succ, hlast, List.nodup_append]
  rintro ⟨-, -, hdisjoint⟩
  exact hdisjoint start hfirst start (List.mem_singleton.mpr rfl) rfl

/-- An awning's remote. -/
def awningRemote : OneWayControllerIdentity :=
  { id := "awning", nodeId := ⟨0xC3, 0x00, 0x01⟩, systemKey := Vector.replicate 16 0
    ioDeviceType := .awning, enrollmentClasses := Vector.replicate 3 .unknown }

/-- After once around the ring the counter hands out its first value again. -/
theorem sequences_come_round : ¬ ∀ (around : Surroundings Unit)
    (identities : List OneWayControllerIdentity) (preferences : Preferences) (cs : List Call)
    (nodeId : NodeId),
    (reservedFor nodeId (transcript around identities preferences () cs)).Nodup := by
  intro h
  have hidentity : getIdentity [awningRemote] "awning" = some awningRemote := by
    simp [getIdentity, awningRemote]
  have hopened : (setup [awningRemote] .empty ()).env.store.peek awningRemote.nodeId = some 0 := rfl
  have hlength := positions_reserve hidentity (2 ^ 16 + 1) hopened
  have hopen : Booked awningRemote.nodeId (Follows (some 0)) (setup [awningRemote] .empty ()) :=
    ⟨0, hopened, rfl⟩
  have hfollow : Preserves (Booked awningRemote.nodeId (Follows (some 0)))
      (calls faultless [awningRemote] (List.replicate (2 ^ 16 + 1) (.position "awning" 0))) :=
    calls_follow _
  obtain ⟨n, -, hvalues⟩ := hfollow _ hopen
  have hn : n = 2 ^ 16 + 1 := by
    rw [hvalues] at hlength
    simpa [ringRun, setup, reservedFor] using hlength
  have hnodup := h faultless [awningRemote] .empty
    (List.replicate (2 ^ 16 + 1) (.position "awning" 0)) awningRemote.nodeId
  rw [transcript, hvalues, hn] at hnodup
  exact ringRun_not_nodup 0 hnodup

end HomeIoControl.OneWayTransmitterRuns
