import HomeIoControl.Exchanges

/-!
# What listening and exchanging keep true of the radio's state

A fact about the radio's state that survives everything but transmitting survives every wait,
and every exchange whose frames keep it too. What a packet says when the radio hands it over
still holds when the wait that accepts it returns.
-/

namespace HomeIoControl.RadioInvariants

open TracedPrograms ProtocolFrames ProtocolCrypto ProtocolCommands RadioLinks Exchanges

variable {σ : Type}

/-- The fact survives whatever the radio does but transmitting. -/
structure Steady (radio : Radio σ) (I : σ → Prop) : Prop where
  millis : ∀ s, I s → I (radio.millis s).2
  delay : ∀ ms s, I s → I (radio.delay ms s)
  readRssi : ∀ s, I s → I (radio.readRssi s).2
  waitForPacket : ∀ ms s, I s → I (radio.waitForPacket ms s).2
  isPreambleDetected : ∀ s, I s → I (radio.isPreambleDetected s).2
  isSyncDetected : ∀ s, I s → I (radio.isSyncDetected s).2
  changeFrequency : ∀ freq s, I s → I (radio.changeFrequency freq s)
  generateChallenge : ∀ s, I s → I (radio.generateChallenge s).2

/-- What is true of a frame and the radio's state when the radio hands it over. -/
def Hears (radio : Radio σ) (I : σ → Prop) (heard : IoFrame → σ → Prop) : Prop :=
  ∀ ms s packet, I s → (radio.waitForPacket ms s).1 = some packet →
    ∀ frame, parse packet.data = some frame → heard frame (radio.waitForPacket ms s).2

/-- Handing the frame to the radio leads from the one fact to the other. -/
def Sends (radio : Radio σ) (frame : IoFrame) (I : σ → Prop) (post : Bool → σ → Prop) : Prop :=
  ∀ s buf freq preamble, I s → serialize frame = some buf →
    post (radio.sendPacket buf freq preamble s).1 (radio.sendPacket buf freq preamble s).2

variable {radio : Radio σ} {tuning : TuningConfig} {I : σ → Prop} {heard : IoFrame → σ → Prop}

private theorem listenBeforeTalk_triple (steady : Steady radio I) (retries : ℕ) :
    Triple I (listenBeforeTalk radio tuning retries) fun _ => I := by
  induction retries with
  | zero => exact Triple.pure fun _ h => h
  | succ retries ih =>
    refine Triple.bind (Triple.ask_keeps steady.readRssi) ?_
    intro rssi
    apply Triple.ite
    · intro _
      exact Triple.pure fun _ h => h
    · intro _
      refine Triple.bind (Triple.ask_keeps (steady.delay _)) ?_
      intro _
      exact ih

theorem transmitFrame_triple (steady : Steady radio I) {site : TxSite} {frame : IoFrame}
    {freq : UInt32} {preamble : UInt16} {post : Bool → σ → Prop}
    (sends : Sends radio frame I post) (refused : ∀ s, I s → post false s) :
    Triple I (transmitFrame radio tuning site frame freq preamble) post := by
  unfold transmitFrame
  cases hserialize : serialize frame with
  | none => exact Triple.pure refused
  | some buf =>
    refine Triple.bind (listenBeforeTalk_triple steady _) ?_
    intro _
    have hsent : Triple I (ask (radio.sendPacket buf freq preamble) : RadioProg σ Bool) post :=
      Triple.ask fun s h => sends s buf freq preamble h hserialize
    refine Triple.bind hsent ?_
    intro ok
    refine Triple.bind Triple.tell_keeps ?_
    intro _
    exact Triple.pure fun _ h => h

section

variable {κ : Type} {site : ListenSite} {onFrame : ReplyHandler κ}

/-- After a listen the fact still holds, and an accepted packet was one the handler accepts. -/
def ListenPost (onFrame : ReplyHandler κ) (I : σ → Prop) (heard : IoFrame → σ → Prop)
    (r : Listened κ) (s : σ) : Prop :=
  I s ∧ (r.outcome = .accepted →
    ∃ before parsed packet, onFrame before parsed packet = (r.captured, .accept) ∧
      ∀ f, parsed = some f → r.frame = f ∧ heard f s)

private theorem ListenPost.timedOut {frame : IoFrame} {captured : κ} {s : σ} (h : I s) :
    ListenPost onFrame I heard ⟨.timedOut, frame, captured⟩ s :=
  ⟨h, fun haccepted => by cases haccepted⟩

/-- An accepted frame was heard, if the handler accepts nothing that does not parse. -/
theorem ListenPost.heard_frame {r : Listened κ} {s : σ} (h : ListenPost onFrame I heard r s)
    (haccepted : r.outcome = .accepted)
    (hnone : ∀ before packet captured, onFrame before none packet ≠ (captured, .accept)) :
    heard r.frame s := by
  obtain ⟨before, parsed, packet, ends, output⟩ := h.2 haccepted
  cases parsed with
  | none => exact absurd ends (hnone _ _ _)
  | some frame =>
    obtain ⟨hframe, hheard⟩ := output frame rfl
    rw [hframe]
    exact hheard

private theorem parseInto_parsed {frame f : IoFrame} {buf : List UInt8}
    (h : (parseInto frame buf).1 = some f) :
    parse buf = some f ∧ (parseInto frame buf).2 = f := by
  unfold parseInto at h ⊢
  split at h
  · next parsed hparsed =>
    have heq := Option.some.inj h
    exact ⟨hparsed.trans (congrArg some heq), heq⟩
  · split at h <;> cases h

private theorem dispatchReceivedPacket_triple {packet : RadioRxPacket} {frame : IoFrame}
    {captured : κ} {ignored : IoFrame → κ → RadioProg σ (Listened κ)}
    (rest : ∀ frame captured, Triple I (ignored frame captured) (ListenPost onFrame I heard)) :
    Triple (fun s => I s ∧ ∀ f, parse packet.data = some f → heard f s)
      (dispatchReceivedPacket site onFrame packet frame captured ignored)
      (ListenPost onFrame I heard) := by
  unfold dispatchReceivedPacket
  refine Triple.bind Triple.tell_keeps ?_
  intro _
  set parsed := parseInto frame packet.data with hparsed
  cases hd : (onFrame captured parsed.1 packet).2 with
  | accept =>
    apply Triple.pure
    rintro s ⟨hI, hheard⟩
    refine ⟨hI, fun _ => ⟨captured, parsed.1, packet, Prod.ext rfl hd, fun f hf => ?_⟩⟩
    obtain ⟨hparse, hout⟩ := parseInto_parsed hf
    exact ⟨hout, hheard f hparse⟩
  | abort =>
    apply Triple.pure
    rintro s ⟨hI, -⟩
    exact ⟨hI, fun haccepted => by cases haccepted⟩
  | ignore => exact (rest _ _).forget

private theorem windowOpen_triple (steady : Steady radio I) (deadline : UInt32) :
    Triple I (windowOpen radio deadline) fun _ => I := by
  refine Triple.bind (Triple.ask_keeps steady.millis) ?_
  intro now
  exact Triple.pure fun _ h => h

private theorem preambleOrSyncIncoming_triple (steady : Steady radio I) (spec : ListenSpec) :
    Triple I (preambleOrSyncIncoming radio spec) fun _ => I := by
  apply Triple.ite
  · intro _
    exact Triple.pure fun _ h => h
  · intro _
    refine Triple.bind (Triple.ask_keeps steady.isPreambleDetected) ?_
    intro preamble
    apply Triple.ite
    · intro _
      exact Triple.pure fun _ h => h
    · intro _
      exact Triple.ask_keeps steady.isSyncDetected

private theorem hopFrequency_triple (steady : Steady radio I) (skip : UInt32) :
    Triple I (hopFrequency radio skip) fun _ => I :=
  Triple.ask fun _ h => steady.changeFrequency _ _ h

private theorem hopAfterIgnored_triple (steady : Steady radio I) (spec : ListenSpec)
    (deadline : UInt32) : Triple I (hopAfterIgnored radio spec deadline) fun _ => I := by
  apply Triple.ite
  · intro _
    exact Triple.pure fun _ h => h
  · intro _
    refine Triple.bind (windowOpen_triple steady deadline) ?_
    intro isOpen
    apply Triple.ite
    · intro _
      refine Triple.bind (preambleOrSyncIncoming_triple steady spec) ?_
      intro incoming
      apply Triple.ite
      · intro _
        exact Triple.pure fun _ h => h
      · intro _
        exact hopFrequency_triple steady _
    · intro _
      exact Triple.pure fun _ h => h

private theorem waitForPacket_triple (steady : Steady radio I) (hears : Hears radio I heard)
    (ms : UInt32) :
    Triple I (ask (radio.waitForPacket ms) : RadioProg σ (Option RadioRxPacket)) fun r s =>
      I s ∧ ∀ packet, r = some packet → ∀ f, parse packet.data = some f → heard f s :=
  Triple.ask fun s h => ⟨steady.waitForPacket ms s h, fun packet hr => hears ms s packet h hr⟩

private theorem listenLoop_triple (steady : Steady radio I) (hears : Hears radio I heard)
    (spec : ListenSpec) (deadline : UInt32) (waits : ℕ) (frame : IoFrame) (captured : κ) :
    Triple I (listenLoop radio site spec onFrame deadline waits frame captured)
      (ListenPost onFrame I heard) := by
  have htimeout : ∀ (frame : IoFrame) (captured : κ),
      Triple I (pure ⟨.timedOut, frame, captured⟩ : RadioProg σ (Listened κ))
        (ListenPost onFrame I heard) :=
    fun frame captured => Triple.pure fun _ h => ListenPost.timedOut h
  induction waits generalizing frame captured with
  | zero => exact htimeout frame captured
  | succ waits ih =>
    refine Triple.bind (windowOpen_triple steady deadline) ?_
    intro isOpen
    apply Triple.ite
    · intro _
      exact htimeout frame captured
    · intro _
      refine Triple.bind (Triple.ask_keeps steady.millis) ?_
      intro now
      refine Triple.bind (waitForPacket_triple steady hears _) ?_
      intro received
      cases received with
      | some packet =>
        refine (dispatchReceivedPacket_triple fun frame captured => ?_).weaken
          (fun s h => ⟨h.1, h.2 packet rfl⟩) fun _ _ h => h
        refine Triple.bind (hopAfterIgnored_triple steady spec deadline) ?_
        intro _
        exact ih frame captured
      | none =>
        refine Triple.forget ?_
        refine Triple.bind (windowOpen_triple steady deadline) ?_
        intro isOpen
        apply Triple.ite
        · intro _
          exact htimeout frame captured
        · intro _
          apply Triple.ite
          · intro _
            exact ih frame captured
          · intro _
            refine Triple.bind (preambleOrSyncIncoming_triple steady spec) ?_
            intro incoming
            apply Triple.ite
            · intro _
              refine Triple.bind (hopFrequency_triple steady _) ?_
              intro _
              exact ih frame captured
            · intro _
              refine Triple.bind (Triple.ask_keeps steady.millis) ?_
              intro now
              refine Triple.bind (waitForPacket_triple steady hears _) ?_
              intro received
              cases received with
              | some packet =>
                exact (dispatchReceivedPacket_triple ih).weaken
                  (fun s h => ⟨h.1, h.2 packet rfl⟩) fun _ _ h => h
              | none => exact (ih frame captured).forget

theorem listen_triple (steady : Steady radio I) (hears : Hears radio I heard)
    (spec : ListenSpec) (frame : IoFrame) (captured : κ) :
    Triple I (listen radio site spec onFrame frame captured) (ListenPost onFrame I heard) := by
  refine Triple.bind (Triple.ask_keeps steady.millis) ?_
  intro now
  apply Triple.ite
  · intro _
    refine Triple.bind (hopFrequency_triple steady _) ?_
    intro _
    exact listenLoop_triple steady hears spec _ _ frame captured
  · intro _
    exact listenLoop_triple steady hears spec _ _ frame captured

end

section

variable {engine : ExchangeEngine σ} {request : IoFrame}

private theorem waitForFirstResponse_triple (steady : Steady engine.radio I)
    (hears : Hears engine.radio I heard) (waitMs : UInt32) (rx : IoFrame) :
    Triple I (waitForFirstResponse engine request waitMs rx) fun r s =>
      I s ∧ (r.1 = .completeDirect → heard r.2 s) := by
  refine Triple.bind (listen_triple steady hears _ rx _) ?_
  intro listened
  apply Triple.ite
  · intro haccepted
    apply Triple.pure
    intro s h
    exact ⟨h.1, fun _ => h.heard_frame haccepted fun _ _ _ hnone => by cases hnone⟩
  · intro _
    apply Triple.pure
    rintro s ⟨hI, -⟩
    exact ⟨hI, fun h => by cases h⟩

private theorem waitForFinalResponse_triple (steady : Steady engine.radio I)
    (hears : Hears engine.radio I heard) (rx : IoFrame) :
    Triple I (waitForFinalResponse engine request rx) fun r s =>
      I s ∧ (r.1 = .accept → heard r.2 s) := by
  refine Triple.bind (listen_triple steady hears _ rx _) ?_
  intro listened
  apply Triple.ite
  · intro haccepted
    apply Triple.pure
    intro s h
    exact ⟨h.1, fun _ => h.heard_frame haccepted fun _ _ _ hnone => by cases hnone⟩
  · intro _
    apply Triple.pure
    rintro s ⟨hI, -⟩
    exact ⟨hI, fun h => by cases h⟩

/-- Every frame of an exchange keeps the fact: the request and the answers to challenges. -/
structure ExchangeKeeps (engine : ExchangeEngine σ) (request : IoFrame) (I : σ → Prop) : Prop where
  steady : Steady engine.radio I
  request : Sends engine.radio request I fun _ => I
  auth : ∀ auth, auth.cmd = cmdChallengeResp → auth.src = engine.nodeId →
    Sends engine.radio auth I fun _ => I

private theorem handleAuthentication_triple (keeps : ExchangeKeeps engine request I)
    (freq : UInt32) (rx : IoFrame) :
    Triple I (handleAuthentication engine request freq rx) fun _ => I := by
  unfold handleAuthentication
  cases hauth : createChallengeResp request.dst engine.nodeId (payloadPrefix rx 6) request
      engine.systemKey with
  | none => exact Triple.pure fun _ h => h
  | some auth =>
    obtain ⟨-, hsrc, hcmd, -⟩ := buildFrame_fields hauth
    exact transmitFrame_triple keeps.steady (keeps.auth auth hcmd hsrc) fun _ h => h

private theorem exchangeTry_triple (keeps : ExchangeKeeps engine request I)
    (hears : Hears engine.radio I heard) (freq : UInt32) :
    Triple I (exchangeTry engine request freq) fun r s =>
      I s ∧ ∀ rx, r = .answered rx → heard rx s := by
  have hunanswered : ∀ r : TryResult, (∀ rx, r ≠ .answered rx) →
      Triple I (pure r : RadioProg σ TryResult) fun r s => I s ∧ ∀ rx, r = .answered rx → heard rx s :=
    fun r hr => Triple.pure fun _ h => ⟨h, fun rx hrx => absurd hrx (hr rx)⟩
  refine Triple.bind (transmitFrame_triple keeps.steady keeps.request fun _ h => h) ?_
  intro sent
  apply Triple.ite
  · intro _
    exact hunanswered _ fun _ h => by cases h
  · intro _
    refine Triple.bind (waitForFirstResponse_triple keeps.steady hears _ _) ?_
    rintro ⟨disp, rx⟩
    cases disp with
    | ignoreUnrelated =>
      exact (hunanswered _ fun _ h => by cases h).forget
    | completeDirect =>
      apply Triple.pure
      rintro s ⟨hI, hheard⟩
      refine ⟨hI, fun rx' hrx => ?_⟩
      rw [← TryResult.answered.inj hrx]
      exact hheard rfl
    | requireAuth =>
      refine Triple.forget ?_
      refine Triple.bind (handleAuthentication_triple keeps freq rx) ?_
      intro authenticated
      apply Triple.ite
      · intro _
        exact hunanswered _ fun _ h => by cases h
      · intro _
        refine Triple.bind (waitForFinalResponse_triple keeps.steady hears rx) ?_
        rintro ⟨final, rx'⟩
        apply Triple.ite
        · intro hfinal
          apply Triple.pure
          rintro s ⟨hI, hheard⟩
          refine ⟨hI, fun rx'' hrx => ?_⟩
          rw [← TryResult.answered.inj hrx]
          exact hheard hfinal
        · intro _
          exact (hunanswered _ fun _ h => by cases h).forget

private theorem mayStartTry_triple (steady : Steady engine.radio I) (exchangeBeginMs : UInt32)
    (tries : ℕ) : Triple I (mayStartTry engine exchangeBeginMs tries) fun _ => I := by
  apply Triple.ite
  · intro _
    exact Triple.pure fun _ h => h
  · intro _
    refine Triple.bind (Triple.ask_keeps steady.millis) ?_
    intro now
    apply Triple.ite
    · intro _
      exact Triple.pure fun _ h => h
    · intro _
      refine Triple.bind (Triple.ask_keeps (steady.delay _)) ?_
      intro _
      exact Triple.pure fun _ h => h

private theorem retryLoop_triple (keeps : ExchangeKeeps engine request I)
    (hears : Hears engine.radio I heard) (freq exchangeBeginMs : UInt32) (response : IoFrame)
    (remaining tries : ℕ) (acceptedWithoutReply : Bool) :
    Triple I
      (retryLoop engine request freq exchangeBeginMs response remaining tries acceptedWithoutReply)
      fun r s => I s ∧ (r.1 = .successWithResponse → heard r.2 s) := by
  have hunanswered : ∀ accepted : Bool,
      Triple I (pure (unansweredOutcome accepted, response) : RadioProg σ (ExchangeOutcome × IoFrame))
        fun r s => I s ∧ (r.1 = .successWithResponse → heard r.2 s) := by
    intro accepted
    apply Triple.pure
    intro s h
    refine ⟨h, fun hsuccess => ?_⟩
    cases accepted <;> simp [unansweredOutcome] at hsuccess
  induction remaining generalizing tries acceptedWithoutReply with
  | zero => exact hunanswered acceptedWithoutReply
  | succ remaining ih =>
    refine Triple.bind (mayStartTry_triple keeps.steady exchangeBeginMs tries) ?_
    intro started
    apply Triple.ite
    · intro _
      exact hunanswered acceptedWithoutReply
    · intro _
      refine Triple.bind (exchangeTry_triple keeps hears freq) ?_
      intro result
      cases result with
      | notAnswered =>
        exact (ih (tries + 1) acceptedWithoutReply).forget
      | answered rx => exact Triple.pure fun s h => ⟨h.1, fun _ => h.2 rx rfl⟩
      | unconfirmed =>
        apply Triple.ite
        · intro _
          exact (ih (tries + 1) true).forget
        · intro _
          exact Triple.pure fun s h => ⟨h.1, fun hsuccess => by cases hsuccess⟩

/-- An exchange keeps the fact, and its answer says what the radio handed over. -/
theorem sendAndReceive_triple (keeps : ExchangeKeeps engine request I)
    (hears : Hears engine.radio I heard) (response : IoFrame) (freq : UInt32)
    (maxTries : UInt8) :
    Triple I (sendAndReceive engine request response freq maxTries) fun r s =>
      I s ∧ (r.1 = .successWithResponse → heard r.2 s) := by
  refine Triple.bind (Triple.ask_keeps keeps.steady.millis) ?_
  intro exchangeBeginMs
  exact retryLoop_triple keeps hears freq exchangeBeginMs response _ 0 false

end

end HomeIoControl.RadioInvariants
