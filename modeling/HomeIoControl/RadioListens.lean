import HomeIoControl.RadioLinks

/-!
# Listening with a handler that asks the radio

The listen loop for a handler that is itself a program: it may consult the radio about the
packet and write what it makes of it. With a handler that does neither this is the loop of the
other waits. A relation between what a handler starts from, writes and leaves, which composes,
holds of the whole listen.
-/

namespace HomeIoControl.RadioListens

open TracedPrograms ProtocolFrames RadioLinks

variable {σ κ : Type} {ε α β : Type}

/-- The program for what it does to the environment. -/
def quietly (p : RadioProg σ α) : Prog σ ε α := ask fun s =>
  ((p ⟨s, []⟩).1, (p ⟨s, []⟩).2.env)

theorem quietly_traces (p : RadioProg σ α) :
    Traces (quietly p : Prog σ ε α) fun _ es => es = [] :=
  Traces.ask fun _ => rfl

/-- A program whose effect on the environment is all it does. -/
def Quiet (p : RadioProg σ α) : Prop := quietly p = p

namespace Quiet

theorem pure (a : α) : Quiet (pure a : RadioProg σ α) := rfl

theorem ask (f : σ → α × σ) : Quiet (TracedPrograms.ask f) := rfl

theorem bind {p : RadioProg σ α} {f : α → RadioProg σ β} (hp : Quiet p)
    (hf : ∀ a, Quiet (f a)) : Quiet (p >>= f) := by
  funext w
  have hp' (w : World σ RadioEvent) : p w = ((p ⟨w.env, []⟩).1, ⟨(p ⟨w.env, []⟩).2.env, w.log⟩) :=
    (congrFun hp w).symm
  have hf' (a : α) (w : World σ RadioEvent) :
      f a w = ((f a ⟨w.env, []⟩).1, ⟨(f a ⟨w.env, []⟩).2.env, w.log⟩) := (congrFun (hf a) w).symm
  have hrun (w : World σ RadioEvent) : (p >>= f) w =
      ((f (p ⟨w.env, []⟩).1 ⟨(p ⟨w.env, []⟩).2.env, []⟩).1,
        ⟨(f (p ⟨w.env, []⟩).1 ⟨(p ⟨w.env, []⟩).2.env, []⟩).2.env, w.log⟩) := by
    rw [bind_apply, hp' w]
    exact hf' _ _
  rw [hrun w, quietly, TracedPrograms.ask, hrun ⟨w.env, []⟩]

theorem ite {c : Prop} [Decidable c] {p q : RadioProg σ α} (hp : Quiet p) (hq : Quiet q) :
    Quiet (if c then p else q) := by
  split
  · exact hp
  · exact hq

variable (radio : Radio σ) (spec : ListenSpec) (deadline : UInt32)

theorem windowOpen : Quiet (RadioLinks.windowOpen radio deadline) :=
  (Quiet.ask _).bind fun _ => Quiet.pure _

theorem hopFrequency (skip : UInt32) : Quiet (RadioLinks.hopFrequency radio skip) := Quiet.ask _

theorem preambleOrSyncIncoming : Quiet (RadioLinks.preambleOrSyncIncoming radio spec) :=
  Quiet.ite (Quiet.pure _)
    ((Quiet.ask _).bind fun _ => Quiet.ite (Quiet.pure _) (Quiet.ask _))

theorem hopAfterIgnored : Quiet (RadioLinks.hopAfterIgnored radio spec deadline) :=
  Quiet.ite (Quiet.pure _) ((windowOpen radio deadline).bind fun _ =>
    Quiet.ite ((preambleOrSyncIncoming radio spec).bind fun _ =>
      Quiet.ite (Quiet.pure _) (hopFrequency radio _)) (Quiet.pure _))

end Quiet

/-- A wait's handler: a program, given its captured variables, the frame if the packet parsed,
and the packet. -/
abbrev AskingHandler (σ ε κ : Type) :=
  κ → Option IoFrame → RadioRxPacket → Prog σ ε (κ × ReplyDisposition)

variable (radio : Radio σ) (spec : ListenSpec) (onFrame : AskingHandler σ ε κ)

/-- `dispatch_received_packet`. -/
def dispatchAsking (packet : RadioRxPacket) (frame : IoFrame) (captured : κ)
    (ignored : IoFrame → κ → Prog σ ε (Listened κ)) : Prog σ ε (Listened κ) := do
  let handled ← onFrame captured (parseInto frame packet.data).1 packet
  match handled.2 with
  | .accept => pure ⟨.accepted, (parseInto frame packet.data).2, handled.1⟩
  | .abort => pure ⟨.aborted, (parseInto frame packet.data).2, handled.1⟩
  | .ignore => ignored (parseInto frame packet.data).2 handled.1

/-- The loop of `listen`, with the waits it may still make. -/
def listenLoopAsking (deadline : UInt32) : ℕ → IoFrame → κ → Prog σ ε (Listened κ)
  | 0, frame, captured => pure ⟨.timedOut, frame, captured⟩
  | waits + 1, frame, captured => do
    let isOpen ← quietly (windowOpen radio deadline)
    if isOpen = false then
      pure ⟨.timedOut, frame, captured⟩
    else do
      let now ← ask radio.millis
      let remaining := deadline - now
      let slice := if spec.rotating then min remaining (resolveDwellMs radio spec) else remaining
      let received ← ask (radio.waitForPacket slice)
      match received with
      | some packet =>
        dispatchAsking onFrame packet frame captured fun frame captured => do
          quietly (hopAfterIgnored radio spec deadline)
          listenLoopAsking deadline waits frame captured
      | none => do
        let isOpen ← quietly (windowOpen radio deadline)
        if isOpen = false then
          pure ⟨.timedOut, frame, captured⟩
        else if spec.rotating = false then
          listenLoopAsking deadline waits frame captured
        else do
          let incoming ← quietly (preambleOrSyncIncoming radio spec)
          if incoming = false then do
            quietly (hopFrequency radio spec.skip)
            listenLoopAsking deadline waits frame captured
          else do
            let now ← ask radio.millis
            let received ← ask (radio.waitForPacket (min (deadline - now) spec.lingerDwellMs))
            match received with
            | some packet =>
              dispatchAsking onFrame packet frame captured (listenLoopAsking deadline waits)
            | none => listenLoopAsking deadline waits frame captured

/-- `listen`. -/
def listenAsking (frame : IoFrame) (captured : κ) : Prog σ ε (Listened κ) := do
  let now ← ask radio.millis
  let deadline := now + spec.windowMs
  if spec.policy = .rotateSkippingRequest then do
    quietly (hopFrequency radio spec.skip)
    listenLoopAsking radio spec onFrame deadline (radio.maxWaits spec.windowMs) frame captured
  else
    listenLoopAsking radio spec onFrame deadline (radio.maxWaits spec.windowMs) frame captured

/-- A handler that writes only what it was given. -/
def plainHandler (site : ListenSite) (onFrame : ReplyHandler κ) :
    AskingHandler σ RadioEvent κ := fun captured parsed packet => do
  tell (.heard site parsed (onFrame captured parsed packet).2)
  pure (onFrame captured parsed packet)

theorem dispatchAsking_plain (site : ListenSite) (onFrame : ReplyHandler κ)
    (packet : RadioRxPacket) (frame : IoFrame) (captured : κ)
    (ignored : IoFrame → κ → RadioProg σ (Listened κ)) :
    dispatchAsking (plainHandler site onFrame) packet frame captured ignored =
      dispatchReceivedPacket site onFrame packet frame captured ignored := rfl

theorem listenLoopAsking_plain (site : ListenSite) (onFrame : ReplyHandler κ)
    (deadline : UInt32) (waits : ℕ) (frame : IoFrame) (captured : κ) :
    listenLoopAsking radio spec (plainHandler site onFrame) deadline waits frame captured =
      listenLoop radio site spec onFrame deadline waits frame captured := by
  induction waits generalizing frame captured with
  | zero => rfl
  | succ waits ih =>
    have hrest : listenLoopAsking radio spec (plainHandler site onFrame) deadline waits =
        listenLoop radio site spec onFrame deadline waits :=
      funext fun frame => funext fun captured => ih frame captured
    have hopen : quietly (windowOpen radio deadline) = windowOpen radio deadline :=
      Quiet.windowOpen radio deadline
    have hignored : quietly (hopAfterIgnored radio spec deadline) =
        hopAfterIgnored radio spec deadline := Quiet.hopAfterIgnored radio spec deadline
    have hincoming : quietly (preambleOrSyncIncoming radio spec) =
        preambleOrSyncIncoming radio spec := Quiet.preambleOrSyncIncoming radio spec
    have hhop : quietly (hopFrequency radio spec.skip) = hopFrequency radio spec.skip :=
      Quiet.hopFrequency radio spec.skip
    rw [listenLoopAsking, listenLoop, hrest, hopen, hignored, hincoming, hhop]
    rfl

theorem listenAsking_plain (site : ListenSite) (onFrame : ReplyHandler κ) (frame : IoFrame)
    (captured : κ) :
    listenAsking radio spec (plainHandler site onFrame) frame captured =
      listen radio site spec onFrame frame captured := by
  have hhop : quietly (hopFrequency radio spec.skip) = hopFrequency radio spec.skip :=
    Quiet.hopFrequency radio spec.skip
  unfold listenAsking RadioLinks.listen
  simp only [listenLoopAsking_plain, hhop]

section

variable {radio spec onFrame} {rel : κ → List ε → κ → Prop}

theorem dispatchAsking_traces (trans : ∀ a es b fs c, rel a es b → rel b fs c →
      rel a (es ++ fs) c)
    (handles : ∀ captured parsed packet,
      Traces (onFrame captured parsed packet) fun handled es => rel captured es handled.1)
    {packet : RadioRxPacket} {frame : IoFrame} {captured : κ}
    {ignored : IoFrame → κ → Prog σ ε (Listened κ)} (refl : ∀ a, rel a [] a)
    (rest : ∀ frame captured,
      Traces (ignored frame captured) fun r es => rel captured es r.captured) :
    Traces (dispatchAsking onFrame packet frame captured ignored)
      fun r es => rel captured es r.captured := by
  apply Traces.bind (handles _ _ _)
  rintro ⟨captured', disposition⟩ es hes
  cases disposition with
  | accept => exact Traces.pure (trans _ _ _ _ _ hes (refl _))
  | abort => exact Traces.pure (trans _ _ _ _ _ hes (refl _))
  | ignore => exact (rest _ _).weaken fun r fs hfs => trans _ _ _ _ _ hes hfs

theorem listenAsking_traces (refl : ∀ a, rel a [] a)
    (trans : ∀ a es b fs c, rel a es b → rel b fs c → rel a (es ++ fs) c)
    (handles : ∀ captured parsed packet,
      Traces (onFrame captured parsed packet) fun handled es => rel captured es handled.1)
    (frame : IoFrame) (captured : κ) :
    Traces (listenAsking radio spec onFrame frame captured)
      fun r es => rel captured es r.captured := by
  have hloop (deadline : UInt32) (waits : ℕ) (frame : IoFrame) (captured : κ) :
      Traces (listenLoopAsking radio spec onFrame deadline waits frame captured)
        fun r es => rel captured es r.captured := by
    induction waits generalizing frame captured with
    | zero => exact Traces.pure (refl _)
    | succ waits ih =>
      apply Traces.silent_bind (quietly_traces _)
      intro isOpen
      apply Traces.ite
      · intro _
        exact Traces.pure (refl _)
      · intro _
        apply Traces.ask_bind
        intro now
        apply Traces.ask_bind
        intro received
        cases received with
        | some packet =>
          exact dispatchAsking_traces trans handles refl fun frame captured =>
            Traces.silent_bind (quietly_traces _) fun _ => ih frame captured
        | none =>
          apply Traces.silent_bind (quietly_traces _)
          intro isOpen
          apply Traces.ite
          · intro _
            exact Traces.pure (refl _)
          · intro _
            apply Traces.ite
            · intro _
              exact ih frame captured
            · intro _
              apply Traces.silent_bind (quietly_traces _)
              intro incoming
              apply Traces.ite
              · intro _
                exact Traces.silent_bind (quietly_traces _) fun _ => ih frame captured
              · intro _
                apply Traces.ask_bind
                intro now
                apply Traces.ask_bind
                intro received
                cases received with
                | some packet => exact dispatchAsking_traces trans handles refl ih
                | none => exact ih frame captured
  apply Traces.ask_bind
  intro now
  apply Traces.ite
  · intro _
    exact Traces.silent_bind (quietly_traces _) fun _ => hloop _ _ frame captured
  · intro _
    exact hloop _ _ frame captured

end

end HomeIoControl.RadioListens
