import HomeIoControl.TracedPrograms
import HomeIoControl.ProtocolCommands

/-!
# The radio, transmitting and listening

The driver is an environment that answers as it likes: it may lose a transmission, deliver any
packet or none, and read any time. Every wait of the engines runs through one listen loop.
-/

namespace HomeIoControl.RadioLinks

open TracedPrograms ProtocolFrames ProtocolCrypto

def longPreamble : UInt16 := 1024
def shortPreamble : UInt16 := 8
def lbtRetryDelayMs : UInt32 := 5
def radioPacketBufferSize : ℕ := 64

/-- The tunable parameters that transmitting, listening and pairing read. -/
structure TuningConfig where
  coldBroadcastReplyPreamble : UInt16 := 80
  normalStartPreamble : UInt16 := 32
  lbtMaxRetries : UInt8 := 5
  lbtRssiThresholdDbm : Int16 := -90
  exchangeStartResponseWaitMs : UInt16 := 400
  exchangeResponseWaitMs : UInt16 := 500
  exchangeTotalBudgetMs : UInt16 := 2500
  pairingDiscoveryCommands : List UInt8 := [cmdDiscoverReq]
  pairingDiscoveryDestination : NodeId := ⟨0, 0, 0⟩
  pairingDiscoveryDestinationAuto : Bool := true
  pairingDiscoveryPayload : UInt8 := 0
  pairingDiscoveryPayloadEnabled : Bool := false
  pairingDiscoveryLowPower : Bool := false
  pairingDiscoveryWaitMs : UInt16 := 2000
  pairingDiscoveryInitialDwellMs : UInt16 := 300
  pairingKeyExchangeRetries : UInt8 := 3

structure RadioRxPacket where
  freqHz : UInt32
  data : List UInt8
  len_le : data.length ≤ radioPacketBufferSize
  deriving DecidableEq

/-- A radio driver with its clock and random source, over its own state. `lastRssi` is the
strength in the last valid capture. `maxWaits` bounds the waits that a listen window has room
for. -/
structure Radio (σ : Type) where
  millis : σ → UInt32 × σ
  delay : UInt32 → σ → σ
  readRssi : σ → Int16 × σ
  sendPacket : List UInt8 → UInt32 → UInt16 → σ → Bool × σ
  waitForPacket : UInt32 → σ → Option RadioRxPacket × σ
  isPreambleDetected : σ → Bool × σ
  isSyncDetected : σ → Bool × σ
  currentFreq : σ → UInt32
  changeFrequency : UInt32 → σ → σ
  generateChallenge : σ → Challenge × σ
  lastRssi : σ → Option Int16 := fun _ => none
  responsePreamble : UInt16
  hopDwellMs : UInt32
  hasFastTxRxTurnaround : Bool
  maxWaits : UInt32 → ℕ

/-- Which step of the program transmits. -/
inductive TxSite where
  | exchangeRequest
  | exchangeAuth
  | inboundChallenge
  | pairing
  | statusAck
  | keyExtraction
  | rollCall
  deriving DecidableEq, Repr

/-- Which wait of the program listens. -/
inductive ListenSite where
  | firstResponse
  | finalResponse
  | discovery
  | keyChallenge
  | keyConfirm
  deriving DecidableEq, Repr

inductive ReplyDisposition where
  | accept
  | ignore
  | abort
  deriving DecidableEq, Repr

inductive ListenOutcome where
  | accepted
  | aborted
  | timedOut
  deriving DecidableEq, Repr

/-- A transmission with the driver's verdict, or a packet handed to a wait's handler with what
the handler made of it. -/
inductive RadioEvent where
  | sent (site : TxSite) (frame : IoFrame) (freq : UInt32) (preamble : UInt16) (ok : Bool)
  | heard (site : ListenSite) (frame : Option IoFrame) (disposition : ReplyDisposition)
  deriving DecidableEq

abbrev RadioProg (σ α : Type) := Prog σ RadioEvent α

variable {σ : Type} (radio : Radio σ) (tuning : TuningConfig)

/-- The listen-before-talk loop of `transmit_frame`. -/
def listenBeforeTalk : ℕ → RadioProg σ PUnit
  | 0 => pure ⟨⟩
  | retries + 1 => do
    let rssi ← ask radio.readRssi
    if rssi < tuning.lbtRssiThresholdDbm then
      pure ⟨⟩
    else do
      ask fun s => (PUnit.unit, radio.delay lbtRetryDelayMs s)
      listenBeforeTalk retries

/-- `transmit_frame`: whether the driver accepted the frame. -/
def transmitFrame (site : TxSite) (frame : IoFrame) (freq : UInt32) (preamble : UInt16) :
    RadioProg σ Bool :=
  match serialize frame with
  | none => pure false
  | some buf => do
    listenBeforeTalk radio tuning tuning.lbtMaxRetries.toNat
    let ok ← ask (radio.sendPacket buf freq preamble)
    tell (.sent site frame freq preamble ok)
    pure ok

inductive ListenPolicy where
  | holdRequestChannel
  | rotateAllChannels
  | rotateSkippingRequest
  deriving DecidableEq, Repr

structure ListenSpec where
  windowMs : UInt32 := 0
  policy : ListenPolicy := .holdRequestChannel
  requestFreq : UInt32 := 0
  dwellMs : UInt32 := 0
  hopAfterIgnoredFrame : Bool := true
  lingerOnPreamble : Bool := false
  lingerDwellMs : UInt32 := 0

namespace ListenSpec

def rotating (spec : ListenSpec) : Bool := spec.policy ≠ .holdRequestChannel

def skip (spec : ListenSpec) : UInt32 :=
  if spec.policy = .rotateSkippingRequest then spec.requestFreq else 0

end ListenSpec

/-- `resolve_dwell_ms`. -/
def resolveDwellMs (spec : ListenSpec) : UInt32 :=
  if spec.rotating = false then 0
  else if spec.dwellMs ≠ 0 then spec.dwellMs else radio.hopDwellMs

/-- The channel rotation. -/
def nextChannel (freq : UInt32) : UInt32 :=
  if freq = freqCh1 then freqCh2 else if freq = freqCh3 then freqCh1 else freqCh3

/-- `hop_frequency`: the skipped channel is one step of the rotation, so two steps pass it. -/
def hopTarget (freq skipFreq : UInt32) : UInt32 :=
  if nextChannel freq = skipFreq then nextChannel (nextChannel freq) else nextChannel freq

def hopFrequency (skipFreq : UInt32) : RadioProg σ PUnit :=
  ask fun s => (PUnit.unit, radio.changeFrequency (hopTarget (radio.currentFreq s) skipFreq) s)

/-- The window is still open: `(int32_t) (deadline - millis()) > 0`. -/
def windowOpen (deadline : UInt32) : RadioProg σ Bool := do
  let now ← ask radio.millis
  pure (0 < (deadline - now).toInt32)

def preambleOrSyncIncoming (spec : ListenSpec) : RadioProg σ Bool :=
  if spec.lingerOnPreamble = false then pure false
  else do
    let preamble ← ask radio.isPreambleDetected
    if preamble then pure true else ask radio.isSyncDetected

/-- The effect of `parse` on its output frame: a buffer long enough for a header overwrites it
even when the rest is refused. -/
def parseInto (frame : IoFrame) (buf : List UInt8) : Option IoFrame × IoFrame :=
  match parse buf with
  | some parsed => (some parsed, parsed)
  | none =>
    if buf.length < frameMinSize then (none, frame)
    else (none, { initFrame true false false false with
      ctrl0 := buf.getD 0 0
      ctrl1 := buf.getD 1 0 })

/-- A wait's handler: its captured variables, the frame if the packet parsed, and the packet. -/
abbrev ReplyHandler (κ : Type) := κ → Option IoFrame → RadioRxPacket → κ × ReplyDisposition

section

variable {κ : Type} (site : ListenSite) (spec : ListenSpec) (onFrame : ReplyHandler κ)

/-- What a listen leaves behind: how it ended, the output frame and the captured variables. -/
structure Listened (κ : Type) where
  outcome : ListenOutcome
  frame : IoFrame
  captured : κ

/-- `dispatch_received_packet`: the listen ends unless the handler ignores the packet. -/
def dispatchReceivedPacket (packet : RadioRxPacket) (frame : IoFrame) (captured : κ)
    (ignored : IoFrame → κ → RadioProg σ (Listened κ)) : RadioProg σ (Listened κ) :=
  let parsed := parseInto frame packet.data
  let handled := onFrame captured parsed.1 packet
  do
    tell (.heard site parsed.1 handled.2)
    match handled.2 with
    | .accept => pure ⟨.accepted, parsed.2, handled.1⟩
    | .abort => pure ⟨.aborted, parsed.2, handled.1⟩
    | .ignore => ignored parsed.2 handled.1

/-- Hop after an ignored frame unless the window is over or a frame is arriving. -/
def hopAfterIgnored (deadline : UInt32) : RadioProg σ PUnit :=
  if (spec.rotating && spec.hopAfterIgnoredFrame) = false then pure ⟨⟩
  else do
    let isOpen ← windowOpen radio deadline
    if isOpen then do
      let incoming ← preambleOrSyncIncoming radio spec
      if incoming then pure ⟨⟩ else hopFrequency radio spec.skip
    else pure ⟨⟩

/-- The loop of `listen`, with the waits it may still make. -/
def listenLoop (deadline : UInt32) : ℕ → IoFrame → κ → RadioProg σ (Listened κ)
  | 0, frame, captured => pure ⟨.timedOut, frame, captured⟩
  | waits + 1, frame, captured => do
    let isOpen ← windowOpen radio deadline
    if isOpen = false then
      pure ⟨.timedOut, frame, captured⟩
    else do
      let now ← ask radio.millis
      let remaining := deadline - now
      let slice := if spec.rotating then min remaining (resolveDwellMs radio spec) else remaining
      let received ← ask (radio.waitForPacket slice)
      match received with
      | some packet =>
        dispatchReceivedPacket site onFrame packet frame captured fun frame captured => do
          hopAfterIgnored radio spec deadline
          listenLoop deadline waits frame captured
      | none => do
        let isOpen ← windowOpen radio deadline
        if isOpen = false then
          pure ⟨.timedOut, frame, captured⟩
        else if spec.rotating = false then
          listenLoop deadline waits frame captured
        else do
          let incoming ← preambleOrSyncIncoming radio spec
          if incoming = false then do
            hopFrequency radio spec.skip
            listenLoop deadline waits frame captured
          else do
            -- a frame is arriving at the end of the dwell: wait for it instead of hopping
            let now ← ask radio.millis
            let received ← ask (radio.waitForPacket (min (deadline - now) spec.lingerDwellMs))
            match received with
            | some packet =>
              dispatchReceivedPacket site onFrame packet frame captured
                (listenLoop deadline waits)
            | none => listenLoop deadline waits frame captured

/-- `listen`. -/
def listen (frame : IoFrame) (captured : κ) : RadioProg σ (Listened κ) := do
  let now ← ask radio.millis
  let deadline := now + spec.windowMs
  if spec.policy = .rotateSkippingRequest then do
    hopFrequency radio spec.skip
    listenLoop radio site spec onFrame deadline (radio.maxWaits spec.windowMs) frame captured
  else
    listenLoop radio site spec onFrame deadline (radio.maxWaits spec.windowMs) frame captured

end

section

variable {radio tuning}

private theorem listenBeforeTalk_traces (retries : ℕ) :
    Traces (listenBeforeTalk radio tuning retries) fun _ es => es = [] := by
  induction retries with
  | zero => exact Traces.pure rfl
  | succ retries ih =>
    apply Traces.ask_bind
    intro rssi
    apply Traces.ite
    · intro _
      exact Traces.pure rfl
    · intro _
      apply Traces.ask_bind
      intro _
      exact ih

/-- A frame that serializes is handed to the radio, whose verdict is written. -/
theorem transmitFrame_sends (site : TxSite) {frame : IoFrame} {buf : List UInt8}
    (freq : UInt32) (preamble : UInt16) (hbuf : serialize frame = some buf) :
    Traces (transmitFrame radio tuning site frame freq preamble) fun ok es =>
      es = [.sent site frame freq preamble ok] := by
  unfold transmitFrame
  rw [hbuf]
  apply Traces.silent_bind (listenBeforeTalk_traces _)
  intro _
  apply Traces.ask_bind
  intro ok
  apply Traces.tell_bind
  exact Traces.pure rfl

/-- A transmission is written with its verdict; a frame that does not serialize is not sent. -/
theorem transmitFrame_traces (site : TxSite) (frame : IoFrame) (freq : UInt32)
    (preamble : UInt16) :
    Traces (transmitFrame radio tuning site frame freq preamble) fun ok es =>
      es = [] ∧ ok = false ∨ es = [.sent site frame freq preamble ok] := by
  cases hbuf : serialize frame with
  | none =>
    unfold transmitFrame
    rw [hbuf]
    exact Traces.pure (.inl ⟨rfl, rfl⟩)
  | some buf => exact (transmitFrame_sends site freq preamble hbuf).weaken fun _ _ => .inr

section

variable {κ : Type} (site : ListenSite) (onFrame : ReplyHandler κ)

/-- Some packet with this content gets this disposition. -/
def Handles (parsed : Option IoFrame) (disposition : ReplyDisposition) : Prop :=
  ∃ captured packet, (onFrame captured parsed packet).2 = disposition

/-- The ignored packets of a listen, as it writes them. -/
def ignoredEvents (ignored : List (Option IoFrame)) : List RadioEvent :=
  ignored.map fun parsed => .heard site parsed .ignore

/-- What a listen writes: the packets it ignored, then the one that ended it. The output frame
is then that packet's, and the captured variables are as its handling left them. -/
inductive ListenTrace : Listened κ → List RadioEvent → Prop where
  | timedOut {frame : IoFrame} {captured : κ} {ignored : List (Option IoFrame)}
      (ignores : ∀ parsed ∈ ignored, Handles onFrame parsed .ignore) :
      ListenTrace ⟨.timedOut, frame, captured⟩ (ignoredEvents site ignored)
  | accepted {frame : IoFrame} {before captured : κ} {ignored : List (Option IoFrame)}
      {parsed : Option IoFrame} {packet : RadioRxPacket}
      (ignores : ∀ parsed ∈ ignored, Handles onFrame parsed .ignore)
      (ends : onFrame before parsed packet = (captured, .accept))
      (output : ∀ f, parsed = some f → frame = f) :
      ListenTrace ⟨.accepted, frame, captured⟩
        (ignoredEvents site ignored ++ [.heard site parsed .accept])
  | aborted {frame : IoFrame} {before captured : κ} {ignored : List (Option IoFrame)}
      {parsed : Option IoFrame} {packet : RadioRxPacket}
      (ignores : ∀ parsed ∈ ignored, Handles onFrame parsed .ignore)
      (ends : onFrame before parsed packet = (captured, .abort))
      (output : ∀ f, parsed = some f → frame = f) :
      ListenTrace ⟨.aborted, frame, captured⟩
        (ignoredEvents site ignored ++ [.heard site parsed .abort])

variable {site onFrame}

theorem ListenTrace.ignore {parsed : Option IoFrame} {r : Listened κ} {es : List RadioEvent}
    (first : Handles onFrame parsed .ignore) (rest : ListenTrace site onFrame r es) :
    ListenTrace site onFrame r (.heard site parsed .ignore :: es) := by
  cases rest with
  | timedOut ignores => exact .timedOut (List.forall_mem_cons.mpr ⟨first, ignores⟩)
  | accepted ignores ends output =>
    exact .accepted (List.forall_mem_cons.mpr ⟨first, ignores⟩) ends output
  | aborted ignores ends output =>
    exact .aborted (List.forall_mem_cons.mpr ⟨first, ignores⟩) ends output

/-- Every event of a listen is a packet heard there. -/
theorem ListenTrace.heard {r : Listened κ} {es : List RadioEvent}
    (h : ListenTrace site onFrame r es) :
    ∀ e ∈ es, ∃ parsed disposition, e = .heard site parsed disposition := by
  have hignored : ∀ ignored : List (Option IoFrame), ∀ e ∈ ignoredEvents site ignored,
      ∃ parsed disposition, e = .heard site parsed disposition := by
    intro ignored e he
    obtain ⟨parsed, -, rfl⟩ := List.mem_map.mp he
    exact ⟨parsed, .ignore, rfl⟩
  cases h with
  | timedOut ignores => exact hignored _
  | accepted ignores ends output =>
    exact List.forall_mem_append.mpr ⟨hignored _, List.forall_mem_singleton.mpr ⟨_, _, rfl⟩⟩
  | aborted ignores ends output =>
    exact List.forall_mem_append.mpr ⟨hignored _, List.forall_mem_singleton.mpr ⟨_, _, rfl⟩⟩

/-- An accepting listen wrote the packet it accepted. -/
theorem ListenTrace.accepts {r : Listened κ} {es : List RadioEvent}
    (h : ListenTrace site onFrame r es) (haccepted : r.outcome = .accepted) :
    ∃ before parsed packet, onFrame before parsed packet = (r.captured, .accept) ∧
      .heard site parsed .accept ∈ es ∧ ∀ f, parsed = some f → r.frame = f := by
  cases h with
  | timedOut ignores => cases haccepted
  | accepted ignores ends output =>
    exact ⟨_, _, _, ends, List.mem_append_right _ List.mem_cons_self, output⟩
  | aborted ignores ends output => cases haccepted

private theorem parseInto_output {frame : IoFrame} {buf : List UInt8} {f : IoFrame}
    (h : (parseInto frame buf).1 = some f) : (parseInto frame buf).2 = f := by
  unfold parseInto at h ⊢
  split at h
  · exact Option.some.inj h
  · split at h <;> cases h

private theorem dispatchReceivedPacket_traces {packet : RadioRxPacket} {frame : IoFrame}
    {captured : κ} {ignored : IoFrame → κ → RadioProg σ (Listened κ)}
    (rest : ∀ frame captured, Traces (ignored frame captured) (ListenTrace site onFrame)) :
    Traces (dispatchReceivedPacket site onFrame packet frame captured ignored)
      (ListenTrace site onFrame) := by
  unfold dispatchReceivedPacket
  apply Traces.tell_bind
  have hnone : ∀ parsed ∈ ([] : List (Option IoFrame)), Handles onFrame parsed .ignore :=
    List.forall_mem_nil _
  set parsed := parseInto frame packet.data with hparsed
  cases hd : (onFrame captured parsed.1 packet).2 with
  | accept =>
    exact Traces.pure (.accepted hnone (Prod.ext rfl hd) fun f hf => parseInto_output hf)
  | abort =>
    exact Traces.pure (.aborted hnone (Prod.ext rfl hd) fun f hf => parseInto_output hf)
  | ignore =>
    apply (rest parsed.2 (onFrame captured parsed.1 packet).1).weaken
    intro r es hes
    exact hes.ignore ⟨captured, packet, hd⟩

private theorem windowOpen_traces (deadline : UInt32) :
    Traces (windowOpen radio deadline) fun _ es => es = [] := by
  apply Traces.ask_bind
  intro now
  exact Traces.pure rfl

private theorem preambleOrSyncIncoming_traces (spec : ListenSpec) :
    Traces (preambleOrSyncIncoming radio spec) fun _ es => es = [] := by
  apply Traces.ite
  · intro _
    exact Traces.pure rfl
  · intro _
    apply Traces.ask_bind
    intro preamble
    apply Traces.ite
    · intro _
      exact Traces.pure rfl
    · intro _
      exact Traces.ask fun _ => rfl

private theorem hopAfterIgnored_traces (spec : ListenSpec) (deadline : UInt32) :
    Traces (hopAfterIgnored radio spec deadline) fun _ es => es = [] := by
  apply Traces.ite
  · intro _
    exact Traces.pure rfl
  · intro _
    apply Traces.silent_bind (windowOpen_traces deadline)
    intro isOpen
    apply Traces.ite
    · intro _
      apply Traces.silent_bind (preambleOrSyncIncoming_traces spec)
      intro incoming
      apply Traces.ite
      · intro _
        exact Traces.pure rfl
      · intro _
        exact Traces.ask fun _ => rfl
    · intro _
      exact Traces.pure rfl

private theorem listenLoop_traces (spec : ListenSpec) (deadline : UInt32) (waits : ℕ)
    (frame : IoFrame) (captured : κ) :
    Traces (listenLoop radio site spec onFrame deadline waits frame captured)
      (ListenTrace site onFrame) := by
  have htimeout : ∀ (frame : IoFrame) (captured : κ),
      Traces (pure ⟨.timedOut, frame, captured⟩ : RadioProg σ (Listened κ))
        (ListenTrace site onFrame) :=
    fun frame captured => Traces.pure (ListenTrace.timedOut (List.forall_mem_nil _))
  induction waits generalizing frame captured with
  | zero => exact htimeout frame captured
  | succ waits ih =>
    apply Traces.silent_bind (windowOpen_traces deadline)
    intro isOpen
    apply Traces.ite
    · intro _
      exact htimeout frame captured
    · intro _
      apply Traces.ask_bind
      intro now
      apply Traces.ask_bind
      intro received
      cases received with
      | some packet =>
        apply dispatchReceivedPacket_traces
        intro frame captured
        apply Traces.silent_bind (hopAfterIgnored_traces spec deadline)
        intro _
        exact ih frame captured
      | none =>
        apply Traces.silent_bind (windowOpen_traces deadline)
        intro isOpen
        apply Traces.ite
        · intro _
          exact htimeout frame captured
        · intro _
          apply Traces.ite
          · intro _
            exact ih frame captured
          · intro _
            apply Traces.silent_bind (preambleOrSyncIncoming_traces spec)
            intro incoming
            apply Traces.ite
            · intro _
              apply Traces.ask_bind
              intro _
              exact ih frame captured
            · intro _
              apply Traces.ask_bind
              intro now
              apply Traces.ask_bind
              intro received
              cases received with
              | some packet => exact dispatchReceivedPacket_traces ih
              | none => exact ih frame captured

/-- Every listen writes the packets it ignored and at most one that ended it. -/
theorem listen_traces (spec : ListenSpec) (frame : IoFrame) (captured : κ) :
    Traces (listen radio site spec onFrame frame captured) (ListenTrace site onFrame) := by
  apply Traces.ask_bind
  intro now
  apply Traces.ite
  · intro _
    apply Traces.ask_bind
    intro _
    exact listenLoop_traces spec _ _ frame captured
  · intro _
    exact listenLoop_traces spec _ _ frame captured

end

end

end HomeIoControl.RadioLinks
