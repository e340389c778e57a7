import HomeIoControl.SoftPhyProbes

/-!
# Receiving with the software PHY

The chip answers as it likes: any status word, any reported length, any bytes. A reception ends
early, as soon as the frame's own length has passed on the air, or with the chip's fixed-length
`RX_DONE`. The registers that transmitting uses and the preamble latch are left out.
-/

namespace HomeIoControl.SoftPhyDriver

open TracedPrograms ProtocolFrames RadioLinks SoftPhy SoftPhyProbes

def softPhyRxProbePacketLen : ℕ := 48
def softPhyEarlyHeaderRawBytes : ℕ := 3
def softPhyEarlyReadMarginBytes : ℕ := 2
def softPhyEarlyMinWindowMs : UInt32 := 12
def softPhyIdleRxCompletionBudgetMs : UInt32 := 20
def softPhyLineRateBps : UInt32 := 38400

/-- `soft_phy_air_time_us`: rounded up. -/
def softPhyAirTimeUs (rawBytes : UInt32) : UInt32 :=
  (rawBytes * 8 * 1000000 + softPhyLineRateBps - 1) / softPhyLineRateBps

/-- What the shared driver tells a chip. -/
inductive ChipCommand where
  | clearDioFired
  | clearIrqStatus (mask : UInt32)
  | resetRxState
  | noteReceptionInProgress
  | delayMs (ms : UInt32)
  | delayUs (us : UInt32)
  deriving DecidableEq, Repr

/-- A software-PHY chip with its clocks, over its own state. -/
structure SoftPhyChip (σ : Type) where
  millis : σ → UInt32 × σ
  micros : σ → UInt32 × σ
  isDioFired : σ → Bool × σ
  readIrqStatusRaw : σ → UInt32 × σ
  getRxBufferStatus : σ → (UInt8 × UInt8) × σ
  readRxBuffer : UInt8 → σ → (ℕ → UInt8) × σ
  currentFreq : σ → UInt32
  command : ChipCommand → σ → σ
  syncWordValidBit : UInt32
  rxDoneBit : UInt32
  activityIrqMask : UInt32
  earlyRxReadOffset : Option UInt8

/-- `RadioCaptureInfo`: the raw window a packet was taken from. -/
structure RadioCaptureInfo where
  blockingWait : Bool
  irqStatus : UInt32
  rxOffset : UInt8
  reportedLen : ℕ
  raw : List UInt8
  frame : List UInt8

/-- A packet and its capture. -/
structure Reception where
  packet : RadioRxPacket
  capture : RadioCaptureInfo

/-- The raw bytes of the second early read, for the header of the first. -/
def earlyReadLen (header : List UInt8) : ℕ :=
  min (softPhyRawBytesForFrame (softPhyPeekFrameLength header) + softPhyEarlyReadMarginBytes)
    radioPacketBufferSize

/-- `reported_len` of `read_rx_packet`. -/
def clampReportedLen (rawReportedLen : UInt8) : ℕ := min rawReportedLen.toNat radioPacketBufferSize

/-- `raw_probe_len`: a short reported length still reads the whole buffer. -/
def rawProbeLen (reportedLen : ℕ) : ℕ :=
  if reportedLen = softPhyRxProbePacketLen then softPhyRxProbePacketLen
  else if 0 < reportedLen ∧ reportedLen < 32 then radioPacketBufferSize
  else reportedLen

/-- The packet of `read_rx_packet`: the recovered frame, or the raw bytes as reported. -/
def recoverPacket (reportedLen : ℕ) (rxBuf : List UInt8) : List UInt8 :=
  let probe := findUartProbe rxBuf
  if probe.valid then probe.frame else rxBuf.take (min reportedLen frameMaxWireSize)

private theorem probeOffsets_decoded_le (raw : List UInt8) (offsets : List ℕ)
    (best : UartProbeResult) (hbest : best.decoded.length ≤ radioPacketBufferSize) :
    (probeOffsets raw offsets best).decoded.length ≤ radioPacketBufferSize := by
  induction offsets generalizing best with
  | nil => exact hbest
  | cons o offsets ih =>
    have hdecoded := decodeUartProbe_length_le raw o radioPacketBufferSize
    rw [probeOffsets]
    dsimp only
    split_ifs with hempty hlonger
    · exact ih best hbest
    · split
      · exact hdecoded
      · exact ih _ hdecoded
    · split
      · exact hdecoded
      · exact ih best hbest

/-- What is recovered fits a packet. -/
theorem frame_length_le (raw : List UInt8) :
    (findUartProbe raw).frame.length ≤ radioPacketBufferSize := by
  have hdecoded := probeOffsets_decoded_le raw (List.range uartProbeMaxBitOffset) {}
    (Nat.zero_le _)
  rw [UartProbeResult.frame, List.length_take, List.length_drop]
  rw [findUartProbe]
  omega

theorem recoverPacket_length_le (reportedLen : ℕ) (rxBuf : List UInt8) :
    (recoverPacket reportedLen rxBuf).length ≤ radioPacketBufferSize := by
  unfold recoverPacket
  dsimp only
  split_ifs with hvalid
  · exact frame_length_le rxBuf
  · have hwire : frameMaxWireSize ≤ radioPacketBufferSize := by decide
    rw [List.length_take]
    omega

section

variable {σ : Type} (chip : SoftPhyChip σ)

abbrev ChipProg (σ α : Type) := Prog σ PEmpty α

def send (c : ChipCommand) : ChipProg σ PUnit := ask fun s => (⟨⟩, chip.command c s)

/-- `read_rx_buffer`. -/
def readRxBuffer (offset : UInt8) (len : ℕ) : ChipProg σ (List UInt8) := do
  let memory ← ask (chip.readRxBuffer offset)
  pure ((List.range len).map memory)

/-- The raw window of `read_rx_packet`; nothing is read for a reported length of zero. -/
def readRawWindow (rxOffset : UInt8) (len : ℕ) : ChipProg σ (List UInt8) :=
  if len = 0 then pure [] else readRxBuffer chip rxOffset len

/-- `wait_for_air_time`, polling at most so often. -/
def waitForAirTime (syncUs : UInt32) (rawBytes : ℕ) (startMs timeoutMs : UInt32) :
    ℕ → ChipProg σ Bool
  | 0 => pure false
  | polls + 1 => do
    let neededUs := softPhyAirTimeUs (UInt32.ofNat (rawBytes + softPhyEarlyReadMarginBytes))
    let us ← ask chip.micros
    if us - syncUs < neededUs then do
      let ms ← ask chip.millis
      if ms - startMs > timeoutMs then pure false
      else do
        send chip (.delayUs 100)
        waitForAirTime syncUs rawBytes startMs timeoutMs polls
    else pure true

/-- The last stages of `try_early_completion_`, with the header read. -/
def completeEarly (offset : UInt8) (header : List UInt8) (irqStatus : UInt32) :
    ChipProg σ (Option Reception) := do
  let raw ← readRxBuffer chip offset (earlyReadLen header)
  let probe := findUartProbe raw
  if probe.valid = false then pure none
  else do
    let freq ← ask fun s => (chip.currentFreq s, s)
    send chip .clearDioFired
    send chip .resetRxState
    pure (some
      { packet := ⟨freq, probe.frame, frame_length_le raw⟩
        capture := ⟨true, irqStatus, offset, earlyReadLen header, raw, probe.frame⟩ })

/-- `try_early_completion_`. -/
def tryEarlyCompletion (syncUs irqStatus startMs timeoutMs : UInt32) (polls : ℕ) :
    ChipProg σ (Option Reception) :=
  match chip.earlyRxReadOffset with
  | none => pure none
  | some offset =>
    if timeoutMs < softPhyEarlyMinWindowMs then pure none
    else do
      let headerArrived ← waitForAirTime chip syncUs softPhyEarlyHeaderRawBytes startMs timeoutMs
        polls
      if headerArrived = false then pure none
      else do
        let header ← readRxBuffer chip offset softPhyEarlyHeaderRawBytes
        let frameLen := softPhyPeekFrameLength header
        if frameLen = 0 then pure none
        else do
          let frameArrived ← waitForAirTime chip syncUs (softPhyRawBytesForFrame frameLen) startMs
            timeoutMs polls
          if frameArrived = false then pure none
          else completeEarly chip offset header irqStatus

/-- `read_rx_packet`. -/
def readRxPacket (blockingWait : Bool) (irqStatus : UInt32) : ChipProg σ (Option Reception) := do
  let (rawReportedLen, rxOffset) ← ask chip.getRxBufferStatus
  let reportedLen := clampReportedLen rawReportedLen
  let rxBuf ← readRawWindow chip rxOffset (rawProbeLen reportedLen)
  let packet := recoverPacket reportedLen rxBuf
  let freq ← ask fun s => (chip.currentFreq s, s)
  send chip .resetRxState
  if packet.length = 0 then pure none
  else pure (some
    { packet := ⟨freq, packet, recoverPacket_length_le reportedLen rxBuf⟩
      capture := ⟨blockingWait, irqStatus, rxOffset, reportedLen, rxBuf, packet⟩ })

/-- `poll_until_activity_`: the status word, or nothing in time. -/
def pollUntilActivity (start timeoutMs : UInt32) : ℕ → ChipProg σ (Option UInt32)
  | 0 => pure none
  | polls + 1 => do
    let fired ← ask chip.isDioFired
    if fired then send chip .clearDioFired
    let irq ← ask chip.readIrqStatusRaw
    if irq &&& chip.activityIrqMask ≠ 0 then pure (some irq)
    else do
      let now ← ask chip.millis
      if now - start > timeoutMs then do
        send chip .clearDioFired
        send chip .resetRxState
        pure none
      else do
        send chip (.delayMs 1)
        pollUntilActivity start timeoutMs polls

/-- The loop of `resolve_sync_race_` that waits for `RX_DONE`. -/
def waitForRxDone (start timeoutMs : UInt32) : ℕ → ChipProg σ (Option UInt32)
  | 0 => pure none
  | polls + 1 => do
    let now ← ask chip.millis
    if now - start > timeoutMs then pure none
    else do
      let fired ← ask chip.isDioFired
      if fired then send chip .clearDioFired
      let irq ← ask chip.readIrqStatusRaw
      if irq &&& chip.rxDoneBit ≠ 0 then pure (some irq)
      else do
        if fired = false then send chip (.delayMs 1)
        else if irq ≠ 0 then send chip (.clearIrqStatus irq)
        waitForRxDone start timeoutMs polls

/-- `finalize_receive_`. -/
def finalizeReceive (irq : UInt32) : ChipProg σ (Option Reception) :=
  if irq &&& chip.rxDoneBit = 0 then do
    send chip .resetRxState
    pure none
  else readRxPacket chip true irq

/-- `resolve_sync_race_` and what follows it in `wait_for_packet`. -/
def resolveSyncRace (start timeoutMs irq : UInt32) (polls : ℕ) : ChipProg σ (Option Reception) :=
  if irq &&& chip.syncWordValidBit = 0 ∨ irq &&& chip.rxDoneBit ≠ 0 then finalizeReceive chip irq
  else do
    let syncUs ← ask chip.micros
    send chip (.clearIrqStatus chip.syncWordValidBit)
    let early ← tryEarlyCompletion chip syncUs irq start timeoutMs polls
    match early with
    | some reception => pure (some reception)
    | none => do
      let irq ← waitForRxDone chip start timeoutMs polls
      match irq with
      | none => pure none
      | some irq => finalizeReceive chip irq

/-- `wait_for_packet`, polling at most so often. -/
def waitForPacket (timeoutMs : UInt32) (polls : ℕ) : ChipProg σ (Option Reception) := do
  let start ← ask chip.millis
  let irq ← pollUntilActivity chip start timeoutMs polls
  match irq with
  | none => pure none
  | some irq => resolveSyncRace chip start timeoutMs irq polls

/-- `check_for_packet`. -/
def checkForPacket (polls : ℕ) : ChipProg σ (Option Reception) := do
  let fired ← ask chip.isDioFired
  if fired = false then pure none
  else do
    send chip .clearDioFired
    let irq ← ask chip.readIrqStatusRaw
    if irq &&& chip.activityIrqMask = 0 then do
      if irq ≠ 0 then send chip (.clearIrqStatus irq)
      pure none
    else if irq &&& chip.syncWordValidBit ≠ 0 ∧ irq &&& chip.rxDoneBit = 0 then do
      let syncUs ← ask chip.micros
      let startMs ← ask chip.millis
      send chip .noteReceptionInProgress
      send chip (.clearIrqStatus chip.syncWordValidBit)
      let early ← tryEarlyCompletion chip syncUs irq startMs softPhyIdleRxCompletionBudgetMs polls
      match early with
      | some reception => pure (some reception)
      | none => do
        send chip .noteReceptionInProgress
        pure none
    else if irq &&& chip.rxDoneBit ≠ 0 then readRxPacket chip false irq
    else do
      send chip .resetRxState
      pure none

end

end HomeIoControl.SoftPhyDriver
