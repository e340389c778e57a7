import HomeIoControl.RadioLinks

/-!
# The software PHY

Radios without hardware framing receive raw bits. A frame is sent as serial cells with its checksum
behind it, and is found again by trying every alignment, every start and every length.
-/

namespace HomeIoControl.SoftPhy

open ProtocolFrames RadioLinks

def uartProbeMaxBitOffset : ℕ := 10
def uartCellBits : ℕ := 10

def getBitMsb (data : List UInt8) (bitPos : ℕ) : Bool :=
  (data.getD (bitPos / 8) 0 >>> UInt8.ofNat (7 - bitPos % 8)) &&& 1 ≠ 0

/-- The data bits of the cell at a position. -/
def cellValue (raw : List UInt8) (bitPos : ℕ) : UInt8 :=
  (List.range 8).foldl (fun value index =>
    value ||| ((if getBitMsb raw (bitPos + 1 + index) then 1 else 0) <<< UInt8.ofNat index)) 0

/-- The loop of `decode_uart_probe`, with the capacity left. -/
def decodeUartCells (raw : List UInt8) : ℕ → ℕ → List UInt8
  | 0, _ => []
  | capacity + 1, bitPos =>
    if bitPos + 10 ≤ 8 * raw.length then
      if getBitMsb raw bitPos ≠ false ∨ getBitMsb raw (bitPos + 9) ≠ true then []
      else cellValue raw bitPos :: decodeUartCells raw capacity (bitPos + 10)
    else []

def decodeUartProbe (raw : List UInt8) (bitOffset decodedMaxLen : ℕ) : List UInt8 :=
  decodeUartCells raw decodedMaxLen bitOffset

def isKnownIoCommand (cmd : UInt8) : Bool :=
  cmd ∈ [cmdExecute, cmdPrivate, cmdPrivateResp, cmdPrivate2, cmdPrivate2Resp, cmdIdentify,
    cmdWritePrivate, cmdWritePrivateAck, cmdDiscoverReq, cmdDiscoverResp, cmdDiscoverSpeReq,
    cmdDiscoverSpeResp, cmdDiscoverConfirm, cmdDiscoverConfirmAck, cmdKeyInit, cmdKeyTransfer,
    cmdKeyConfirm, cmdAddressReq, cmdChallengeReq, cmdChallengeResp, cmdUnknown4aResp, cmdGetName,
    cmdGetNameResp, cmdSetName, cmdSetNameResp, cmdGetInfo1, cmdGetInfo1Resp, cmdGetInfo2,
    cmdGetInfo2Resp, cmdGetGeneralInfo3, cmdGetGeneralInfo3Resp, cmdSetConfig1, cmdSetConfig1Resp,
    cmdStatusUpdate, cmdStatusUpdateResp, cmdErrorResp]

def isPlausibleUartFrame (frame : IoFrame) (candidateLen : ℕ) : Bool :=
  if candidateLen < frameMinSize then false
  else if isKnownIoCommand frame.cmd then true
  else is1w frame

/-- The checksum behind a candidate, low byte first. -/
def receivedCrc (decoded : List UInt8) (offset : ℕ) : UInt16 :=
  (decoded.getD offset 0).toUInt16 ||| ((decoded.getD (offset + 1) 0).toUInt16 <<< 8)

/-- The tests that `find_crc_valid_frame` makes of one candidate. -/
def isCrcValidFrame (decoded : List UInt8) (start candidateLen : ℕ) : Bool :=
  let candidate := (decoded.drop start).take candidateLen
  match parse candidate with
  | none => false
  | some frame =>
    isPlausibleUartFrame frame candidateLen && start + candidateLen + 2 ≤ decoded.length &&
      crcCcitt candidate = receivedCrc decoded (start + candidateLen)

/-- The lengths tried for a start, the longest first. -/
def candidateLens (available : ℕ) : List ℕ :=
  (List.range' frameMinSize (min available frameMaxWireSize + 1 - frameMinSize)).reverse

/-- `find_crc_valid_frame`: start and length. -/
def findCrcValidFrame (decoded : List UInt8) : Option (ℕ × ℕ) :=
  (List.range decoded.length).findSome? fun start =>
    ((candidateLens (decoded.length - start)).find? (isCrcValidFrame decoded start)).map
      fun candidateLen => (start, candidateLen)

structure UartProbeResult where
  valid : Bool := false
  bitOffset : ℕ := 0
  frameStart : ℕ := 0
  frameLen : ℕ := 0
  decoded : List UInt8 := []
  deriving DecidableEq

namespace UartProbeResult

/-- The recovered frame, `decoded[frame_start .. frame_start + frame_len)`. -/
def frame (probe : UartProbeResult) : List UInt8 :=
  (probe.decoded.drop probe.frameStart).take probe.frameLen

end UartProbeResult

/-- The loop of `find_uart_probe` over the alignments left, with the longest decode so far. -/
def probeOffsets (raw : List UInt8) : List ℕ → UartProbeResult → UartProbeResult
  | [], best => best
  | bitOffset :: rest, best =>
    let decoded := decodeUartProbe raw bitOffset radioPacketBufferSize
    if decoded = [] then probeOffsets raw rest best
    else
      let best := if best.decoded.length < decoded.length then
          { best with bitOffset := bitOffset, decoded := decoded }
        else best
      match findCrcValidFrame decoded with
      | some (frameStart, frameLen) => ⟨true, bitOffset, frameStart, frameLen, decoded⟩
      | none => probeOffsets raw rest best

def findUartProbe (raw : List UInt8) : UartProbeResult :=
  probeOffsets raw (List.range uartProbeMaxBitOffset) {}

def softPhyRawBytesForFrame (frameLen : ℕ) : ℕ := ((frameLen + frameCrcSize) * uartCellBits + 7) / 8

/-- One alignment of `soft_phy_peek_frame_length`. -/
def peekStep (raw : List UInt8) (best bitOffset : ℕ) : ℕ :=
  match decodeUartProbe raw bitOffset 1 with
  | [ctrl0] =>
    let frameLen := declaredLength ctrl0
    if frameLen < frameMinSize ∨ frameMaxDeclaredSize < frameLen then best else max frameLen best
  | _ => best

/-- `soft_phy_peek_frame_length`: the largest plausible length over the alignments. -/
def softPhyPeekFrameLength (raw : List UInt8) : ℕ :=
  (List.range uartProbeMaxBitOffset).foldl (peekStep raw) 0

def writeBit (encoded : List UInt8) (pos : ℕ) (bit : Bool) : List UInt8 :=
  if bit then encoded.modify (pos / 8) (· ||| 1 <<< UInt8.ofNat (7 - pos % 8)) else encoded

def writeBits (encoded : List UInt8) : ℕ → List Bool → List UInt8
  | _, [] => encoded
  | pos, bit :: bits => writeBits (writeBit encoded pos bit) (pos + 1) bits

/-- One byte of `uart_encode_packet`: start bit, data bits from the least significant, stop bit. -/
def uartCell (value : UInt8) : List Bool :=
  false :: ((List.range 8).map fun bitIndex => (value >>> UInt8.ofNat bitIndex) &&& 1 ≠ 0) ++ [true]

/-- `uart_encode_packet` into a buffer of the given size; the bits left in the last byte idle
high. -/
def uartEncodePacket (data : List UInt8) (encodedMaxLen : ℕ) : Option (List UInt8) :=
  let totalBits := data.length * 10
  let encodedLen := (totalBits + 7) / 8
  if data.length = 0 ∨ encodedMaxLen = 0 then none
  else if encodedMaxLen < encodedLen then none
  else some ((writeBits (List.replicate encodedMaxLen 0) 0
    (data.flatMap uartCell ++ List.replicate (8 * encodedLen - totalBits) true)).take encodedLen)

/-- A packet with its checksum, low byte first, as `send_packet` sends it. -/
def withCrc (packet : List UInt8) : List UInt8 :=
  packet ++ [(crcCcitt packet).toUInt8, (crcCcitt packet >>> 8).toUInt8]

end HomeIoControl.SoftPhy
