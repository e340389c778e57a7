import HomeIoControl.DeviceRegistries
import HomeIoControl.SoftPhyDriver

/-!
# What a reception writes to the log

A reception on a software PHY is logged by the driver, which probes the raw window, and by whoever
was listening. A line is the format and the arguments of one logging call; a format keeps its
arguments apart, so that lines print the same text exactly when they are equal.
-/

namespace HomeIoControl.ReceptionLogs

open ProtocolFrames RadioLinks DeviceRegistries SoftPhy SoftPhyDriver

/-- `command_carries_key_material`. -/
def commandCarriesKeyMaterial (cmd : UInt8) : Bool :=
  cmd = cmdKeyTransfer || cmd = cmdChallengeReq || cmd = cmdChallengeResp ||
    cmd = cmdOnewayAddController

def frameCmdOffset : ℕ := 8
def frameLogHexBufferSize : ℕ := 220

/-- `"%02X "`. -/
def hexCell (b : UInt8) : List Char := hexByte b ++ [' ']

/-- The loop of `bytes_to_hex` from a position of its buffer. -/
def bytesToHexFrom (outSize : ℕ) : ℕ → List UInt8 → List Char
  | _, [] => []
  | pos, b :: rest =>
    if pos + 4 < outSize then hexCell b ++ bytesToHexFrom outSize (pos + 3) rest else []

/-- `bytes_to_hex`. -/
def bytesToHex (data : List UInt8) (outSize : ℕ) : List Char := bytesToHexFrom outSize 0 data

/-- The bytes that are masked but for the header. -/
def IsMasked (data : List UInt8) : Prop :=
  frameMinSize ≤ data.length ∧ commandCarriesKeyMaterial (data.getD frameCmdOffset 0) = true

instance (data : List UInt8) : Decidable (IsMasked data) := inferInstanceAs (Decidable (_ ∧ _))

/-- `render_frame_hex_redacted` into a buffer that holds the masked form. -/
def renderFrameHexRedacted (data : List UInt8) (outSize : ℕ) : List Char :=
  if IsMasked data then
    bytesToHex (data.take frameMinSize) (frameMinSize * 3 + 4) ++
      ('[' :: (toString (data.length - frameMinSize) ++ " bytes masked]").toList)
  else bytesToHex data outSize

def cmdSetSensor : UInt8 := 0x19
def cmdSetSensorAck : UInt8 := 0x1A
def cmdDiscoverAltResp : UInt8 := 0x2F
def cmdLaunchKeyTransfer : UInt8 := 0x38
def cmdOnewayRemove : UInt8 := 0x39
def cmdUnknown4aReq : UInt8 := 0x4A
def cmdSendRawMessage : UInt8 := 0xF0
def cmdReadGroups : UInt8 := 0xF1
def cmdReboot : UInt8 := 0xF2
def cmdServiceStatusAck : UInt8 := 0xF3

def commandNames : List (UInt8 × String) :=
  [(cmdExecute, "EXECUTE"), (cmdActivateMode, "ACTIVATE_MODE"), (cmdPrivate, "PRIVATE"),
    (cmdPrivateResp, "PRIVATE_RESP"), (cmdPrivate2, "PRIVATE2"),
    (cmdPrivate2Resp, "PRIVATE2_RESP"), (cmdSetSensor, "SET_SENSOR"),
    (cmdSetSensorAck, "SET_SENSOR_ACK"), (cmdIdentify, "IDENTIFY"),
    (cmdWritePrivate, "WRITE_PRIVATE"), (cmdWritePrivateAck, "WRITE_PRIVATE_ACK"),
    (cmdDiscoverReq, "DISCOVER_REQ"), (cmdDiscoverResp, "DISCOVER_RESP"),
    (cmdDiscoverSpeReq, "DISCOVER_SPE_REQ"), (cmdDiscoverSpeResp, "DISCOVER_SPE_RESP"),
    (cmdDiscoverConfirm, "DISCOVER_CONFIRM"), (cmdDiscoverConfirmAck, "DISCOVER_CONFIRM_ACK"),
    (cmdDiscoverAltReq, "DISCOVER_ALT_REQ"), (cmdDiscoverAltResp, "DISCOVER_ALT_RESP"),
    (cmdOnewayAddController, "ONEWAY_ADD_CONTROLLER"), (cmdOnewayRemove, "ONEWAY_REMOVE"),
    (cmdKeyInit, "KEY_INIT"), (cmdKeyTransfer, "KEY_TRANSFER"), (cmdKeyConfirm, "KEY_CONFIRM"),
    (cmdAddressReq, "ADDRESS_REQ"), (cmdAddressResp, "ADDRESS_RESP"),
    (cmdLaunchKeyTransfer, "LAUNCH_KEY_TRANSFER"), (cmdUnknown4aReq, "UNKNOWN4A_REQ"),
    (cmdUnknown4aResp, "UNKNOWN4A_RESP"), (cmdChallengeReq, "CHALLENGE_REQ"),
    (cmdChallengeResp, "CHALLENGE_RESP"), (cmdGetName, "GET_NAME"),
    (cmdGetNameResp, "GET_NAME_RESP"), (cmdSetName, "SET_NAME"),
    (cmdSetNameResp, "SET_NAME_RESP"), (cmdGetInfo1, "GET_INFO1"),
    (cmdGetInfo1Resp, "GET_INFO1_RESP"), (cmdGetInfo2, "GET_INFO2"),
    (cmdGetInfo2Resp, "GET_INFO2_RESP"), (cmdGetGeneralInfo3, "GET_GENERAL_INFO3"),
    (cmdGetGeneralInfo3Resp, "GET_GENERAL_INFO3_RESP"), (cmdSetConfig1, "SET_CONFIG1"),
    (cmdSetConfig1Resp, "SET_CONFIG1_RESP"), (cmdStatusUpdate, "STATUS_UPDATE"),
    (cmdStatusUpdateResp, "STATUS_UPDATE_RESP"), (cmdSendRawMessage, "SEND_RAW_MESSAGE"),
    (cmdReadGroups, "READ_GROUPS"), (cmdReboot, "REBOOT"),
    (cmdServiceStatusAck, "SERVICE_STATUS_ACK"), (cmdErrorResp, "ERROR_RESP")]

/-- `command_name`. -/
def commandName (cmd : UInt8) : String := (commandNames.lookup cmd).getD "UNKNOWN_CMD"

def ctrl1Priority : UInt8 := 0x04
def ctrl1Ack : UInt8 := 0x10
def ctrl1Routed : UInt8 := 0x40
def ctrl1Beacon : UInt8 := 0x80

/-- `decode_ctrl1_flags`. -/
def decodeCtrl1Flags (ctrl1 : UInt8) : String :=
  (if ctrl1 &&& ctrl1Ack ≠ 0 then "[ACK]" else "") ++
    (if ctrl1 &&& ctrl1LowPower ≠ 0 then "[LPM]" else "") ++
    (if ctrl1 &&& ctrl1Priority ≠ 0 then "[PRIO]" else "") ++
    (if ctrl1 &&& ctrl1Routed ≠ 0 then "[R]" else "") ++
    (if ctrl1 &&& ctrl1Beacon ≠ 0 then "[B]" else "")

/-- An argument of a logging call. The values of checksums and the place where decoding broke off
are told apart from other numbers. -/
inductive Arg where
  | number (n : ℕ)
  | string (s : String)
  | buffer (chars : List Char)
  | crc (value : UInt16)
  | errorPosition (n : ℕ)
  deriving DecidableEq

namespace Arg

/-- The argument up to the values of checksums and error positions. -/
def blur : Arg → Arg
  | crc _ => crc 0
  | errorPosition _ => errorPosition 0
  | arg => arg

end Arg

inductive LogLevel where
  | debug
  | info
  | warn
  deriving DecidableEq

structure LogLine where
  level : LogLevel
  tag : String
  format : String
  args : List Arg
  deriving DecidableEq

namespace LogLine

def blur (line : LogLine) : LogLine := { line with args := line.args.map Arg.blur }

end LogLine

def softPhyTag : String := "home_io_control.soft_phy"
def exchangeTag : String := "home_io_control.exchange"
def frameTag : String := "io_frame"
def captureTag : String := "io_capture"

/-- `log_frame` for a reception, which has no preamble. -/
def logFrame (data : List UInt8) (freq : UInt32) : LogLine :=
  let named := frameMinSize ≤ data.length
  ⟨.info, frameTag, "%s [%u bytes] freq=%u cmd=%s %s: %s",
    [.string "RX", .number data.length, .number freq.toNat,
      .string (if named then commandName (data.getD frameCmdOffset 0) else ""),
      .string (if named then decodeCtrl1Flags (data.getD 1 0) else ""),
      .buffer (renderFrameHexRedacted data frameLogHexBufferSize)]⟩

/-- Who a packet is delivered to: the idle loop, or an exchange that waits for an answer. -/
inductive Listener where
  | idle
  | awaiting (stage : String) (tries : ℕ)

/-- What a reception's log depends on besides the windows. -/
structure Setting where
  /-- The build defines `IOHOME_FRAME_LOG`. -/
  frameLog : Bool
  chipName : String
  freqHz : UInt32
  timestampMs : UInt32
  airUs : UInt32
  earlyHeader : List UInt8
  rawReportedLen : UInt8
  rxOffset : UInt8
  listener : Listener

namespace Setting

def reportedLen (s : Setting) : ℕ := clampReportedLen s.rawReportedLen

end Setting

/-- The raw bytes read: the window of an early completion, where it came so far, and the window at
the end of the reception. -/
structure Windows where
  early : Option (List UInt8)
  raw : List UInt8

namespace Windows

/-- The valid probe of `try_early_completion_`. -/
def earlyProbe (w : Windows) : Option UartProbeResult :=
  (w.early.map findUartProbe).filter fun probe => probe.valid

end Windows

/-- The packet that the hub is handed. -/
def delivered (s : Setting) (w : Windows) : List UInt8 :=
  match w.earlyProbe with
  | some probe => probe.frame
  | none => recoverPacket s.reportedLen w.raw

/-- The length and command that `read_rx_packet` finds at the start of a failed decode, with the
checksums computed and received where the decode reaches them. -/
structure CrcCheck where
  candidateLen : ℕ
  cmd : UInt8
  computed : UInt16
  received : UInt16

/-- The search for why the checksum failed. -/
def crcCheck (decoded : List UInt8) : Option CrcCheck :=
  match (candidateLens decoded.length).find? fun cl => (parse (decoded.take cl)).isSome with
  | none => none
  | some cl =>
    if cl + 2 ≤ decoded.length then
      some ⟨cl, decoded.getD frameCmdOffset 0, crcCcitt (decoded.take cl), receivedCrc decoded cl⟩
    else none

def crcCheckLine (check : CrcCheck) : LogLine :=
  ⟨.warn, softPhyTag,
    "  CRC check: candidate_len=%d cmd=0x%02X crc_computed=0x%04X crc_received=0x%04X %s",
    [.number check.candidateLen, .number check.cmd.toNat, .crc check.computed,
      .crc check.received,
      .string (if check.computed = check.received then "MATCH" else "MISMATCH")]⟩

/-- How many of the raw bytes a failed probe shows. -/
def dumpLen (s : Setting) : ℕ := min (rawProbeLen s.reportedLen) 32

/-- The lines of `read_rx_packet` about its probe. With nothing read, the last index is -1 printed
as unsigned. -/
def probeLines (s : Setting) (raw : List UInt8) : List LogLine :=
  let probe := findUartProbe raw
  if probe.valid then
    [⟨.debug, softPhyTag,
      "UART probe: valid=1 bit_offset=%u frame_start=%u frame_len=%u decoded_len=%u rx_offset=%u",
      [.number probe.bitOffset, .number probe.frameStart, .number probe.frameLen,
        .number probe.decoded.length, .number s.rxOffset.toNat]⟩]
  else
    [⟨.warn, softPhyTag, "UART probe: valid=0 decoded_len=%u raw_probe_len=%u",
        [.errorPosition probe.decoded.length, .number (rawProbeLen s.reportedLen)]⟩,
      ⟨.warn, softPhyTag, "  raw[0..%u]: %s",
        [.number (UInt32.ofNat (dumpLen s) - 1).toNat,
          .buffer ((raw.take (dumpLen s)).flatMap hexCell)]⟩] ++
      ((crcCheck probe.decoded).map crcCheckLine).toList

/-- The line of `try_early_completion_`. -/
def earlyLine (s : Setting) : LogLine :=
  ⟨.debug, softPhyTag, "Early RX: frame_len=%u raw_len=%u air_us=%u",
    [.number (softPhyPeekFrameLength s.earlyHeader), .number (earlyReadLen s.earlyHeader),
      .number s.airUs.toNat]⟩

/-- The driver's lines about the probe that decided. -/
def receiveLines (s : Setting) (w : Windows) : List LogLine :=
  match w.earlyProbe with
  | some _ => [earlyLine s]
  | none => probeLines s w.raw

/-- The driver's line about the packet. -/
def frameLines (s : Setting) (packet : List UInt8) : List LogLine :=
  if packet.length = 0 then [] else [logFrame packet s.freqHz]

/-- `log_component_capture`. -/
def logComponentCapture (s : Setting) (stage : String) (buf : List UInt8)
    (frame : Option IoFrame) : LogLine :=
  let payloadHex := renderFrameHexRedacted buf frameLogHexBufferSize
  match frame with
  | some f =>
    ⟨.debug, captureTag,
      "chip=%s phase=component stage=%s freq=%u ts=%u len=%u cmd=0x%02X " ++
        "src=%02X%02X%02X dst=%02X%02X%02X payload=%s",
      [.string s.chipName, .string stage, .number s.freqHz.toNat, .number s.timestampMs.toNat,
        .number buf.length, .number f.cmd.toNat, .number f.src.b0.toNat, .number f.src.b1.toNat,
        .number f.src.b2.toNat, .number f.dst.b0.toNat, .number f.dst.b1.toNat,
        .number f.dst.b2.toNat, .buffer payloadHex]⟩
  | none =>
    ⟨.debug, captureTag, "chip=%s phase=component stage=%s freq=%u ts=%u len=%u payload=%s",
      [.string s.chipName, .string stage, .number s.freqHz.toNat, .number s.timestampMs.toNat,
        .number buf.length, .buffer payloadHex]⟩

/-- `log_unparsable_frame`. -/
def logUnparsableFrame (s : Setting) (stage : String) (tries : ℕ) (packet : List UInt8) :
    List LogLine :=
  ⟨.warn, exchangeTag, "%s try=%d: %u bytes did not parse as a frame on %u Hz",
      [.string stage, .number tries, .number packet.length, .number s.freqHz.toNat]⟩ ::
    if s.frameLog then
      [⟨.debug, exchangeTag, "  raw: %s",
        [.buffer (renderFrameHexRedacted packet frameLogHexBufferSize)]⟩]
    else []

/-- The first lines of `process_received_packet_`. -/
def captureLine (s : Setting) (packet : List UInt8) : LogLine :=
  match parse packet with
  | none => logComponentCapture s "parse_fail" packet none
  | some frame => logComponentCapture s "parse_ok" packet (some frame)

/-- The listener's lines about the bytes of a packet; without a packet it is not called. -/
def listenerLines (s : Setting) (packet : List UInt8) : List LogLine :=
  if packet.length = 0 then []
  else
    match s.listener with
    | .idle => [captureLine s packet]
    | .awaiting stage tries =>
      match parse packet with
      | none => logUnparsableFrame s stage tries packet
      | some _ => []

/-- Everything that a reception logs. -/
def receptionLog (s : Setting) (w : Windows) : List LogLine :=
  (if s.frameLog then receiveLines s w ++ frameLines s (delivered s w) else []) ++
    listenerLines s (delivered s w)

/-- The text logged, up to checksums and error positions. -/
def visibleLog (s : Setting) (w : Windows) : List LogLine := (receptionLog s w).map LogLine.blur

end HomeIoControl.ReceptionLogs
