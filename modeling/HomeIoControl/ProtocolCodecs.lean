import HomeIoControl.ProtocolCommands
import Mathlib.Data.List.DropRight

/-!
# Decoding names, broadcast addresses and one-way frames

What the hub reads out of payloads and addresses. Nothing here keeps state.
-/

namespace HomeIoControl.ProtocolCodecs

open ProtocolFrames ProtocolCrypto DeviceModels ProtocolCommands

def deviceNameBufferSize : ℕ := 32
def namePaddingNul : UInt8 := 0x00
def namePaddingSpace : UInt8 := 0x20

/-- The UTF-8 bytes of one Latin-1 character. -/
def latin1CharToUtf8 (byte : UInt8) : List UInt8 :=
  if byte < 0x80 then [byte] else [(byte >>> 6) ||| 0xC0, (byte &&& 0x3F) ||| 0x80]

/-- `latin1_to_utf8`: the conversion stops at the first character the name buffer has no room
for, its terminator included. -/
def latin1ToUtf8 (result : List UInt8) : List UInt8 → List UInt8
  | [] => result
  | byte :: rest =>
    if result.length + (latin1CharToUtf8 byte).length ≥ deviceNameBufferSize then result
    else latin1ToUtf8 (result ++ latin1CharToUtf8 byte) rest

/-- `decode_device_name_payload`: a first byte that is no text is skipped, padding at the end is
dropped. -/
def decodeDeviceNamePayload (data : List UInt8) : List UInt8 :=
  match data with
  | [] => []
  | first :: rest =>
    let raw := if first > namePaddingSpace then first :: rest else rest
    latin1ToUtf8 [] (raw.rdropWhile fun byte => byte = namePaddingNul ∨ byte = namePaddingSpace)

def addressSuffixMask : UInt8 := 0x3F
def addressSuffixBroadcast : UInt8 := 0x3F
def addressSuffixDiscovery : UInt8 := 0x3B

inductive AddressClass where
  | unicast
  | broadcastAll
  | broadcastType
  | discovery
  | unknownBroadcast
  deriving DecidableEq, Repr

def classifyAddress (addr : NodeId) : AddressClass :=
  let suffix := addr.b2 &&& addressSuffixMask
  let hasTypeBits : Bool := addr.b1 ≠ 0 ∨ addr.b2 &&& 0xC0 ≠ 0
  if addr.b0 ≠ 0 then .unicast
  else if suffix = addressSuffixDiscovery then .discovery
  else if hasTypeBits then .broadcastType
  else if suffix = addressSuffixBroadcast then .broadcastAll
  else if addr.b1 = 0 ∧ addr.b2 = 0 then .broadcastAll
  else .unknownBroadcast

/-- `broadcast_target_type`: the type bits, when they name a type. -/
def broadcastTargetType (addr : NodeId) : DeviceType :=
  let typeRaw := addr.b1.toNat * 4 + addr.b2.toNat / 64
  if addr.b0 ≠ 0 then .unknown
  else if typeRaw > DeviceType.swingingShutter.raw.toNat then .unknown
  else ⟨UInt8.ofNat typeRaw⟩

def posForceOpen : UInt8 := 0x64
def posSecuredTarget : UInt8 := 0xD1
def posStop : UInt8 := 0xD2
def posDefault : UInt8 := 0xD3
def posUnknown : UInt8 := 0xD4
def posFavorite : UInt8 := 0xD8
def positionWireScale : UInt8 := 2
def statusTiltSelector : UInt8 := 0x20
def positionWireMax : UInt8 := 200
def onewayExecuteMinDataLen : ℕ := 4
def aceiLevelMask : UInt8 := 0xE0

/-- `oneway_intent_to_target`: the position a command asks for, when it asks for one. -/
def onewayIntentToTarget (main0 : UInt8) : Option Position :=
  if main0 ∈ [posStop, posFavorite, posUnknown, posForceOpen, posSecuredTarget, posDefault] then
    none
  else if main0 ≤ positionWireMax then some (percent (main0 / positionWireScale).toNat)
  else none

/-- A decoded one-way frame. The intent bytes are zero unless `hasIntent`. -/
structure OneWayFrameInfo where
  src : NodeId
  addressClass : AddressClass
  targetType : DeviceType
  cmd : UInt8
  hasIntent : Bool := false
  originator : UInt8 := 0
  aceiLevel : UInt8 := 0
  main0 : UInt8 := 0
  main1 : UInt8 := 0
  dataLen : ℕ
  deriving DecidableEq, Repr

def decode1wFrame (frame : IoFrame) : OneWayFrameInfo :=
  let info : OneWayFrameInfo :=
    { src := frame.src
      addressClass := classifyAddress frame.dst
      targetType := broadcastTargetType frame.dst
      cmd := frame.cmd
      dataLen := frame.dataLen }
  if (frame.cmd = cmdExecute ∨ frame.cmd = cmdActivateMode) ∧
      onewayExecuteMinDataLen ≤ frame.dataLen then
    { info with
      hasIntent := true
      originator := frame.dataAt 0
      aceiLevel := (frame.dataAt 1 &&& aceiLevelMask) >>> 5
      main0 := frame.dataAt 2
      main1 := frame.dataAt 3 }
  else info

def onewayAddControllerPayloadSize : ℕ := 20

inductive OneWayMacStatus where
  | notPresent
  | verified
  | failed
  deriving DecidableEq, Repr

inductive OneWayAddControllerDecodeError where
  | notOneway
  | wrongCommand
  | badLength
  deriving DecidableEq, Repr

/-- The controller identity recovered from an overheard add-controller frame. -/
structure OneWayAdoptedKey where
  systemKey : Block
  manufacturer : UInt8
  senderNode : NodeId
  sequence : UInt16
  macStatus : OneWayMacStatus
  deriving DecidableEq

/-- `decode_1w_add_controller`. The trailer, when there is one, is verified under the recovered
key, over the command and the wrapped key. -/
def decode1wAddController (frame : IoFrame) :
    Except OneWayAddControllerDecodeError OneWayAdoptedKey :=
  if is1w frame = false then .error .notOneway
  else if frame.cmd ≠ cmdOnewayAddController then .error .wrongCommand
  else if frame.dataLen ≠ onewayAddControllerPayloadSize then .error .badLength
  else
    let encKey := payloadPrefix frame 16
    let systemKey := crypt1wKey frame.src encKey
    let sequence := (frame.dataAt 18).toUInt16 <<< 8 ||| (frame.dataAt 19).toUInt16
    .ok
      { systemKey := systemKey
        manufacturer := frame.dataAt 16
        senderNode := frame.src
        sequence := sequence
        macStatus :=
          match frame.mac with
          | none => .notPresent
          | some mac =>
            if mac = create1wHmac (frame.cmd :: encKey.toList) sequence systemKey then .verified
            else .failed }

end HomeIoControl.ProtocolCodecs
