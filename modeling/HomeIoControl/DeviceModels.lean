import HomeIoControl.ProtocolFrames

/-!
# Device types and device records

What a device reports is kept apart from what the hub predicts: the observed fields of
`IoDevice` against its `OptimisticState`. Positions are in raw units, 512 to the percent.
-/

namespace HomeIoControl.DeviceModels

open ProtocolFrames

/-- A device type byte; values without a name may arrive over the air. -/
structure DeviceType where
  raw : UInt8
  deriving DecidableEq, Repr

namespace DeviceType

def unknown : DeviceType := ⟨0x00⟩
def venetianBlind : DeviceType := ⟨0x01⟩
def rollerShutter : DeviceType := ⟨0x02⟩
def awning : DeviceType := ⟨0x03⟩
def windowOpener : DeviceType := ⟨0x04⟩
def garageOpener : DeviceType := ⟨0x05⟩
def light : DeviceType := ⟨0x06⟩
def gateOpener : DeviceType := ⟨0x07⟩
def rollingDoorOpener : DeviceType := ⟨0x08⟩
def lock : DeviceType := ⟨0x09⟩
def blind : DeviceType := ⟨0x0A⟩
def screen : DeviceType := ⟨0x0B⟩
def beacon : DeviceType := ⟨0x0C⟩
def dualShutter : DeviceType := ⟨0x0D⟩
def heatingTemperatureInterface : DeviceType := ⟨0x0E⟩
def onOffSwitch : DeviceType := ⟨0x0F⟩
def horizontalAwning : DeviceType := ⟨0x10⟩
def externalVenetianBlind : DeviceType := ⟨0x11⟩
def louvreBlind : DeviceType := ⟨0x12⟩
def curtainTrack : DeviceType := ⟨0x13⟩
def ventilationPoint : DeviceType := ⟨0x14⟩
def exteriorHeating : DeviceType := ⟨0x15⟩
def heatPump : DeviceType := ⟨0x16⟩
def intrusionAlarm : DeviceType := ⟨0x17⟩
def swingingShutter : DeviceType := ⟨0x18⟩

end DeviceType

inductive DeviceCapabilityClass where
  | unknown
  | cover
  | light
  | switch
  | sensor
  | beacon
  | climate
  | lock
  deriving DecidableEq, Repr

/-- `device_capability_class`; a type without a name has no capability. -/
def deviceCapabilityClass (type : DeviceType) : DeviceCapabilityClass :=
  if type ∈ [DeviceType.venetianBlind, .rollerShutter, .screen, .awning, .windowOpener,
      .garageOpener, .gateOpener, .rollingDoorOpener, .blind, .dualShutter, .horizontalAwning,
      .externalVenetianBlind, .louvreBlind, .curtainTrack, .swingingShutter] then .cover
  else if type = .light then .light
  else if type = .onOffSwitch then .switch
  else if type = .lock then .lock
  else if type ∈ [DeviceType.heatingTemperatureInterface, .exteriorHeating, .heatPump] then
    .climate
  else if type = .ventilationPoint then .switch
  else if type = .beacon then .beacon
  else if type = .intrusionAlarm then .sensor
  else .unknown

def deviceSupportsPositionControl (type : DeviceType) : Bool :=
  deviceCapabilityClass type = .cover

def deviceSupportsBinaryControl (type : DeviceType) : Bool :=
  deviceCapabilityClass type = .light ∨ deviceCapabilityClass type = .switch

def deviceSupportsLockControl (type : DeviceType) : Bool :=
  deviceCapabilityClass type = .lock

def deviceSupportsStatusRequests (type : DeviceType) : Bool :=
  deviceSupportsPositionControl type || deviceSupportsBinaryControl type ||
    deviceSupportsLockControl type

def deviceSupportsTilt (type : DeviceType) : Bool :=
  type ∈ [DeviceType.venetianBlind, .blind, .externalVenetianBlind, .louvreBlind]

def defaultInvertedForType (type : DeviceType) : Bool := type = .horizontalAwning

def manufacturerSomfy : UInt8 := 2

def deviceSubtypeMask : UInt8 := 0x3F

/-- `encode_packed_device_type`: the two metadata bytes. -/
def encodePackedDeviceType (type : DeviceType) (subtype : UInt8) : UInt8 × UInt8 :=
  (type.raw >>> 2, (type.raw <<< 6) ||| (subtype &&& deviceSubtypeMask))

def decodePackedDeviceType (typeMsb typeSubtype : UInt8) : DeviceType :=
  ⟨(typeMsb <<< 2) ||| (typeSubtype >>> 6)⟩

def decodePackedDeviceSubtype (typeSubtype : UInt8) : UInt8 := typeSubtype &&& deviceSubtypeMask

/-- A position or slat angle in units of 1/512 percent. The source's single-precision values
`raw * 100 / 51200` are these numbers over 512, without rounding. -/
abbrev Position := ℕ

def positionScale : ℕ := 512
def statusPosMax : ℕ := 0xC800
def statusPosToleranceRaw : ℕ := 100

/-- The sentinel 212 percent. -/
def unknownPosition : Position := 212 * positionScale

/-- A whole percentage. -/
def percent (p : ℕ) : Position := p * positionScale

/-- `decode_position_report`: target and current position. -/
def decodePositionReport (targetRaw currentRaw : UInt16) (isStopped : Bool) :
    Position × Position :=
  let targetValid : Bool := targetRaw.toNat ≤ statusPosMax
  let currentValid : Bool := currentRaw.toNat ≤ statusPosMax
  let decodedCurrent := if currentValid then currentRaw.toNat else unknownPosition
  let target := if targetValid then targetRaw.toNat
    else if isStopped && currentValid then decodedCurrent else unknownPosition
  let position := if currentValid then decodedCurrent
    else if isStopped && targetValid then target else unknownPosition
  (target, position)

def hasReachedTargetPosition (target position : Position) : Bool :=
  target ≠ unknownPosition ∧ position ≠ unknownPosition ∧
    target ≤ position + statusPosToleranceRaw ∧ position ≤ target + statusPosToleranceRaw

def decodeTiltReport (tiltRaw : UInt16) : Position :=
  if tiltRaw.toNat > statusPosMax then unknownPosition else percent 100 - tiltRaw.toNat

inductive Motion where
  | none
  | moving
  | stopped
  deriving DecidableEq, Repr

/-- What the hub predicts ahead of a report. -/
structure OptimisticState where
  target : Position := unknownPosition
  tilt : Position := unknownPosition
  motion : Motion := .none
  deriving DecidableEq, Repr

namespace OptimisticState

def clearPosition (o : OptimisticState) : OptimisticState :=
  { o with target := unknownPosition, motion := .none }

def clearTilt (o : OptimisticState) : OptimisticState := { o with tilt := unknownPosition }

end OptimisticState

def rssiUnknownDbm : Int16 := -32768
def rssiEmaScale : ℤ := 8

/-- The record of one paired device. -/
structure IoDevice where
  nodeId : NodeId
  type : DeviceType := .unknown
  subtype : UInt8 := 0
  name : List UInt8 := []
  position : Position := unknownPosition
  tilt : Position := unknownPosition
  target : Position := unknownPosition
  isStopped : Bool := true
  inverted : Bool := false
  silent : Bool := false
  optimisticState : Bool := true
  lowPower : Bool := false
  dimmable : Bool := false
  lastResultCode : UInt8 := 0
  lastResultAtMs : UInt32 := 0
  lastStatus : UInt32 := 0
  lastRssiDbm : Int16 := rssiUnknownDbm
  rssiEmaScaled : Int16 := rssiUnknownDbm
  lastSeenMs : UInt32 := 0
  exchangeTimeoutCount : UInt16 := 0
  exchangeAttemptCount : UInt16 := 0
  optimistic : OptimisticState := {}
  deriving DecidableEq, Repr

namespace IoDevice

def effectiveTarget (dev : IoDevice) : Position :=
  if dev.optimistic.target ≠ unknownPosition then dev.optimistic.target else dev.target

def effectiveIsStopped (dev : IoDevice) : Bool :=
  match dev.optimistic.motion with
  | .moving => false
  | .stopped => true
  | .none => dev.isStopped

end IoDevice

end HomeIoControl.DeviceModels
