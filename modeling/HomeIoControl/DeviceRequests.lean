import HomeIoControl.ProtocolCodecs
import HomeIoControl.PendingOperations

/-!
# Requests to a device

The frames by which the hub moves a device and asks for its status and its name. All are start
frames between the hub and one device, and only the payload tells them apart.
-/

namespace HomeIoControl.DeviceRequests

open ProtocolFrames ProtocolCommands ProtocolCodecs DeviceModels PendingOperations

def executeOriginator : UInt8 := 0x01
def executeAcei : UInt8 := 0x63
def executeAceiForceOpen : UInt8 := 0x03
def executePositionLayoutFlag : UInt8 := 0x80
def executePositionProfile : UInt8 := 0x06
def executeProfileSilent : UInt8 := 0x05
def posVentModifier : UInt8 := 0x03
def positionPercentMax : UInt8 := 100
def privateGetPositionStatus : UInt8 := 0x03

/-- The common frame of the requests. -/
def createRequest (own dst : NodeId) (lowPower : Bool) (cmd : UInt8) (payload : List UInt8) :
    Option IoFrame :=
  buildFrame true false lowPower dst own cmd payload

/-- A request between the hub and one device, with the given command. -/
def IsRequest (own dst : NodeId) (cmd : UInt8) (request : IoFrame) : Prop :=
  request.dst = dst ∧ request.src = own ∧ request.cmd = cmd

theorem createRequest_isRequest {own dst : NodeId} {lowPower : Bool} {cmd : UInt8}
    {payload : List UInt8} {request : IoFrame}
    (h : createRequest own dst lowPower cmd payload = some request) :
    IsRequest own dst cmd request := by
  obtain ⟨hdst, hsrc, hcmd, -⟩ := buildFrame_fields h
  exact ⟨hdst, hsrc, hcmd⟩

/-- `make_position_payload`. -/
def makePositionPayload (acei position : UInt8) (silent : Bool) : List UInt8 :=
  [executeOriginator, acei, positionWireScale * position, 0x00, executePositionLayoutFlag,
    posFavorite, if silent then executeProfileSilent else executePositionProfile, 0x00]

def createExecutePosition (own dst : NodeId) (lowPower : Bool) (position : UInt8)
    (silent : Bool) : Option IoFrame :=
  if position > positionPercentMax then none
  else createRequest own dst lowPower cmdExecute (makePositionPayload executeAcei position silent)

/-- The main byte and modifier of a named command; forcing a device open has none. -/
def commandBytes : CoverCommand → Option (UInt8 × UInt8)
  | .stop => some (posStop, 0x00)
  | .favorite => some (posFavorite, 0x00)
  | .vent => some (posFavorite, posVentModifier)
  | .forceOpen => none

def createExecuteCommand (own dst : NodeId) (lowPower : Bool) (cmd : CoverCommand)
    (silent : Bool) : Option IoFrame :=
  match commandBytes cmd with
  | none => none
  | some (main, modifier) =>
    createRequest own dst lowPower cmdExecute
      (if silent ∧ cmd = .favorite then
        [executeOriginator, executeAcei, main, modifier, executePositionLayoutFlag, posFavorite,
          executeProfileSilent, 0x00]
      else [executeOriginator, executeAcei, main, modifier, 0x00, 0x00])

/-- `create_force_open`: a position at the highest priority. -/
def createForceOpen (own dst : NodeId) (lowPower : Bool) (openPosition : UInt8) :
    Option IoFrame :=
  createRequest own dst lowPower cmdExecute
    (makePositionPayload executeAceiForceOpen openPosition false)

/-- The payload of a tilt, beside a main byte. Percentages above the maximum wrap as the source's
conversion to 16 bits does. -/
def makeTiltPayload (main tiltPercent : UInt8) : List UInt8 :=
  let tiltValue := UInt16.ofInt
    (Int.tdiv ((positionPercentMax.toNat - tiltPercent.toNat : ℤ) * statusPosMax)
      positionPercentMax.toNat)
  [executeOriginator, executeAcei, main, 0x00, statusTiltSelector, (tiltValue >>> 8).toUInt8,
    tiltValue.toUInt8, 0x00]

def createExecuteTilt (own dst : NodeId) (lowPower : Bool) (tiltPercent : UInt8) :
    Option IoFrame :=
  createRequest own dst lowPower cmdExecute (makeTiltPayload posUnknown tiltPercent)

def createExecutePositionAndTilt (own dst : NodeId) (lowPower : Bool)
    (position tiltPercent : UInt8) : Option IoFrame :=
  if position > positionPercentMax then none
  else createRequest own dst lowPower cmdExecute (makeTiltPayload (2 * position) tiltPercent)

/-- `create_get_status`: the private function that reads the position. -/
def createGetStatus (own dst : NodeId) (lowPower : Bool) : Option IoFrame :=
  createRequest own dst lowPower cmdPrivate [privateGetPositionStatus, 0x00, 0x00]

/-- `create_get_status_tilt`: its extended form, whose reply has the slat angle. -/
def createGetStatusTilt (own dst : NodeId) (lowPower : Bool) : Option IoFrame :=
  createRequest own dst lowPower cmdPrivate
    [privateGetPositionStatus, statusTiltSelector, 0x01, 0x00]

def createGetName (own dst : NodeId) (lowPower : Bool) : Option IoFrame :=
  createRequest own dst lowPower cmdGetName []

end HomeIoControl.DeviceRequests
