import HomeIoControl.DeviceRegistries
import HomeIoControl.FrameLogLines
import HomeIoControl.PairingEngine

/-!
# The record of a pairing attempt

A pairing attempt records what it sends and hears, up to a fixed number of events, and counts the
rest. When it ends, the record is searched for a reason why it failed, and a sensor shows it in
one line.
-/

namespace HomeIoControl.PairingTelemetry

open ProtocolFrames ProtocolCommands DeviceModels DeviceRegistries
open FrameLogLines (unsignedText)
open ReceptionLogs (cmdOnewayRemove)

def pairingTelemetryMaxEvents : ℕ := 32
def counterSaturationMax : UInt8 := 0xFF
def lbtMaxRetries : UInt8 := 5
def pairingAdviceMax : ℕ := 4
def resultSensorStringBufferSize : ℕ := 256

/-- `PairingState`. -/
inductive PairingState where
  | idle
  | txDiscover
  | waitDiscoverResponse
  | txKeyInit
  | waitKeyChallenge
  | txKeyTransfer
  | waitKeyConfirm
  | registerDevice
  | complete
  | failed
  deriving DecidableEq

namespace PairingState

/-- The value of the enumeration. -/
def code : PairingState → UInt8
  | idle => 0
  | txDiscover => 1
  | waitDiscoverResponse => 2
  | txKeyInit => 3
  | waitKeyChallenge => 4
  | txKeyTransfer => 5
  | waitKeyConfirm => 6
  | registerDevice => 7
  | complete => 8
  | failed => 9

/-- `pairing_stage_name`. -/
def stageName : PairingState → String
  | idle => "idle"
  | txDiscover => "tx_discover"
  | waitDiscoverResponse => "wait_discover_response"
  | txKeyInit => "tx_key_init"
  | waitKeyChallenge => "wait_key_challenge"
  | txKeyTransfer => "tx_key_transfer"
  | waitKeyConfirm => "wait_key_confirm"
  | registerDevice => "register_device"
  | complete => "complete"
  | failed => "failed"

end PairingState

/-- `PairingTelemetryEventKind`. -/
inductive EventKind where
  | tx
  | rx
  | rxReject
  | lbtDefer
  | hop
  | phase
  deriving DecidableEq

def isRxKind (kind : EventKind) : Bool := kind = .rx ∨ kind = .rxReject

def zeroNodeId : NodeId := ⟨0, 0, 0⟩

/-- `PairingTelemetryEvent`. -/
structure TelemetryEvent where
  millisOffset : UInt32 := 0
  kind : EventKind := .phase
  cmd : UInt8 := 0
  srcNode : NodeId := zeroNodeId
  dstNode : NodeId := zeroNodeId
  rssi : Int16 := 0
  aux : UInt8 := 0
  oneway : Bool := false

/-- `PairingOutcome`. -/
inductive PairingOutcome where
  | none
  | paired
  | noResponse
  | invalidResponse
  | keyExchangeFailed
  | configFailed
  deriving DecidableEq

namespace PairingOutcome

/-- `outcome_name`. -/
def name : PairingOutcome → String
  | paired => "paired"
  | noResponse => "no_response"
  | invalidResponse => "invalid_response"
  | keyExchangeFailed => "key_exchange_failed"
  | configFailed => "config_failed"
  | none => "none"

end PairingOutcome

/-- `PairingTelemetry`, its events no more than fit. -/
structure Telemetry where
  events : List TelemetryEvent := []
  fits : events.length ≤ pairingTelemetryMaxEvents
  heardCount : UInt16 := 0
  truncated : Bool := false
  startMs : UInt32
  endMs : UInt32
  ended : Bool := false
  phase : PairingState := .idle
  outcome : PairingOutcome := .none
  discoveryAttempts : UInt8 := 0
  lbtRetries : UInt8 := 0
  pairedDevice : Option (NodeId × DeviceType) := Option.none
  adviceCodes : List Char := []

/-- What is told to the record. -/
inductive Observation where
  | tx (cmd : UInt8)
  | rx (frame : IoFrame) (rssi : Int16)
  | rxReject (frame : IoFrame) (rssi : Int16)
  | lbtDefer (rssi : Int16)
  | hop
  | phase (state : PairingState)
  | discoveryAttempt
  | paired (nodeId : NodeId) (type : DeviceType)

/-- A counter of one byte that does not wrap. -/
def saturatingSucc (n : UInt8) : UInt8 := if n < counterSaturationMax then n + 1 else n

/-- The event of a frame that was heard. -/
def frameEvent (kind : EventKind) (frame : IoFrame) (rssi : Int16) : TelemetryEvent :=
  { kind, cmd := frame.cmd, srcNode := frame.src, dstNode := frame.dst, rssi, oneway := is1w frame }

namespace Telemetry

/-- `begin`. -/
def start (now : UInt32) : Telemetry where
  fits := Nat.zero_le _
  startMs := now
  endMs := now

/-- `record_`: what does not fit is counted if it was heard. -/
def record (t : Telemetry) (now : UInt32) (event : TelemetryEvent) : Telemetry :=
  let heardCount :=
    if isRxKind event.kind ∧ t.heardCount < 65535 then t.heardCount + 1 else t.heardCount
  if h : t.events.length < pairingTelemetryMaxEvents then
    { t with
      heardCount := heardCount
      events := t.events ++ [{ event with millisOffset := now - t.startMs }]
      fits := by
        rw [List.length_append]
        exact h }
  else { t with heardCount := heardCount, truncated := true }

def observe (t : Telemetry) (now : UInt32) : Observation → Telemetry
  | .tx cmd => t.record now { kind := .tx, cmd }
  | .rx frame rssi => t.record now (frameEvent .rx frame rssi)
  | .rxReject frame rssi => t.record now (frameEvent .rxReject frame rssi)
  | .lbtDefer rssi =>
    let lbtRetries := saturatingSucc t.lbtRetries
    { t with lbtRetries }.record now { kind := .lbtDefer, rssi, aux := lbtRetries }
  | .hop => t.record now { kind := .hop }
  | .phase state =>
    { t with phase := state }.record now { kind := .phase, aux := state.code }
  | .discoveryAttempt => { t with discoveryAttempts := saturatingSucc t.discoveryAttempts }
  | .paired nodeId type => { t with pairedDevice := some (nodeId, type) }

def setOutcome (t : Telemetry) (now : UInt32) (outcome : PairingOutcome) : Telemetry :=
  { t with outcome, endMs := now, ended := true }

def durationMs (t : Telemetry) (now : UInt32) : UInt32 :=
  (if t.ended then t.endMs else now) - t.startMs

end Telemetry

inductive AdviceCode where
  | none
  | oneWayPairingTraffic
  | channelBusyLbtDelayed
  | foreignControllerPairing
  | rfSilent
  deriving DecidableEq

/-- `pairing_advice_code_name`. -/
def AdviceCode.name : AdviceCode → String
  | oneWayPairingTraffic => "1w_traffic"
  | channelBusyLbtDelayed => "channel_busy"
  | foreignControllerPairing => "foreign_controller"
  | rfSilent => "rf_silent"
  | none => "none"

structure PairingAdvice where
  code : AdviceCode := .none
  subjectNode : NodeId := zeroNodeId
  rssi : Int16 := 0

/-- The advice about the sender of an event. -/
def adviceAbout (code : AdviceCode) (event : TelemetryEvent) : PairingAdvice :=
  ⟨code, event.srcNode, event.rssi⟩

def isOnewayPairingFrame (event : TelemetryEvent) : Bool :=
  event.oneway && event.dstNode = broadcastDiscoverAlt &&
    (event.cmd = cmdWritePrivate || event.cmd = cmdOnewayRemove || event.cmd = cmdDiscoverAltReq)

def countOccurrencesOfSource (events : List TelemetryEvent) (srcNode : NodeId) : ℕ :=
  events.countP fun event => isRxKind event.kind && event.srcNode = srcNode

/-- The common part of the rules: advice about the first event that gives reason to it. -/
def appendAdvice (code : AdviceCode) (applies : TelemetryEvent → Bool)
    (events : List TelemetryEvent) (out : List PairingAdvice) : List PairingAdvice :=
  if pairingAdviceMax ≤ out.length then out
  else
    match events.find? fun event => isRxKind event.kind && applies event with
    | none => out
    | some event => out ++ [adviceAbout code event]

def appendOneWayPairingAdvice (events : List TelemetryEvent) :
    List PairingAdvice → List PairingAdvice :=
  appendAdvice .oneWayPairingTraffic isOnewayPairingFrame events

def appendChannelBusyAdvice (lbtRetries : UInt8) (events : List TelemetryEvent)
    (out : List PairingAdvice) : List PairingAdvice :=
  if lbtRetries < lbtMaxRetries then out
  else
    appendAdvice .channelBusyLbtDelayed
      (fun event => 2 ≤ countOccurrencesOfSource events event.srcNode) events out

def appendForeignControllerAdvice (ownNodeId : NodeId) (events : List TelemetryEvent)
    (out : List PairingAdvice) : List PairingAdvice :=
  if ownNodeId = zeroNodeId then out
  else
    appendAdvice .foreignControllerPairing
      (fun event => event.cmd = cmdDiscoverResp && event.dstNode ≠ ownNodeId) events out

/-- `analyze_pairing_telemetry`. -/
def analyzePairingTelemetry (t : Telemetry) (ownNodeId : NodeId) : List PairingAdvice :=
  let out := appendForeignControllerAdvice ownNodeId t.events
    (appendChannelBusyAdvice t.lbtRetries t.events (appendOneWayPairingAdvice t.events []))
  if out.length = 0 ∧ t.heardCount = 0 ∧ out.length < pairingAdviceMax then
    out ++ [{ code := .rfSilent }]
  else out

/-- `finish_pairing_attempt_`. -/
def finishPairingAttempt (t : Telemetry) (now : UInt32) (outcome : PairingOutcome)
    (ownNodeId : NodeId) : Telemetry :=
  { t.setOutcome now outcome with
    adviceCodes := List.intercalate [',']
      ((analyzePairingTelemetry (t.setOutcome now outcome) ownNodeId).map fun advice =>
        advice.code.name.toList) }

def deviceTypeNames : List (DeviceType × String) :=
  [(.unknown, "unknown"), (.venetianBlind, "venetian_blind"), (.rollerShutter, "roller_shutter"),
    (.screen, "screen"), (.awning, "awning"), (.windowOpener, "window_opener"),
    (.garageOpener, "garage_opener"), (.light, "light"), (.gateOpener, "gate_opener"),
    (.rollingDoorOpener, "rolling_door_opener"), (.blind, "blind"),
    (.dualShutter, "dual_shutter"), (.onOffSwitch, "on_off_switch"),
    (.horizontalAwning, "horizontal_awning"),
    (.externalVenetianBlind, "external_venetian_blind"), (.louvreBlind, "louvre_blind"),
    (.curtainTrack, "curtain_track"), (.swingingShutter, "swinging_shutter"), (.lock, "lock"),
    (.beacon, "beacon"), (.heatingTemperatureInterface, "heating_temperature_interface"),
    (.ventilationPoint, "ventilation_point"), (.exteriorHeating, "exterior_heating"),
    (.heatPump, "heat_pump"), (.intrusionAlarm, "intrusion_alarm")]

/-- `device_type_name`. -/
def deviceTypeName (type : DeviceType) : String := (deviceTypeNames.lookup type).getD "unknown"

def nodeText (t : Telemetry) : List Char :=
  match t.pairedDevice with
  | none => ['-']
  | some (nodeId, _) => (nodeIdToString nodeId).toList

def typeText (t : Telemetry) : List Char :=
  match t.pairedDevice with
  | none => ['-']
  | some (_, type) => (deviceTypeName type).toList

def adviceText (t : Telemetry) : List Char :=
  if t.adviceCodes = [] then "none".toList else t.adviceCodes

/-- The values of the sensor's line, in order. -/
def resultValues (t : Telemetry) (now : UInt32) : List (List Char) :=
  [t.outcome.name.toList, t.phase.stageName.toList, nodeText t, typeText t,
    unsignedText t.discoveryAttempts.toNat, unsignedText t.lbtRetries.toNat,
    unsignedText (t.durationMs now).toNat, unsignedText t.heardCount.toNat, adviceText t]

def resultKeys : List (List Char) :=
  [" outcome=".toList, " phase=".toList, " node=".toList, " type=".toList, " attempts=".toList,
    " lbt=".toList, " dur_ms=".toList, " heard=".toList, " advice=".toList]

/-- The line before it is cut to the buffer. -/
def resultLine (t : Telemetry) (now : UInt32) : List Char :=
  List.intercalate [';'] ("v1".toList :: List.zipWith (· ++ ·) resultKeys (resultValues t now))

/-- `result_sensor_string`. -/
def resultSensorString (t : Telemetry) (now : UInt32) : List Char :=
  (resultLine t now).take (resultSensorStringBufferSize - 1)

end HomeIoControl.PairingTelemetry
