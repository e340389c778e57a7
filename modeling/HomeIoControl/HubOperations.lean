import HomeIoControl.DeviceRequests
import HomeIoControl.HubStatus

/-!
# The hub's operations

What the hub does to its devices: operations are queued behind a guard, taken from the queue one
at a time, and carried out by an exchange. A command begins to track its device; a failed poll is
tried again later. Log lines, events and notifications are left out.
-/

namespace HomeIoControl.HubOperations

open TracedPrograms OrderedMaps ProtocolFrames ProtocolCodecs DeviceModels DeviceRegistries
  DeviceRequests PendingOperations StatusPolls PairingResponder RadioLinks Exchanges HubStatus

def isBinaryEntityPosition (position : UInt8) : Bool :=
  position = binaryEntityOnPosition ∨ position = binaryEntityOffPosition

/-- `known_device_matches_entity_class`: a device of unknown type matches every class. -/
def knownDeviceMatchesEntityClass (expected : DeviceCapabilityClass) (dev : IoDevice) : Bool :=
  dev.type = .unknown ∨ deviceCapabilityClass dev.type = expected

def knownDeviceSupportsStatusRequests (dev : IoDevice) : Bool :=
  dev.type = .unknown ∨ deviceSupportsStatusRequests dev.type

def knownDeviceAcceptsExecutePosition (position : UInt8) (dev : IoDevice) : Bool :=
  if dev.type = .unknown then true
  else if deviceSupportsPositionControl dev.type then true
  else if deviceCapabilityClass dev.type = .light then position ≤ binaryEntityOffPosition
  else isBinaryEntityPosition position &&
    (deviceSupportsBinaryControl dev.type || deviceSupportsLockControl dev.type)

def knownDeviceAcceptsExecuteTilt (dev : IoDevice) : Bool :=
  dev.type ≠ .unknown ∧ deviceSupportsTilt dev.type

/-- What an exchange leaves: its outcome, the answer, and what the debug record says of it. -/
structure ExchangeReport where
  outcome : ExchangeOutcome
  response : IoFrame
  sawChallenge : Bool
  tries : UInt8

/-- What the hub asks of the radio, of the pairing engine and of its one-way controllers. -/
structure HubPorts (σ ε : Type) extends ReceivePorts σ ε where
  checkForPacket : Prog σ ε (Option RadioRxPacket)
  sendAndReceive : IoFrame → UInt32 → UInt8 → Prog σ ε ExchangeReport
  discoverAndPair : DeviceRegistry → Prog σ ε (Bool × DeviceRegistry)
  sendOneWay : PendingOperation → Prog σ ε Unit

/-- `record_exchange_timeout`: both counters saturate. -/
def recordExchangeTimeout (tries : UInt8) : DeviceUpdate where
  apply dev :=
    { dev with
      exchangeTimeoutCount :=
        if dev.exchangeTimeoutCount < 65535 then dev.exchangeTimeoutCount + 1
        else dev.exchangeTimeoutCount
      exchangeAttemptCount :=
        UInt16.ofNat (min (dev.exchangeAttemptCount.toNat + tries.toNat) 65535) }
  keepsNodeId _ := rfl

section

variable {σ ε : Type} (ports : HubPorts σ ε)

/-- `schedule_background_poll_backoff_`. -/
def scheduleBackgroundPollBackoff (deviceId : String) (authLike : Bool) (hub : Hub) :
    Prog σ ε Hub := do
  let now ← ports.millis
  pure { hub with pollPolicy := (hub.pollPolicy.onExchangeFailed deviceId authLike now).1 }

/-- The backoff of a request that the poll scheduler owns; any other has no retry delay. -/
def backOffIfScheduled (retryAfterFailMs : UInt32) (deviceId : String) (authLike : Bool)
    (hub : Hub) : Prog σ ε Hub :=
  if retryAfterFailMs ≠ 0 then scheduleBackgroundPollBackoff ports deviceId authLike hub
  else pure hub

def clearStreaksIfScheduled (retryAfterFailMs : UInt32) (deviceId : String) (hub : Hub) : Hub :=
  if retryAfterFailMs ≠ 0 then
    { hub with pollPolicy := hub.pollPolicy.clearFailureStreaks deviceId }
  else hub

/-- `update_link_health` of a device, if it is registered. -/
def stampLinkHealth (deviceId : String) (hub : Hub) : Prog σ ε Hub :=
  if (hub.registry.get deviceId).isNone then pure hub
  else do
    let now ← ports.millis
    let rssi ← ports.lastRssi
    pure (hub.updateDevice deviceId (updateLinkHealth now rssi))

/-- The refusal that `handle_error_response_` records of a registered device. -/
def recordRefusal (deviceId : String) (response : IoFrame) (hub : Hub) : Prog σ ε Hub :=
  if response.dataLen = 0 ∨ (hub.registry.get deviceId).isNone then pure hub
  else do
    let now ← ports.millis
    pure (hub.updateDevice deviceId (recordCommandResult (response.dataAt 0) now))

/-- Whether a request was carried out, whether the device challenged it, and the hub after it. -/
structure RequestResult where
  accepted : Bool
  sawChallenge : Bool
  hub : Hub

/-- The end of a request that was not answered. -/
def requestFailed (deviceId : String) (retryAfterFailMs : UInt32) (report : ExchangeReport)
    (hub : Hub) : Prog σ ε RequestResult := do
  let hub ← backOffIfScheduled ports retryAfterFailMs deviceId report.sawChallenge
    (hub.updateDevice deviceId (recordExchangeTimeout report.tries))
  pure ⟨false, report.sawChallenge, hub⟩

/-- The end of a command that the device authenticated without a reply. -/
def requestUnconfirmed (deviceId : String) (retryAfterFailMs : UInt32)
    (report : ExchangeReport) (hub : Hub) : Prog σ ε RequestResult := do
  let hub ← stampLinkHealth ports deviceId
    (clearStreaksIfScheduled retryAfterFailMs deviceId hub)
  pure ⟨true, report.sawChallenge, hub⟩

/-- `handle_error_response_`. -/
def handleErrorResponse (deviceId : String) (retryAfterFailMs : UInt32)
    (report : ExchangeReport) (hub : Hub) : Prog σ ε RequestResult := do
  let hub ← stampLinkHealth ports deviceId hub
  let hub ← recordRefusal ports deviceId report.response hub
  let hub ← backOffIfScheduled ports retryAfterFailMs deviceId report.sawChallenge hub
  pure ⟨false, report.sawChallenge, hub⟩

/-- The end of a request with a reply: the reply to a command does not tell the position. -/
def requestAnswered (deviceId : String) (request : IoFrame) (retryAfterFailMs : UInt32)
    (report : ExchangeReport) (hub : Hub) : Prog σ ε RequestResult := do
  let hub ← updateDeviceStatus ports.toReceivePorts report.response (request.cmd ≠ cmdExecute)
    (clearStreaksIfScheduled retryAfterFailMs deviceId hub)
  pure ⟨true, report.sawChallenge, hub⟩

/-- `execute_request_and_update_`. An accepted command needs no reply, a question does. -/
def executeRequestAndUpdate (deviceId : String) (request : IoFrame)
    (retryAfterFailMs : UInt32) (maxTries : UInt8) (hub : Hub) : Prog σ ε RequestResult := do
  let report ← ports.sendAndReceive request freqCh2 maxTries
  match report.outcome with
  | .failed => requestFailed ports deviceId retryAfterFailMs report hub
  | .successUnconfirmed =>
    if request.cmd = cmdExecute then
      requestUnconfirmed ports deviceId retryAfterFailMs report hub
    else requestFailed ports deviceId retryAfterFailMs report hub
  | .successWithResponse =>
    if report.response.cmd = cmdErrorResp then
      handleErrorResponse ports deviceId retryAfterFailMs report hub
    else requestAnswered ports deviceId request retryAfterFailMs report hub

/-- The parts in which the commands differ: how they settle, which devices take them, and the
frame, given the hub's address and the device. -/
structure ExecuteSpec where
  settleAsStop : Bool
  accepts : IoDevice → Bool
  build : NodeId → IoDevice → Option IoFrame

/-- `arm_execute_confirmation_poll_`: a poll that was due earlier stays. -/
def armExecuteConfirmationPoll (deviceId : String) (forStop : Bool) (hub : Hub) :
    Prog σ ε Hub := do
  let existing := hub.pollPolicy.getNextUpdate deviceId
  let delayMs := settleDelayMs (hub.pollPolicy.getInterval deviceId) 0 forStop
  let hub ← beginStatusPollTracking ports.toReceivePorts deviceId delayMs hub
  if existing = 0 then pure hub
  else do
    let now ← ports.millis
    pure (if existing < now + delayMs then
      { hub with pollPolicy := hub.pollPolicy.setNextUpdate deviceId existing } else hub)

/-- The exchange of `try_execute_operation_`, and the poll after it. -/
def sendCommand (deviceId : String) (settleAsStop : Bool) (request : IoFrame) (hub : Hub) :
    Prog σ ε (Bool × Hub) := do
  let result ← executeRequestAndUpdate ports deviceId request 0 (UInt8.ofNat exchangeRetryCount)
    hub
  if result.accepted then do
    let hub ← armExecuteConfirmationPoll ports deviceId settleAsStop result.hub
    pure (true, hub)
  else do
    let hub ← scheduleBackgroundPollBackoff ports deviceId result.sawChallenge result.hub
    pure (false, hub)

/-- `try_execute_operation_`. -/
def tryExecuteOperation (deviceId : String) (spec : ExecuteSpec) (hub : Hub) :
    Prog σ ε (Bool × Hub) :=
  match hub.registry.get deviceId with
  | none => pure (false, hub)
  | some dev =>
    if hub.initialized = false ∨ spec.accepts dev = false then pure (false, hub)
    else do
      let hub ← beginStatusPollTracking ports.toReceivePorts deviceId
        (hub.pollPolicy.getInterval deviceId) hub
      match spec.build hub.nodeId dev with
      | none => pure (false, { hub with pollPolicy := hub.pollPolicy.clear deviceId })
      | some request => sendCommand ports deviceId spec.settleAsStop request hub

/-- `run_execute_operation_`: a command that will not happen withdraws what was predicted. -/
def runExecuteOperation (deviceId : String) (spec : ExecuteSpec) (hub : Hub) :
    Prog σ ε (Bool × Hub) := do
  let result ← tryExecuteOperation ports deviceId spec hub
  pure (if result.1 then result else
    (false, { result.2 with registry := result.2.registry.rollbackOptimistic deviceId }))

def positionSpec (position : UInt8) : ExecuteSpec where
  settleAsStop := position = posStop
  accepts := knownDeviceAcceptsExecutePosition position
  build own dev := createExecutePosition own dev.nodeId dev.lowPower position dev.silent

def forceOpenWirePosition : UInt8 := 0
def forceOpenWirePositionInverted : UInt8 := 100

def commandSpec (cmd : CoverCommand) : ExecuteSpec where
  settleAsStop := cmd = .stop
  accepts := knownDeviceMatchesEntityClass .cover
  build own dev :=
    if cmd = .forceOpen then
      createForceOpen own dev.nodeId dev.lowPower
        (if dev.inverted then forceOpenWirePositionInverted else forceOpenWirePosition)
    else createExecuteCommand own dev.nodeId dev.lowPower cmd dev.silent

def tiltSpec (tiltPercent : UInt8) : ExecuteSpec where
  settleAsStop := false
  accepts := knownDeviceAcceptsExecuteTilt
  build own dev := createExecuteTilt own dev.nodeId dev.lowPower tiltPercent

def positionAndTiltSpec (position tiltPercent : UInt8) : ExecuteSpec where
  settleAsStop := false
  accepts := knownDeviceAcceptsExecuteTilt
  build own dev := createExecutePositionAndTilt own dev.nodeId dev.lowPower position tiltPercent

def setDevicePosition (deviceId : String) (position : UInt8) (hub : Hub) :
    Prog σ ε (Bool × Hub) :=
  if (hub.registry.get deviceId).isNone then pure (false, hub)
  else runExecuteOperation ports deviceId (positionSpec position) hub

/-- `execute_device_command_`. -/
def executeDeviceCommand (deviceId : String) (cmd : CoverCommand) (hub : Hub) :
    Prog σ ε (Bool × Hub) :=
  runExecuteOperation ports deviceId (commandSpec cmd) hub

def setDeviceTilt (deviceId : String) (tiltPercent : UInt8) (hub : Hub) :
    Prog σ ε (Bool × Hub) :=
  runExecuteOperation ports deviceId (tiltSpec tiltPercent) hub

def setDevicePositionAndTilt (deviceId : String) (position tiltPercent : UInt8) (hub : Hub) :
    Prog σ ε (Bool × Hub) :=
  runExecuteOperation ports deviceId (positionAndTiltSpec position tiltPercent) hub

/-- The binary entities and lights move their device as covers do, behind their own guard. -/
def setEntityPosition (expected : DeviceCapabilityClass) (deviceId : String) (position : UInt8)
    (hub : Hub) : Prog σ ε (Bool × Hub) :=
  match hub.registry.get deviceId with
  | none => pure (false, hub)
  | some dev =>
    if hub.initialized = false ∨ knownDeviceMatchesEntityClass expected dev = false then
      pure (false, hub)
    else setDevicePosition ports deviceId position hub

def setLightPosition (deviceId : String) (position : UInt8) : Hub → Prog σ ε (Bool × Hub) :=
  setEntityPosition ports .light deviceId position

def setSwitchState (deviceId : String) (on : Bool) : Hub → Prog σ ε (Bool × Hub) :=
  setEntityPosition ports .switch deviceId
    (if on then binaryEntityOnPosition else binaryEntityOffPosition)

def setLockState (deviceId : String) (locked : Bool) : Hub → Prog σ ε (Bool × Hub) :=
  setEntityPosition ports .lock deviceId
    (if locked then binaryEntityOffPosition else binaryEntityOnPosition)

/-- The status request that a device of this type answers in full. -/
def statusRequest (own : NodeId) (dev : IoDevice) : Option IoFrame :=
  if deviceSupportsTilt dev.type then createGetStatusTilt own dev.nodeId dev.lowPower
  else createGetStatus own dev.nodeId dev.lowPower

/-- `request_device_status`: a poll of a tracked device is tried once, its failure backs off. -/
def requestDeviceStatus (deviceId : String) (hub : Hub) : Prog σ ε (Bool × Hub) :=
  match hub.registry.get deviceId with
  | none => pure (false, hub)
  | some dev =>
    if hub.initialized = false ∨ knownDeviceSupportsStatusRequests dev = false then
      pure (false, hub)
    else
      match statusRequest hub.nodeId dev with
      | none => pure (false, hub)
      | some request => do
        let now ← ports.millis
        let schedulerManaged := hub.pollPolicy.isTrackingActive deviceId now
        let result ← executeRequestAndUpdate ports deviceId request
          (if schedulerManaged then statusRetryAfterFailMs else 0)
          (UInt8.ofNat (if schedulerManaged then scheduledPollMaxTries else exchangeRetryCount))
          hub
        pure (result.accepted, result.hub)

def requestDeviceName (deviceId : String) (hub : Hub) : Prog σ ε (Bool × Hub) :=
  match hub.registry.get deviceId with
  | none => pure (false, hub)
  | some dev =>
    if hub.initialized = false then pure (false, hub)
    else
      match createGetName hub.nodeId dev.nodeId dev.lowPower with
      | none => pure (false, hub)
      | some request => do
        let result ← executeRequestAndUpdate ports deviceId request 0
          (UInt8.ofNat exchangeRetryCount) hub
        pure (result.accepted, result.hub)

/-- `discover_and_pair`: what was paired is registered. -/
def discoverAndPair (hub : Hub) : Prog σ ε (Bool × Hub) :=
  if hub.initialized = false then pure (false, hub)
  else do
    let result ← ports.discoverAndPair hub.registry
    pure (result.1, { hub with registry := result.2 })

/-- `execute_oneway_`: the hub's own transmission counts as one-way activity. -/
def executeOneway (operation : PendingOperation) (hub : Hub) : Prog σ ε Hub := do
  ports.sendOneWay operation
  let now ← ports.millis
  pure (hub.record1wActivity now)

/-- The hub after an operation whose result nobody reads. -/
def ignoreResult (p : Prog σ ε (Bool × Hub)) : Prog σ ε Hub := do
  let result ← p
  pure result.2

/-- The dispatch of `process_pending_operation_`. -/
def dispatchOperation (op : PendingOperation) (hub : Hub) : Prog σ ε Hub :=
  match op.type with
  | .setPosition => ignoreResult (setDevicePosition ports op.deviceId op.position hub)
  | .setTilt => ignoreResult (setDeviceTilt ports op.deviceId op.position hub)
  | .setPositionAndTilt =>
    ignoreResult (setDevicePositionAndTilt ports op.deviceId op.position op.tilt hub)
  | .deviceCommand => ignoreResult (executeDeviceCommand ports op.deviceId op.command hub)
  | .setLightState => ignoreResult (setLightPosition ports op.deviceId op.position hub)
  | .setLockState =>
    ignoreResult (setLockState ports op.deviceId (op.position = binaryEntityOffPosition) hub)
  | .setSwitchState =>
    ignoreResult (setSwitchState ports op.deviceId (op.position = binaryEntityOnPosition) hub)
  | .onewayCommand => executeOneway ports op hub
  | .onewayPosition => executeOneway ports op hub
  | .onewayEnroll => executeOneway ports op hub
  | .onewayUnenroll => executeOneway ports op hub
  | .requestStatus => ignoreResult (requestDeviceStatus ports op.deviceId hub)
  | .requestName => ignoreResult (requestDeviceName ports op.deviceId hub)
  | .discoverAndPair => ignoreResult (discoverAndPair ports hub)

/-- `process_pending_operation_`: the operation leaves the queue before it is carried out. -/
def processPendingOperation (hub : Hub) : Prog σ ε Hub :=
  match hub.opQueue.pop with
  | (_, none) => pure hub
  | (opQueue, some op) => dispatchOperation ports op { hub with opQueue := opQueue }

end

/-- `queue_guard_rejects`: only a registered device can be of the wrong kind. -/
def queueGuardRejects (accepts : IoDevice → Bool) (deviceId : String) (hub : Hub) : Bool :=
  (hub.registry.get deviceId).any fun dev => !accepts dev

/-- Queue an operation unless its guard rejects the device. -/
def queueGuarded (accepts : IoDevice → Bool) (deviceId : String)
    (enqueue : OperationQueue → OperationQueue) (hub : Hub) : Hub :=
  if queueGuardRejects accepts deviceId hub then hub
  else { hub with opQueue := enqueue hub.opQueue }

/-- The cover's movements: a rejected one also withdraws what the cover predicted of it. -/
def queueMovement (accepts : IoDevice → Bool) (deviceId : String)
    (enqueue : OperationQueue → OperationQueue) (hub : Hub) : Hub :=
  if queueGuardRejects accepts deviceId hub then
    { hub with registry := hub.registry.rollbackOptimistic deviceId }
  else { hub with opQueue := enqueue hub.opQueue }

def queueSetDevicePosition (deviceId : String) (position : UInt8) : Hub → Hub :=
  queueMovement (knownDeviceMatchesEntityClass .cover) deviceId fun q =>
    (q.enqueueSetPosition deviceId position).1

def queueSetDeviceTilt (deviceId : String) (tiltPercent : UInt8) : Hub → Hub :=
  queueMovement knownDeviceAcceptsExecuteTilt deviceId fun q =>
    (q.enqueueSetTilt deviceId tiltPercent).1

def queueSetDevicePositionAndTilt (deviceId : String) (position tiltPercent : UInt8) :
    Hub → Hub :=
  queueMovement knownDeviceAcceptsExecuteTilt deviceId fun q =>
    q.enqueueSetPositionAndTilt deviceId position tiltPercent

/-- `queue_device_command`: unlike the other movements it does not take an unregistered device. -/
def queueDeviceCommand (deviceId : String) (cmd : CoverCommand) (hub : Hub) : Hub :=
  if hub.initialized = false ∨ (hub.registry.get deviceId).isNone ∨
      queueGuardRejects (knownDeviceMatchesEntityClass .cover) deviceId hub then
    { hub with registry := hub.registry.rollbackOptimistic deviceId }
  else { hub with opQueue := hub.opQueue.enqueueDeviceCommand deviceId cmd }

def queueRequestDeviceStatus (deviceId : String) : Hub → Hub :=
  queueGuarded knownDeviceSupportsStatusRequests deviceId fun q =>
    (q.enqueueRequestStatus deviceId).1

def queueRequestDeviceName (deviceId : String) (hub : Hub) : Hub :=
  if (hub.registry.get deviceId).isNone then hub
  else { hub with opQueue := (hub.opQueue.enqueueRequestName deviceId).1 }

def queueSetLightPosition (deviceId : String) (position : UInt8) : Hub → Hub :=
  queueGuarded (knownDeviceMatchesEntityClass .light) deviceId fun q =>
    q.enqueueSetLightPosition deviceId position

def queueSetLightState (deviceId : String) (on : Bool) : Hub → Hub :=
  queueSetLightPosition deviceId (if on then binaryEntityOnPosition else binaryEntityOffPosition)

def queueSetLockState (deviceId : String) (locked : Bool) : Hub → Hub :=
  queueGuarded (knownDeviceMatchesEntityClass .lock) deviceId fun q =>
    q.enqueueSetLockState deviceId locked

def queueSetSwitchState (deviceId : String) (on : Bool) : Hub → Hub :=
  queueGuarded (knownDeviceMatchesEntityClass .switch) deviceId fun q =>
    q.enqueueSetSwitchState deviceId on

def queueDiscoverAndPair (hub : Hub) : Hub :=
  { hub with opQueue := hub.opQueue.enqueueDiscoverAndPair.1 }

end HomeIoControl.HubOperations
