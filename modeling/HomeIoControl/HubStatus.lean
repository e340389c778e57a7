import HomeIoControl.ProtocolCodecs
import HomeIoControl.DeviceRegistries
import HomeIoControl.PendingOperations
import HomeIoControl.StatusPolls
import HomeIoControl.PairingResponder
import HomeIoControl.Exchanges

/-!
# The hub's receive path

How a received packet is taken apart: the responder's frames, overheard one-way frames, status
updates of a device, and traffic that only says that a device may have moved. Of what the hub
logs and fires only the line and the event of a one-way sender are here.
-/

namespace HomeIoControl.HubStatus

open TracedPrograms OrderedMaps ProtocolFrames ProtocolCrypto ProtocolCommands ProtocolCodecs
  DeviceModels DeviceRegistries PendingOperations StatusPolls PairingResponder RadioLinks
  Exchanges

def privateResponseMinDataLen : ℕ := 6
def statusUpdateMinDataLen : ℕ := 11
def getNameResponseMinDataLen : ℕ := 1
def getInfo2ResponseMinDataLen : ℕ := 12
def errorResponseMinDataLen : ℕ := 1
def extendedTiltResponseMinDataLen : ℕ := 15
def privateResponseDelayHintOffset : ℕ := 7
def privateResponseTargetOffset : ℕ := 2
def privateResponseCurrentOffset : ℕ := 4
def statusUpdateTargetOffset : ℕ := 5
def statusUpdateCurrentOffset : ℕ := 7
def getInfo2TypeOffset : ℕ := 10
def extendedTiltSelectorOffset : ℕ := 12
def extendedTiltMsbOffset : ℕ := 13
def privateResponseHintUnused : UInt8 := 0xFF
def privateResponseHintZero : UInt8 := 0x00
def privateResponseHintScaleMs : UInt32 := 1000
def privateResponseHintBiasMs : UInt32 := 1000
def statusStopped : UInt8 := 0x01
def onewayDedupWindowMs : UInt32 := 2000
def onewayQuietPeriodMs : UInt32 := 700
def onewayPollDeferCapMs : UInt32 := 5000

/-- An update of a device record; none changes the address. -/
structure DeviceUpdate where
  apply : IoDevice → IoDevice
  keepsNodeId : ∀ dev, (apply dev).nodeId = dev.nodeId

def DeviceUpdate.andThen (u v : DeviceUpdate) : DeviceUpdate :=
  ⟨fun dev => v.apply (u.apply dev), fun dev => by rw [v.keepsNodeId, u.keepsNodeId]⟩

/-- A big-endian 16-bit field of a payload. -/
def wordAt (frame : IoFrame) (offset : ℕ) : UInt16 :=
  (frame.dataAt offset).toUInt16 <<< 8 ||| (frame.dataAt (offset + 1)).toUInt16

/-- `rssi_scaled_to_dbm`: half away from zero. -/
def rssiScaledToDbm (scaled : Int16) : Int16 :=
  let half : ℤ := rssiEmaScale / 2
  Int16.ofInt (Int.tdiv (scaled.toInt + if 0 ≤ scaled.toInt then half else -half) rssiEmaScale)

/-- `update_link_health`, with the clock and the signal strength of a valid capture. -/
def updateLinkHealth (now : UInt32) (rssi : Option Int16) : DeviceUpdate where
  apply dev :=
    let dev := { dev with lastSeenMs := now }
    match rssi with
    | none => dev
    | some rssi =>
      { dev with
        lastRssiDbm := rssi
        rssiEmaScaled :=
          if dev.rssiEmaScaled = rssiUnknownDbm then Int16.ofInt (rssi.toInt * rssiEmaScale)
          else Int16.ofInt (dev.rssiEmaScaled.toInt + rssi.toInt -
            (rssiScaledToDbm dev.rssiEmaScaled).toInt) }
  keepsNodeId dev := by cases rssi <;> rfl

/-- `normalize_stopped_state`: stopped is not believed before the positions agree. -/
def normalizeStoppedState (dev : IoDevice) : IoDevice :=
  if dev.isStopped ∧ dev.target ≠ unknownPosition ∧ dev.position ≠ unknownPosition ∧
      hasReachedTargetPosition dev.target dev.position = false then
    { dev with isStopped := false }
  else dev

/-- The positions of `decode_status_fields`: a decoded position withdraws its prediction. -/
def decodePositions (frame : IoFrame) (targetOffset currentOffset : ℕ) (dev : IoDevice) :
    IoDevice :=
  let report := decodePositionReport (wordAt frame targetOffset) (wordAt frame currentOffset)
    dev.isStopped
  let dev := normalizeStoppedState { dev with target := report.1, position := report.2 }
  { dev with optimistic := dev.optimistic.clearPosition }

/-- The slat angle of `decode_status_fields`, in the extended reply of a device that tilts. -/
def decodeExtendedTilt (frame : IoFrame) (dev : IoDevice) : IoDevice :=
  if deviceSupportsTilt dev.type ∧ extendedTiltResponseMinDataLen ≤ frame.dataLen ∧
      frame.dataAt extendedTiltSelectorOffset = statusTiltSelector then
    { dev with
      tilt := decodeTiltReport (wordAt frame extendedTiltMsbOffset)
      optimistic := dev.optimistic.clearTilt }
  else dev

def decodeStatusFields (frame : IoFrame) (targetOffset currentOffset : ℕ)
    (allowTiltFromExtendedResponse : Bool) (dev : IoDevice) : IoDevice :=
  let dev := decodePositions frame targetOffset currentOffset dev
  if allowTiltFromExtendedResponse then decodeExtendedTilt frame dev else dev

/-- The stopped flag and the time of a status, before its positions are decoded. -/
def stampStatus (frame : IoFrame) (now : UInt32) (dev : IoDevice) : IoDevice :=
  { dev with isStopped := frame.dataAt 0 &&& statusStopped ≠ 0, lastStatus := now }

private theorem normalizeStoppedState_nodeId (dev : IoDevice) :
    (normalizeStoppedState dev).nodeId = dev.nodeId := by
  unfold normalizeStoppedState
  split_ifs <;> rfl

private theorem decodeExtendedTilt_nodeId (frame : IoFrame) (dev : IoDevice) :
    (decodeExtendedTilt frame dev).nodeId = dev.nodeId := by
  unfold decodeExtendedTilt
  split_ifs <;> rfl

private theorem decodeStatusFields_nodeId (frame : IoFrame) (targetOffset currentOffset : ℕ)
    (allow : Bool) (dev : IoDevice) :
    (decodeStatusFields frame targetOffset currentOffset allow dev).nodeId = dev.nodeId := by
  have hpositions : (decodePositions frame targetOffset currentOffset dev).nodeId = dev.nodeId :=
    normalizeStoppedState_nodeId _
  cases allow with
  | false => exact hpositions
  | true => exact (decodeExtendedTilt_nodeId frame _).trans hpositions

/-- The record after `apply_private_response_status`. The reply to a command echoes positions
from before it, so these are then not trusted. -/
def applyPrivateResponseStatus (frame : IoFrame) (trustPosition : Bool) (now : UInt32) :
    DeviceUpdate where
  apply dev :=
    let dev := stampStatus frame now dev
    if trustPosition then
      decodeStatusFields frame privateResponseTargetOffset privateResponseCurrentOffset true dev
    else normalizeStoppedState dev
  keepsNodeId dev := by
    dsimp only
    split_ifs
    · exact decodeStatusFields_nodeId frame _ _ _ (stampStatus frame now dev)
    · exact normalizeStoppedState_nodeId (stampStatus frame now dev)

/-- The record after `apply_unsolicited_status_update`. -/
def applyUnsolicitedStatusUpdate (frame : IoFrame) (now : UInt32) : DeviceUpdate where
  apply dev := decodeStatusFields frame statusUpdateTargetOffset statusUpdateCurrentOffset false
    (stampStatus frame now dev)
  keepsNodeId dev := decodeStatusFields_nodeId frame _ _ _ (stampStatus frame now dev)

def applyNameResponse (frame : IoFrame) : DeviceUpdate :=
  ⟨fun dev => { dev with name := decodeDeviceNamePayload frame.data }, fun _ => rfl⟩

/-- `apply_info2_response`: only an unknown type is learned. -/
def applyInfo2Response (frame : IoFrame) : DeviceUpdate where
  apply dev :=
    if dev.type ≠ .unknown then dev
    else
      let type := decodePackedDeviceType (frame.dataAt getInfo2TypeOffset)
        (frame.dataAt (getInfo2TypeOffset + 1))
      { dev with
        type := type
        subtype := decodePackedDeviceSubtype (frame.dataAt (getInfo2TypeOffset + 1))
        inverted := if defaultInvertedForType type then true else dev.inverted }
  keepsNodeId dev := by
    dsimp only
    split_ifs <;> rfl

def recordCommandResult (result : UInt8) (now : UInt32) : DeviceUpdate :=
  ⟨fun dev => { dev with lastResultCode := result, lastResultAtMs := now }, fun _ => rfl⟩

def clearCommandResult : DeviceUpdate :=
  ⟨fun dev => { dev with lastResultCode := 0, lastResultAtMs := 0 }, fun _ => rfl⟩

/-- `compute_private_response_delay_ms`. -/
def computePrivateResponseDelayMs (dev : IoDevice) (frame : IoFrame)
    (policy : StatusPollPolicy UInt32) (id : String) : UInt32 :=
  if dev.effectiveIsStopped then 0
  else
    let hint := frame.dataAt privateResponseDelayHintOffset
    let hintDelayMs : UInt32 :=
      if privateResponseDelayHintOffset < frame.dataLen ∧ hint ≠ privateResponseHintUnused ∧
          hint ≠ privateResponseHintZero then
        hint.toUInt32 * privateResponseHintScaleMs + privateResponseHintBiasMs
      else 0
    settleDelayMs (policy.getInterval id) hintDelayMs false

/-- `compute_status_update_delay_ms`. -/
def computeStatusUpdateDelayMs (dev : IoDevice) (policy : StatusPollPolicy UInt32)
    (id : String) : UInt32 :=
  if dev.effectiveIsStopped then 0 else settleDelayMs (policy.getInterval id) 0 false

/-- The schedule after `apply_private_response_status`: a deadline only moves earlier. -/
def pollAfterPrivateResponse (id : String) (dev : IoDevice) (frame : IoFrame)
    (policy : StatusPollPolicy UInt32) : StatusPollPolicy UInt32 :=
  if dev.effectiveIsStopped || !policy.isTrackingActive id dev.lastStatus then policy.clear id
  else
    let newDeadline := dev.lastStatus + computePrivateResponseDelayMs dev frame policy id
    let existingDeadline := policy.getNextUpdate id
    policy.setNextUpdate id
      (if existingDeadline ≠ 0 ∧ existingDeadline < newDeadline then existingDeadline
        else newDeadline)

/-- The schedule after `apply_unsolicited_status_update`. -/
def pollAfterStatusUpdate (id : String) (dev : IoDevice) (policy : StatusPollPolicy UInt32) :
    StatusPollPolicy UInt32 :=
  if dev.effectiveIsStopped || !policy.isTrackingActive id dev.lastStatus then policy.clear id
  else policy.setNextUpdate id (dev.lastStatus + computeStatusUpdateDelayMs dev policy id)

/-- The key of the last processed one-way frame. -/
structure OneWayDedupState where
  srcId : String := ""
  cmd : UInt8 := 0
  hasIntent : Bool := false
  main0 : UInt8 := 0
  main1 : UInt8 := 0
  timestamp : UInt32 := 0
  deriving DecidableEq, Repr

/-- `is_duplicate_1w_frame`. -/
def isDuplicate1wFrame (last incoming : OneWayDedupState) (windowMs : UInt32) : Bool :=
  if last.srcId ≠ incoming.srcId ∨ last.cmd ≠ incoming.cmd ∨
      last.hasIntent ≠ incoming.hasIntent then false
  else if incoming.hasIntent ∧ (last.main0 ≠ incoming.main0 ∨ last.main1 ≠ incoming.main1) then
    false
  else incoming.timestamp - last.timestamp < windowMs

/-- `oneway_burst_started_fresh`. -/
def onewayBurstStartedFresh (last1wActivityMs now quietMs : UInt32) : Bool :=
  last1wActivityMs = 0 ∨ now - last1wActivityMs ≥ quietMs

/-- What the hub remembers of one-way traffic. -/
structure OneWayListening where
  last1wActivityMs : UInt32 := 0
  first1wActivityMs : UInt32 := 0
  keyAdoptionArmed : Bool := false
  lastObservedClass : Option (NodeId × DeviceType) := none
  last1wLogged : OneWayDedupState := {}

/-- The hub: its devices, their poll schedule and pending timeouts `remote_poll_<id>` with their
delays, the operation queue, the one-way senders that may fire events, and what the responder and
one-way traffic left. -/
structure Hub where
  nodeId : NodeId
  initialized : Bool := true
  radioTestMode : Bool := false
  registry : DeviceRegistry := ∅
  pollPolicy : StatusPollPolicy UInt32 := ∅
  remotePolls : OrderedMap String UInt32 := ∅
  opQueue : OperationQueue := .empty
  keyExtraction : KeyExtraction := {}
  postExtractGrace : Option UInt32 := none
  exposedSenders : List String := []
  oneWay : OneWayListening := {}

namespace Hub

variable (hub : Hub)

def updateDevice (id : String) (u : DeviceUpdate) : Hub :=
  { hub with registry := hub.registry.update id u.apply u.keepsNodeId }

/-- `schedule_status_poll_`: a later timeout of the same name replaces the earlier one. -/
def scheduleStatusPoll (deviceId : String) (delayMs : UInt32) : Hub :=
  { hub with remotePolls := hub.remotePolls.insert deviceId delayMs }

/-- `record_1w_activity_`. -/
def record1wActivity (now : UInt32) : Hub :=
  { hub with
    oneWay := { hub.oneWay with
      first1wActivityMs :=
        if onewayBurstStartedFresh hub.oneWay.last1wActivityMs now onewayQuietPeriodMs then now
        else hub.oneWay.first1wActivityMs
      last1wActivityMs := now } }

/-- `record_oneway_observed_class_`. -/
def recordOnewayObservedClass (info : OneWayFrameInfo) : Hub :=
  if hub.oneWay.keyAdoptionArmed = false ∨ info.targetType = .unknown then hub
  else { hub with
    oneWay := { hub.oneWay with lastObservedClass := some (info.src, info.targetType) } }

/-- `try_adopt_oneway_key_`: the first key heard disarms the listener. -/
def tryAdoptOnewayKey (frame : IoFrame) : Hub :=
  if hub.oneWay.keyAdoptionArmed = false ∨ frame.cmd ≠ cmdOnewayAddController then hub
  else
    match decode1wAddController frame with
    | .error _ => hub
    | .ok _ => { hub with oneWay := { hub.oneWay with keyAdoptionArmed := false } }

/-- `resolve_1w_target_devices_`: linked to the sender, then linked to the class it addresses. -/
def resolve1wTargetDevices (info : OneWayFrameInfo) (srcId : String) : List String :=
  let devices := (hub.registry.linkedDevices srcId).getD []
  if info.addressClass = .broadcastType ∧ info.targetType ≠ .unknown then
    ((hub.registry.linkedDevicesForClass info.targetType).getD []).foldl
      (fun devices id => if id ∈ devices then devices else devices ++ [id]) devices
  else devices

end Hub

/-- Whether a typed frame is for devices of another type than this one. -/
def typeMismatch (info : OneWayFrameInfo) (dev : Option IoDevice) : Bool :=
  dev.any fun dev =>
    info.targetType ≠ .unknown ∧ dev.type ≠ .unknown ∧ dev.type ≠ info.targetType

/-- The prediction that one linked device gets. -/
def applyOptimisticLinkedDevice (info : OneWayFrameInfo) (reg : DeviceRegistry) (id : String) :
    DeviceRegistry :=
  if typeMismatch info (reg.get id) then reg
  else if info.main0 = posStop then (reg.applyOptimisticStop id).1
  else
    match onewayIntentToTarget info.main0 with
    | some target => (reg.applyOptimisticTarget id target).1
    | none => reg

/-- `apply_optimistic_linked_state_`: the registry, and whether the intent was a stop. -/
def applyOptimisticLinkedState (info : OneWayFrameInfo) (deviceIds : List String)
    (reg : DeviceRegistry) : DeviceRegistry × Bool :=
  if info.hasIntent = false then (reg, false)
  else (deviceIds.foldl (applyOptimisticLinkedDevice info) reg, info.main0 = posStop)

/-- What handling a received frame asks of the clock, the random source, the exchange engine and
the connection to Home Assistant. The data of a sender event is built from the two arguments. -/
structure ReceivePorts (σ ε : Type) where
  millis : Prog σ ε UInt32
  generateChallenge : Prog σ ε Challenge
  lastRssi : Prog σ ε (Option Int16)
  transmitFrame : TxSite → IoFrame → UInt32 → UInt16 → Prog σ ε Bool
  authenticateRequest : IoFrame → UInt32 → Prog σ ε Bool
  log1wRemoteFrame : OneWayFrameInfo → Option (List String) → Prog σ ε Unit
  isConnected : Prog σ ε Bool
  fireSenderEvent : OneWayFrameInfo → Bool → Prog σ ε Unit
  responsePreamble : UInt16
  coldBroadcastReplyPreamble : UInt16

/-- The ports of a hub that drives an exchange engine. Its trace is the radio's, which no line of
the log and no event is part of. -/
def enginePorts {σ : Type} (engine : ExchangeEngine σ) : ReceivePorts σ RadioEvent where
  millis := ask engine.radio.millis
  generateChallenge := ask engine.radio.generateChallenge
  lastRssi := ask fun s => (engine.radio.lastRssi s, s)
  transmitFrame := RadioLinks.transmitFrame engine.radio engine.tuning
  authenticateRequest := Exchanges.authenticateRequest engine
  log1wRemoteFrame _ _ := pure ()
  isConnected := pure true
  fireSenderEvent _ _ := pure ()
  responsePreamble := engine.radio.responsePreamble
  coldBroadcastReplyPreamble := engine.tuning.coldBroadcastReplyPreamble

section

variable {σ ε : Type} (ports : ReceivePorts σ ε)

/-- `update_device_status_`. -/
def updateDeviceStatus (frame : IoFrame) (trustPosition : Bool) (hub : Hub) : Prog σ ε Hub :=
  let id := nodeIdToString frame.src
  match hub.registry.get id with
  | none => pure hub
  | some dev => do
    let now ← ports.millis
    let rssi ← ports.lastRssi
    let seen := updateLinkHealth now rssi
    if frame.cmd = cmdPrivateResp then
      if frame.dataLen < privateResponseMinDataLen then pure (hub.updateDevice id seen)
      else do
        let now ← ports.millis
        let report := seen.andThen (applyPrivateResponseStatus frame trustPosition now)
        pure { hub.updateDevice id (report.andThen clearCommandResult) with
          pollPolicy := pollAfterPrivateResponse id (report.apply dev) frame hub.pollPolicy }
    else if frame.cmd = cmdStatusUpdate then
      if frame.dataLen < statusUpdateMinDataLen then pure (hub.updateDevice id seen)
      else do
        let now ← ports.millis
        let report := seen.andThen (applyUnsolicitedStatusUpdate frame now)
        pure { hub.updateDevice id (report.andThen clearCommandResult) with
          pollPolicy := pollAfterStatusUpdate id (report.apply dev) hub.pollPolicy }
    else if frame.cmd = cmdGetNameResp ∧ getNameResponseMinDataLen ≤ frame.dataLen then
      pure (hub.updateDevice id (seen.andThen (applyNameResponse frame)))
    else if frame.cmd = cmdGetInfo2Resp ∧ getInfo2ResponseMinDataLen ≤ frame.dataLen then
      pure (hub.updateDevice id (seen.andThen (applyInfo2Response frame)))
    else if frame.cmd = cmdErrorResp ∧ errorResponseMinDataLen ≤ frame.dataLen then do
      let now ← ports.millis
      pure (hub.updateDevice id (seen.andThen (recordCommandResult (frame.dataAt 0) now)))
    else pure (hub.updateDevice id seen)

/-- `begin_status_poll_tracking_`. -/
def beginStatusPollTracking (deviceId : String) (initialDelayMs : UInt32) (hub : Hub) :
    Prog σ ε Hub :=
  if (hub.registry.get deviceId).isNone then pure hub
  else do
    let now ← ports.millis
    pure { hub with pollPolicy := hub.pollPolicy.beginTracking deviceId initialDelayMs now }

/-- `schedule_device_polls_`. -/
def scheduleDevicePolls (delayMs : UInt32) : List String → Hub → Prog σ ε Hub
  | [], hub => pure hub
  | deviceId :: deviceIds, hub => do
    let hub ← beginStatusPollTracking ports deviceId 0 hub
    scheduleDevicePolls delayMs deviceIds (hub.scheduleStatusPoll deviceId delayMs)

/-- `schedule_linked_remote_polls_`. -/
def scheduleLinkedRemotePolls (remoteId : String) (hub : Hub) : Prog σ ε Hub :=
  match hub.registry.linkedDevices remoteId with
  | none => pure hub
  | some linked => scheduleDevicePolls ports remoteActivityStatusPollDelayMs linked hub

/-- The responder's effects, in order. -/
def performResponderEffects : List ResponderEffect → Hub → Prog σ ε Hub
  | [], hub => pure hub
  | .transmit frame freq preamble :: effects, hub => do
    let _ ← ports.transmitFrame .keyExtraction frame freq
      (match preamble with
        | .coldBroadcastReply => ports.coldBroadcastReplyPreamble
        | .response => ports.responsePreamble)
    performResponderEffects effects hub
  | .logResult _ _ :: effects, hub => performResponderEffects effects hub
  | .scheduleGrace delayMs :: effects, hub =>
    performResponderEffects effects { hub with postExtractGrace := some delayMs }

/-- `try_handle_key_extraction_frame_`: `none` when the frame is not the responder's, which does
not depend on the clock or the random source. -/
def tryHandleKeyExtraction (frame : IoFrame) (hub : Hub) : Prog σ ε (Option Hub) :=
  if (tryHandleKeyExtractionFrame 0 (Vector.replicate 6 0) hub.keyExtraction frame).isNone then
    pure none
  else do
    let candidateChallenge ← ports.generateChallenge
    let now ← ports.millis
    match tryHandleKeyExtractionFrame now candidateChallenge hub.keyExtraction frame with
    | none => pure none
    | some (keyExtraction, effects) => do
      let hub ← performResponderEffects ports effects { hub with keyExtraction := keyExtraction }
      pure (some hub)

/-- `is_exposed_sender`. -/
def isExposedSender (exposedSenders : List String) (senderId : String) : Bool :=
  senderId ∈ exposedSenders

/-- `maybe_fire_sender_event_`. -/
def maybeFireSenderEvent (info : OneWayFrameInfo) (linked : Bool) (srcId : String) (hub : Hub) :
    Prog σ ε Unit :=
  if info.hasIntent = false then pure ()
  else do
    let connected ← ports.isConnected
    if connected = false then pure ()
    else if isExposedSender hub.exposedSenders srcId = false then pure ()
    else ports.fireSenderEvent info linked

/-- Whether a sender is linked to a device. -/
def anyLinked (linked : Option (List String)) : Bool := linked.any fun devices => !devices.isEmpty

/-- What `process_received_packet_` does with a new one-way frame: it is logged and may fire the
sender's event, and linked devices are predicted to follow it and polled. -/
def followOneWayFrame (info : OneWayFrameInfo) (srcId : String) (hub : Hub) : Prog σ ε Hub := do
  let linked := hub.registry.linkedDevices srcId
  ports.log1wRemoteFrame info linked
  maybeFireSenderEvent ports info (anyLinked linked) srcId hub
  let targetDevices := hub.resolve1wTargetDevices info srcId
  let predicted := applyOptimisticLinkedState info targetDevices hub.registry
  scheduleDevicePolls ports (if predicted.2 then 0 else remoteActivityStatusPollDelayMs)
    targetDevices { hub with registry := predicted.1 }

/-- The one-way branch of `process_received_packet_`. -/
def processOneWayFrame (frame : IoFrame) (hub : Hub) : Prog σ ε Hub := do
  let srcId := nodeIdToString frame.src
  let now ← ports.millis
  let info := decode1wFrame frame
  let hub := ((hub.record1wActivity now).recordOnewayObservedClass info).tryAdoptOnewayKey frame
  let incoming : OneWayDedupState := ⟨srcId, frame.cmd, info.hasIntent, info.main0, info.main1, now⟩
  if isDuplicate1wFrame hub.oneWay.last1wLogged incoming onewayDedupWindowMs then pure hub
  else
    followOneWayFrame ports info srcId
      { hub with oneWay := { hub.oneWay with last1wLogged := incoming } }

/-- The status-update branch of `process_received_packet_`: an authenticated update is
acknowledged on every channel, then applied. -/
def processStatusUpdate (frame : IoFrame) (freqHz : UInt32) (hub : Hub) : Prog σ ε Hub := do
  let authenticated ← ports.authenticateRequest frame freqHz
  if authenticated = false then pure hub
  else
    match createStatusUpdateResp hub.nodeId frame.src with
    | none => pure hub
    | some resp => do
      let _ ← ports.transmitFrame .statusAck resp freqCh1 shortPreamble
      let _ ← ports.transmitFrame .statusAck resp freqCh2 shortPreamble
      let _ ← ports.transmitFrame .statusAck resp freqCh3 shortPreamble
      updateDeviceStatus ports frame true hub

/-- The last branches of `process_received_packet_`: traffic to a registered device, or from a
linked remote, is a reason to poll. -/
def processRemoteActivity (frame : IoFrame) (hub : Hub) : Prog σ ε Hub :=
  let dstId := nodeIdToString frame.dst
  let srcId := nodeIdToString frame.src
  if (hub.registry.get dstId).isSome ∧ frame.src ≠ hub.nodeId then
    scheduleDevicePolls ports remoteActivityStatusPollDelayMs [dstId] hub
  else scheduleLinkedRemotePolls ports srcId hub

/-- Whether a frame belongs to an authenticated exchange between others. -/
def isExchangeInternalCommand (cmd : UInt8) : Bool :=
  cmd = cmdChallengeReq ∨ cmd = cmdChallengeResp

/-- `process_received_packet_` for a frame that is not the responder's. -/
def processFrame (frame : IoFrame) (freqHz : UInt32) (hub : Hub) : Prog σ ε Hub :=
  if isExchangeInternalCommand frame.cmd then pure hub
  else if is1w frame then processOneWayFrame ports frame hub
  else if frame.cmd = cmdStatusUpdate ∧ frame.dst = hub.nodeId then
    processStatusUpdate ports frame freqHz hub
  else if frame.cmd = cmdPrivateResp ∨ frame.cmd = cmdStatusUpdate then pure hub
  else processRemoteActivity ports frame hub

/-- `process_received_packet_`. -/
def processReceivedPacket (packet : RadioRxPacket) (hub : Hub) : Prog σ ε Hub :=
  match parse packet.data with
  | none => pure hub
  | some frame => do
    let handled ← tryHandleKeyExtraction ports frame hub
    match handled with
    | some hub => pure hub
    | none => processFrame ports frame packet.freqHz hub

end

end HomeIoControl.HubStatus
