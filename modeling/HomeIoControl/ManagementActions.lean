import HomeIoControl.ConfigAddresses
import HomeIoControl.DeviceNames
import HomeIoControl.FrameLogLines
import HomeIoControl.HubOperations
import HomeIoControl.ProbeIndices
import HomeIoControl.RollCalls

/-!
# Management actions

What an installer asks of one device beside moving it: a new name, a sign that tells it from the
others, and probes that read what nobody has decoded yet. An action talks to its device by
exchanges of the engine and never writes the device's state itself.
-/

namespace HomeIoControl.ManagementActions

open TracedPrograms ProtocolFrames ProtocolCommands ProtocolCodecs DeviceModels DeviceRegistries
  DeviceRequests DeviceNames PendingOperations RadioLinks Exchanges HubStatus HubOperations
  ConfigAddresses ProbeIndices
open FrameLogLines (unsignedText)
open ReceptionLogs (commandName renderFrameHexRedacted frameLogHexBufferSize)
open RollCalls (ManagementActionResult)

def managementActionRenameDevice : String := "rename_device"
def managementActionIdentifyDevice : String := "identify_device"
def managementActionForceOpenDevice : String := "force_open_device"
def managementActionOnewaySetPosition : String := "oneway_set_position"
def managementActionOnewayRemoveController : String := "oneway_remove_controller"
def managementActionProbeDevice : String := "probe_device"
def managementActionProbeSweep : String := "probe_sweep"

def identifyParameter : UInt8 := 0xFF
def private2ExtendedBlockFlag : UInt8 := 0x80
def probeExtFunctionId06 : UInt8 := 0x06
def probeExtFunctionId09 : UInt8 := 0x09
def probePrivateFnSubFunctionId : UInt8 := 0x09
def probeStatusExtSelector : UInt8 := 0x80
def probeSweepMaxIndices : ℕ := 16
def probeSweepDelayMs : UInt32 := 1000
def onewayPositionFullyClosed : ℕ := 100

def createSetName (own dst : NodeId) (lowPower : Bool) (payload : List UInt8) : Option IoFrame :=
  createRequest own dst lowPower cmdSetName payload

def createIdentify (own dst : NodeId) (lowPower : Bool) : Option IoFrame :=
  createRequest own dst lowPower cmdIdentify [executeOriginator, identifyParameter]

def createPrivateFunction (own dst : NodeId) (lowPower : Bool) (functionId subIndex : UInt8) :
    Option IoFrame :=
  createRequest own dst lowPower cmdPrivate [functionId, subIndex, 0x00]

def createGetStatusExtended (own dst : NodeId) (lowPower : Bool)
    (selector block functionId : UInt8) : Option IoFrame :=
  createRequest own dst lowPower cmdPrivate [functionId, selector, block, 0x00]

def createGetInfo1 (own dst : NodeId) (lowPower : Bool) : Option IoFrame :=
  createRequest own dst lowPower cmdGetInfo1 []

def createGetInfo2 (own dst : NodeId) (lowPower : Bool) : Option IoFrame :=
  createRequest own dst lowPower cmdGetInfo2 []

def createGeneralInfo3 (own dst : NodeId) (lowPower : Bool) : Option IoFrame :=
  createRequest own dst lowPower cmdGetGeneralInfo3 []

def createPrivate2Read (own dst : NodeId) (modifier : UInt8) (longForm lowPower : Bool) :
    Option IoFrame :=
  createRequest own dst lowPower cmdPrivate2
    (if longForm then [posUnknown, 0x00, private2ExtendedBlockFlag, posFavorite, modifier, 0x00]
    else [posFavorite, modifier, 0x00, 0x00])

/-- A row of `PROBE_TABLE`. -/
structure ProbeDescriptor where
  name : String
  needsIndex : Bool
  builder : NodeId → NodeId → UInt8 → Bool → Option IoFrame

def probeTable : List ProbeDescriptor :=
  [⟨"private_fn", true, fun own dst index lowPower =>
      createPrivateFunction own dst lowPower index 0x00⟩,
    ⟨"private_fn_sub", true, fun own dst index lowPower =>
      createPrivateFunction own dst lowPower probePrivateFnSubFunctionId index⟩,
    ⟨"status_ext", true, fun own dst index lowPower =>
      createGetStatusExtended own dst lowPower probeStatusExtSelector index
        privateGetPositionStatus⟩,
    ⟨"status_ext_fn6", true, fun own dst index lowPower =>
      createGetStatusExtended own dst lowPower probeStatusExtSelector index probeExtFunctionId06⟩,
    ⟨"status_ext_fn9", true, fun own dst index lowPower =>
      createGetStatusExtended own dst lowPower probeStatusExtSelector index probeExtFunctionId09⟩,
    ⟨"get_info1", false, fun own dst _ lowPower => createGetInfo1 own dst lowPower⟩,
    ⟨"get_info2", false, fun own dst _ lowPower => createGetInfo2 own dst lowPower⟩,
    ⟨"general_info3", false, fun own dst _ lowPower => createGeneralInfo3 own dst lowPower⟩,
    ⟨"private2", true, fun own dst index lowPower =>
      createPrivate2Read own dst index true lowPower⟩,
    ⟨"private2_short", true, fun own dst index lowPower =>
      createPrivate2Read own dst index false lowPower⟩]

def findProbeDescriptor (probe : String) : Option ProbeDescriptor :=
  probeTable.find? fun descriptor => descriptor.name = probe

/-- The names that `unknown_probe_message` lists. -/
def joinedNames : List String → String
  | [] => ""
  | [name] => name
  | [name, last] => name ++ ", or " ++ last
  | name :: names => name ++ ", " ++ joinedNames names

def unknownProbeMessage (probe : String) : String :=
  "unknown probe \"" ++ probe ++ "\" (expected " ++
    joinedNames (probeTable.map ProbeDescriptor.name) ++ ")"

/-- `ManagementActionResult` with the fields of the actions on one device. -/
structure ActionResult extends ManagementActionResult where
  verified : Bool := false
  resultCode : Option UInt8 := none
  requestedName : List UInt8 := []
  appliedName : List UInt8 := []
  probeName : String := ""
  probeIndex : String := ""
  responseCmd : Option UInt8 := none
  responseHex : String := ""
  terminalRefusal : Bool := false

def makeManagementResult (action deviceId : String) : ActionResult := { action, deviceId }

namespace ActionResult

def reports (result : ActionResult) (message : String) : ActionResult :=
  { result with message := message }

/-- The action succeeded, with a message. -/
def succeeds (result : ActionResult) (message : String) : ActionResult :=
  { result with success := true, message := message }

end ActionResult

/-- The tables that messages are put together from. -/
structure ActionTexts where
  commandResultName : UInt8 → String
  commandResultDescription : UInt8 → String
  deviceNameValidationErrorDescription : DeviceNameValidationError → String

/-- `apply_error_response`: the result code, or the message that there is none. -/
def applyErrorResponse (response : IoFrame) (result : ActionResult) : ActionResult × Bool :=
  if response.dataLen = 0 then (result.reports "device returned an empty error response", false)
  else ({ result with resultCode := some (response.dataAt 0) }, true)

/-- `format_hex_byte`. -/
def formatHexByte (value : UInt8) : String := String.ofList (hexByte value)

/-- `trim_ascii_whitespace`, of the characters of an argument. -/
def trimBlanks (text : List Char) : List Char := (text.dropWhile isBlank).rdropWhile isBlank

/-- `normalize_device_id_argument`. -/
def normalizeDeviceIdArgument (deviceId : List Char) : String :=
  String.ofList ((trimBlanks deviceId).map Char.toUpper)

/-- `resolve_device_`: the device, or the message why there is none. -/
def resolveDevice (action : String) (deviceId : List Char) (hub : Hub) :
    ActionResult × Option IoDevice :=
  let normalizedDeviceId := normalizeDeviceIdArgument deviceId
  let result := makeManagementResult action normalizedDeviceId
  if hub.initialized = false then (result.reports "hub is not initialized", none)
  else if (hexToBytes normalizedDeviceId 3).isNone then
    (result.reports "device ID must be exactly 6 hexadecimal characters", none)
  else
    match hub.registry.get normalizedDeviceId with
    | none => (result.reports "device is not registered on this hub", none)
    | some dev => (result, some dev)

/-- An action asks the engine for exchanges, hears what they come to and waits between them; the
engine's own events lie between. -/
inductive ActionEvent (ε : Type) where
  | request (frame : IoFrame)
  | engine (e : ε)
  | exchanged (frame : IoFrame) (report : ExchangeReport)
  | wait (ms : UInt32)

/-- The requests among the events, in order. -/
def requests {ε : Type} (es : List (ActionEvent ε)) : List IoFrame :=
  es.filterMap fun
    | .request frame => some frame
    | _ => none

/-- The exchanges among the events, each with what it came to. -/
def exchanges {ε : Type} (es : List (ActionEvent ε)) : List (IoFrame × ExchangeReport) :=
  es.filterMap fun
    | .exchanged frame report => some (frame, report)
    | _ => none

section

variable {σ ε : Type}

/-- The ports of the hub, where each exchange shows the request that it is for and what it comes
to. -/
def shown (ports : HubPorts σ ε) : HubPorts σ (ActionEvent ε) where
  millis := ports.millis.relabel .engine
  generateChallenge := ports.generateChallenge.relabel .engine
  lastRssi := ports.lastRssi.relabel .engine
  transmitFrame site frame freq preamble :=
    (ports.transmitFrame site frame freq preamble).relabel .engine
  authenticateRequest frame freq := (ports.authenticateRequest frame freq).relabel .engine
  log1wRemoteFrame info linked := (ports.log1wRemoteFrame info linked).relabel .engine
  isConnected := ports.isConnected.relabel .engine
  fireSenderEvent info linked := (ports.fireSenderEvent info linked).relabel .engine
  responsePreamble := ports.responsePreamble
  coldBroadcastReplyPreamble := ports.coldBroadcastReplyPreamble
  checkForPacket := ports.checkForPacket.relabel .engine
  sendAndReceive request freq maxTries := do
    tell (.request request)
    let report ← (ports.sendAndReceive request freq maxTries).relabel .engine
    tell (.exchanged request report)
    pure report
  discoverAndPair registry := (ports.discoverAndPair registry).relabel .engine
  sendOneWay op := (ports.sendOneWay op).relabel .engine

/-- The hub's collaborators, as the actions see them. -/
structure Management (σ ε : Type) where
  ports : HubPorts σ ε
  diagnosticProbes : Bool
  texts : ActionTexts

variable (management : Management σ ε)

/-- `send_and_receive` with its default number of tries. -/
def exchange (request : IoFrame) : Prog σ (ActionEvent ε) ExchangeReport :=
  (shown management.ports).sendAndReceive request freqCh2 (UInt8.ofNat exchangeRetryCount)

/-- `send_authenticated_request_`: the response, or the message why there is none. -/
def sendAuthenticatedRequest (request : IoFrame) (actionVerb : String) (result : ActionResult) :
    Prog σ (ActionEvent ε) (ActionResult × Option IoFrame) := do
  let report ← exchange management request
  match report.outcome with
  | .successWithResponse => pure (result, some report.response)
  | .successUnconfirmed =>
    pure (result.reports ("device accepted the " ++ actionVerb ++ " request but sent no response"),
      none)
  | .failed => pure (result.reports ("no valid response to " ++ actionVerb ++ " request"), none)

/-- The end of a rename that the device acknowledged: the name is read back. -/
def verifyRename (normalizedName : List UInt8) (result : ActionResult) (hub : Hub) :
    Prog σ (ActionEvent ε) (ActionResult × Hub) := do
  let readback ← requestDeviceName (shown management.ports) result.deviceId hub
  if readback.1 = false then
    pure (result.reports "rename acknowledged but verification readback failed", readback.2)
  else
    let appliedName := ((readback.2.registry.get result.deviceId).map IoDevice.name).getD []
    let result := { result with appliedName }
    if appliedName = normalizedName then
      pure ({ result with verified := true, message := "rename verified by device readback" },
        readback.2)
    else
      pure (result.reports "rename acknowledged but readback did not match the requested name",
        readback.2)

/-- `rename_device` once the device has answered. -/
def renameAnswered (normalizedName : List UInt8) (response : IoFrame) (result : ActionResult)
    (hub : Hub) : Prog σ (ActionEvent ε) (ActionResult × Hub) :=
  if response.cmd = cmdErrorResp then
    let refusal := applyErrorResponse response result
    if refusal.2 then
      let code := response.dataAt 0
      pure (refusal.1.reports (management.texts.commandResultName code ++ ": " ++
        management.texts.commandResultDescription code), hub)
    else pure (refusal.1, hub)
  else if response.cmd ≠ cmdSetNameResp then
    pure (result.reports ("unexpected rename response 0x" ++ formatHexByte response.cmd), hub)
  else
    verifyRename management normalizedName (result.succeeds "rename acknowledged by device") hub

/-- `rename_device`. -/
def renameDevice (deviceId : List Char) (newName : List UInt8) (hub : Hub) :
    Prog σ (ActionEvent ε) (ActionResult × Hub) :=
  match resolveDevice managementActionRenameDevice deviceId hub with
  | (result, none) => pure (result, hub)
  | (result, some dev) =>
    let encoded := encodeDeviceNamePayload newName
    let result := { result with
      requestedName :=
        if encoded.normalizedName = [] then trimAsciiWhitespace newName
        else encoded.normalizedName }
    if encoded.error ≠ .none then
      pure
        (result.reports (management.texts.deviceNameValidationErrorDescription encoded.error), hub)
    else
      match createSetName hub.nodeId dev.nodeId dev.lowPower encoded.payload with
      | none => pure (result.reports "failed to build rename request", hub)
      | some request => do
        let sent ← sendAuthenticatedRequest management request "rename" result
        match sent with
        | (result, none) => pure (result, hub)
        | (result, some response) =>
          renameAnswered management encoded.normalizedName response result hub

/-- `identify_device` once the device has answered: also a refusal comes after the sign. -/
def identifyAnswered (response : IoFrame) (result : ActionResult) : ActionResult :=
  if response.cmd = cmdErrorResp then
    let refusal := applyErrorResponse response { result with success := true }
    if refusal.2 then
      let code := response.dataAt 0
      refusal.1.reports ("identify triggered (device reported " ++
        management.texts.commandResultName code ++ ": " ++
        management.texts.commandResultDescription code ++ ")")
    else
      refusal.1.reports "identify triggered (device returned an empty error response)"
  else result.succeeds "identify acknowledged by device"

/-- `identify_device`. -/
def identifyDevice (deviceId : List Char) (hub : Hub) : Prog σ (ActionEvent ε) ActionResult :=
  match resolveDevice managementActionIdentifyDevice deviceId hub with
  | (result, none) => pure result
  | (result, some dev) =>
    match createIdentify hub.nodeId dev.nodeId dev.lowPower with
    | none => pure (result.reports "failed to build identify request")
    | some request => do
      let sent ← sendAuthenticatedRequest management request "identify" result
      match sent with
      | (result, none) => pure result
      | (result, some response) => pure (identifyAnswered management response result)

/-- The report of a probe that was answered. -/
def probeAnswered (probe : String) (response : IoFrame) (result : ActionResult) : ActionResult :=
  let hex := String.ofList
    (renderFrameHexRedacted ((serialize response).getD []) frameLogHexBufferSize)
  let result := { result.succeeds ("probe \"" ++ probe ++ "\" reply cmd=0x" ++
      formatHexByte response.cmd ++ " (" ++ commandName response.cmd ++ ") hex=" ++ hex) with
    responseCmd := some response.cmd
    responseHex := hex }
  if response.cmd = cmdErrorResp then
    let refusal := applyErrorResponse response result
    if refusal.2 then
      let code := response.dataAt 0
      refusal.1.reports (refusal.1.message ++ (" [" ++ management.texts.commandResultName code ++
        ": " ++ management.texts.commandResultDescription code ++ "]"))
    else refusal.1
  else result

/-- The exchange of a probe. -/
def sendProbe (probe : String) (request : IoFrame) (result : ActionResult) :
    Prog σ (ActionEvent ε) ActionResult := do
  let report ← exchange management request
  match report.outcome with
  | .successWithResponse => pure (probeAnswered management probe report.response result)
  | .successUnconfirmed =>
    pure (result.reports "device accepted the probe request but sent no response")
  | .failed =>
    pure (result.reports ("no reply after " ++ toString exchangeRetryCount ++
      " attempts (device asleep, unreachable, or silently ignoring this opcode)"))

/-- A refusal that every other index would meet, too. -/
def ActionResult.refuses (result : ActionResult) (message : String) : ActionResult :=
  { result with terminalRefusal := true, message := message }

/-- `probe_device` of a device that is registered. -/
def probeResolved (dev : IoDevice) (probe : String) (index : List Char) (result : ActionResult)
    (hub : Hub) : Prog σ (ActionEvent ε) ActionResult :=
  if management.diagnosticProbes = false then
    pure (result.refuses
      "diagnostic probes are not enabled; set diagnostic_probes: true in YAML")
  else if dev.effectiveIsStopped = false then
    pure (result.refuses "device is moving; refusing to probe mid-transaction")
  else
    match findProbeDescriptor probe with
    | none => pure (result.reports (unknownProbeMessage probe))
    | some descriptor =>
      let parsed := parseProbeIndex index 0
      if descriptor.needsIndex ∧ parsed.1 = false then
        pure (result.reports "index must be a decimal or 0x-prefixed byte value (0-255)")
      else
        match descriptor.builder hub.nodeId dev.nodeId
            (if descriptor.needsIndex then parsed.2 else 0) dev.lowPower with
        | none => pure (result.reports "failed to build probe request")
        | some request => sendProbe management probe request result

/-- `probe_device`. -/
def probeDevice (deviceId : List Char) (probe : String) (index : List Char) (hub : Hub) :
    Prog σ (ActionEvent ε) ActionResult :=
  match resolveDevice managementActionProbeDevice deviceId hub with
  | (result, none) => pure { result with probeName := probe, probeIndex := String.ofList index }
  | (result, some dev) =>
    probeResolved management dev probe index
      { result with probeName := probe, probeIndex := String.ofList index } hub

/-- What the loop of `probe_sweep` has gathered. -/
structure Sweep where
  report : String := ""
  answeredCount : ℕ := 0
  stoppedEarly : Bool := false

/-- The line of a sweep for one index. -/
def sweepLine (idx : ℕ) (step : ActionResult) : String :=
  "index=0x" ++ formatHexByte (UInt8.ofNat idx) ++ ": " ++
    (if step.success then
      "cmd=0x" ++ formatHexByte (step.responseCmd.getD 0) ++ " hex=" ++ step.responseHex ++ "\n"
    else step.message ++ "\n")

def Sweep.add (s : Sweep) (idx : ℕ) (step : ActionResult) : Sweep :=
  { s with
    report := s.report ++ sweepLine idx step
    answeredCount := s.answeredCount + if step.success then 1 else 0 }

/-- The pause before every index but the first. -/
def pauseBefore (first idx : ℕ) : Prog σ (ActionEvent ε) PUnit :=
  if idx ≠ first then tell (.wait probeSweepDelayMs) else pure ⟨⟩

/-- The loop of `probe_sweep` over the indices that are left. -/
def sweepLoop (deviceId : List Char) (probe : String) (first : ℕ) (hub : Hub) :
    List ℕ → Sweep → Prog σ (ActionEvent ε) Sweep
  | [], s => pure s
  | idx :: rest, s => do
    pauseBefore first idx
    let step ← probeDevice management deviceId probe (unsignedText idx) hub
    if step.terminalRefusal then
      pure { s.add idx step with
        report := (s.add idx step).report ++ "(stopping sweep: " ++ step.message ++ ")\n"
        stoppedEarly := true }
    else sweepLoop deviceId probe first hub rest (s.add idx step)

def sweepRange (first last : UInt8) : String :=
  "0x" ++ formatHexByte first ++ "-0x" ++ formatHexByte last

def sweepHeadline (probe : String) (first last : UInt8) (answeredCount : ℕ) : String :=
  "Sweep \"" ++ probe ++ "\" over [0x" ++ formatHexByte first ++ ",0x" ++ formatHexByte last ++
    "]: " ++ toString answeredCount ++ " answered\n"

/-- `probe_sweep` over a range that was accepted. -/
def sweepOver (deviceId : List Char) (probe : String) (first last : UInt8) (result : ActionResult)
    (hub : Hub) : Prog σ (ActionEvent ε) ActionResult := do
  let sweep ← sweepLoop management deviceId probe first.toNat hub
    (List.range' first.toNat (last.toNat + 1 - first.toNat)) {}
  pure { result with
    success := !sweep.stoppedEarly
    probeIndex := sweepRange first last
    message := sweepHeadline probe first last sweep.answeredCount ++ sweep.report }

/-- `probe_sweep`. -/
def probeSweep (deviceId : List Char) (probe : String) (firstIndex lastIndex : List Char)
    (hub : Hub) : Prog σ (ActionEvent ε) ActionResult :=
  let result := { makeManagementResult managementActionProbeSweep
    (normalizeDeviceIdArgument deviceId) with probeName := probe }
  match resolveDevice managementActionProbeSweep deviceId hub with
  | (resolved, none) => pure (result.reports resolved.message)
  | (_, some _) =>
    match findProbeDescriptor probe with
    | none => pure (result.reports (unknownProbeMessage probe))
    | some descriptor =>
      if descriptor.needsIndex = false then
        pure (result.reports ("probe \"" ++ probe ++ "\" takes no index; use probe_device"))
      else
        let first := parseProbeIndex firstIndex 0
        let last := parseProbeIndex lastIndex 0
        if first.1 = false ∨ last.1 = false then
          pure (result.reports
            "first_index/last_index must be decimal or 0x-prefixed byte values (0-255)")
        else if last.2 < first.2 then pure (result.reports "last_index must be >= first_index")
        else if probeSweepMaxIndices < last.2.toNat - first.2.toNat + 1 then
          pure (result.reports ("sweep range too wide: " ++
            toString (last.2.toNat - first.2.toNat + 1) ++ " indices, max " ++
            toString probeSweepMaxIndices))
        else sweepOver management deviceId probe first.2 last.2 result hub

end

/-- What `queue_device_command` returns. -/
def acceptsDeviceCommand (deviceId : String) (hub : Hub) : Bool :=
  hub.initialized && (hub.registry.get deviceId).any (knownDeviceMatchesEntityClass .cover)

/-- `force_open_device`. -/
def forceOpenDevice (deviceId : List Char) (hub : Hub) : ActionResult × Hub :=
  match resolveDevice managementActionForceOpenDevice deviceId hub with
  | (result, none) => (result, hub)
  | (result, some _) =>
    let queued := queueDeviceCommand result.deviceId .forceOpen hub
    if acceptsDeviceCommand result.deviceId hub = false then
      (result.reports "device does not accept cover commands", queued)
    else
      (result.succeeds ("force open queued (elevated-priority open; wind/rain lock bypass " ++
        "unconfirmed; movement result arrives via cover state)"), queued)

/-- The position of an argument, or the message why there is none. -/
def parsePosition (position : List Char) : Except String UInt8 :=
  let trimmed := trimBlanks position
  if trimmed = [] ∨ trimmed.any (fun ch => !isDigitIn 10 ch) then
    .error "position must be a whole number between 0 and 100"
  else
    let parsed := min (valueIn 10 trimmed) (ulongSize - 1)
    if onewayPositionFullyClosed < parsed then .error "position must be between 0 and 100"
    else .ok (UInt8.ofNat parsed)

/-- An action on a controller that the configuration names, as `knows` tells. -/
def withController (action controllerId : String) (knows : String → Bool) (hub : Hub)
    (perform : ActionResult → ActionResult × Hub) : ActionResult × Hub :=
  let result := makeManagementResult action controllerId
  if knows controllerId = false then
    (result.reports "no oneway_controllers identity with that id", hub)
  else perform result

/-- `api_oneway_set_position`. -/
def onewaySetPosition (controllerId : String) (position : List Char) (knows : String → Bool)
    (hub : Hub) : ActionResult × Hub :=
  withController managementActionOnewaySetPosition controllerId knows hub fun result =>
    match parsePosition position with
    | .error message => (result.reports message, hub)
    | .ok position =>
      (result.succeeds "1W position command queued",
        { hub with opQueue := hub.opQueue.enqueueOnewayPosition controllerId position })

/-- `api_oneway_remove_controller`. -/
def onewayRemoveController (controllerId : String) (knows : String → Bool) (hub : Hub) :
    ActionResult × Hub :=
  withController managementActionOnewayRemoveController controllerId knows hub fun result =>
    (result.succeeds "1W remove-controller (0x39) queued",
      { hub with opQueue := hub.opQueue.enqueueOnewayUnenroll controllerId })

end HomeIoControl.ManagementActions
