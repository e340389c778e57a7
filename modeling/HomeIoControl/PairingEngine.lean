import HomeIoControl.Exchanges
import HomeIoControl.DeviceRegistries

/-!
# Pairing a device

The controller's side of pairing: discover a device, hand the system key over and register
the device. The three phases share their frame buffers, which every wait overwrites.
-/

namespace HomeIoControl.PairingEngine

open TracedPrograms ProtocolFrames ProtocolCrypto ProtocolCommands DeviceModels DeviceRegistries
  RadioLinks Exchanges

def pairingDiscoveryMaxAttempts : ℕ := 3
def pairingKeyChallengeTimeoutMs : UInt32 := 500
def pairingKeyConfirmTimeoutMs : UInt32 := 500
def preambleLingerDwellMs : UInt32 := 15
def deviceMetadataSize : ℕ := 2

inductive PairingDiscoveryDisposition where
  | noResponse
  | invalid
  | accept
  deriving DecidableEq, Repr

inductive PairingKeyChallengeDisposition where
  | ignore
  | accept
  deriving DecidableEq, Repr

def classifyPairingDiscoveryResponse (candidate : IoFrame) (controllerId : NodeId) :
    PairingDiscoveryDisposition :=
  if candidate.cmd = cmdDiscoverResp ∧ candidate.dst = controllerId then .accept else .invalid

def classifyPairingKeyChallenge (candidate : IoFrame) (deviceId controllerId : NodeId) :
    PairingKeyChallengeDisposition :=
  if candidate.cmd = cmdChallengeReq ∧ candidate.dataLen = hmacSize ∧
      frameMatchesNodes candidate deviceId controllerId then .accept else .ignore

def frameIsKeyConfirm (frame : IoFrame) : Bool := frame.cmd = cmdKeyConfirm

/-- A device as discovery describes it, under the identifier that spells its address. -/
structure DiscoveredDevice where
  device : IoDevice
  deviceId : String
  spelled : hexToNodeId deviceId = some device.nodeId

/-- `decode_discovery_response`: the device record and its identifier. -/
def decodeDiscoveryResponse (frame : IoFrame) : DiscoveredDevice where
  device :=
    if deviceMetadataSize ≤ frame.dataLen then
      let type := decodePackedDeviceType (frame.dataAt 0) (frame.dataAt 1)
      { nodeId := frame.src
        type := type
        subtype := decodePackedDeviceSubtype (frame.dataAt 1)
        inverted := defaultInvertedForType type }
    else { nodeId := frame.src }
  deviceId := nodeIdToString frame.src
  spelled := by
    rw [hexToNodeId_nodeIdToString]
    split_ifs <;> rfl

@[simp] theorem decodeDiscoveryResponse_nodeId (frame : IoFrame) :
    (decodeDiscoveryResponse frame).device.nodeId = frame.src := by
  unfold decodeDiscoveryResponse
  split_ifs <;> rfl

/-- The frame buffers that the phases share. -/
structure PairingFrames where
  req : IoFrame
  resp : IoFrame
  rx : IoFrame
  keyInit : IoFrame

/-- The buffers, and from the end of the discovery on the device. -/
structure PairingContext extends PairingFrames where
  found : DiscoveredDevice

namespace PairingContext

def nodeId (context : PairingContext) : NodeId := context.found.device.nodeId

end PairingContext

def emptyFrames : PairingFrames :=
  let empty := initFrame true false false false
  ⟨empty, empty, empty, empty⟩

/-- `resolve_discovery_destination`. -/
def resolveDiscoveryDestination (command : UInt8) (destinationAuto : Bool)
    (destination : NodeId) : NodeId :=
  if destinationAuto = false then destination
  else if command = cmdDiscoverAltReq then broadcastDiscoverAlt
  else broadcastDiscover

variable {σ : Type} (engine : ExchangeEngine σ)

def discoveryHandler (controllerId : NodeId) : ReplyHandler Bool :=
  fun _ parsed _ =>
    match parsed with
    | none => (true, .ignore)
    | some frame =>
      (true, if classifyPairingDiscoveryResponse frame controllerId = .accept then .accept
        else .ignore)

theorem discoveryHandler_accepts {controllerId : NodeId} {before captured : Bool}
    {parsed : Option IoFrame} {packet : RadioRxPacket}
    (h : discoveryHandler controllerId before parsed packet = (captured, .accept)) :
    ∃ frame, parsed = some frame ∧ frame.cmd = cmdDiscoverResp ∧ frame.dst = controllerId := by
  cases parsed with
  | none => cases h
  | some frame =>
    refine ⟨frame, rfl, ?_⟩
    by_contra hresp
    simp [discoveryHandler, classifyPairingDiscoveryResponse, hresp] at h

/-- `wait_for_discovery_response_`: the disposition and the response frame. -/
def waitForDiscoveryResponse (rx : IoFrame) :
    RadioProg σ (PairingDiscoveryDisposition × IoFrame) := do
  let spec : ListenSpec :=
    { windowMs := engine.tuning.pairingDiscoveryWaitMs.toUInt32
      policy := .rotateSkippingRequest
      requestFreq := freqCh2
      lingerOnPreamble := true
      lingerDwellMs := preambleLingerDwellMs }
  let listened ← listen engine.radio .discovery spec (discoveryHandler engine.nodeId) rx false
  if listened.outcome = .accepted then pure (.accept, listened.frame)
  else pure (if listened.captured then .invalid else .noResponse, listened.frame)

def keyChallengeHandler (deviceId controllerId : NodeId) : ReplyHandler PUnit :=
  fun _ parsed _ =>
    match parsed with
    | none => (⟨⟩, .ignore)
    | some frame =>
      (⟨⟩, if frame.cmd = cmdKeyConfirm ∧ frame.src = deviceId ∧ frame.dst = controllerId then
          .accept
        else if classifyPairingKeyChallenge frame deviceId controllerId ≠ .accept then .ignore
        else .accept)

theorem keyChallengeHandler_accepts {deviceId controllerId : NodeId} {before captured : PUnit}
    {parsed : Option IoFrame} {packet : RadioRxPacket}
    (h : keyChallengeHandler deviceId controllerId before parsed packet = (captured, .accept)) :
    ∃ frame, parsed = some frame ∧ frame.src = deviceId ∧ frame.dst = controllerId ∧
      (frame.cmd = cmdKeyConfirm ∨ frame.cmd = cmdChallengeReq ∧ frame.dataLen = hmacSize) := by
  cases parsed with
  | none => cases h
  | some frame =>
    refine ⟨frame, rfl, ?_⟩
    by_cases hconfirm : frame.cmd = cmdKeyConfirm ∧ frame.src = deviceId ∧
        frame.dst = controllerId
    · exact ⟨hconfirm.2.1, hconfirm.2.2, .inl hconfirm.1⟩
    · simp only [keyChallengeHandler, if_neg hconfirm, classifyPairingKeyChallenge,
        frameMatchesNodes] at h
      by_cases hchallenge : frame.cmd = cmdChallengeReq ∧ frame.dataLen = hmacSize ∧
          frame.src = deviceId ∧ frame.dst = controllerId
      · exact ⟨hchallenge.2.2.1, hchallenge.2.2.2, .inr ⟨hchallenge.1, hchallenge.2.1⟩⟩
      · simp [hchallenge] at h

/-- `wait_for_key_challenge_`: a challenge of the device, or its confirmation right away. -/
def waitForKeyChallenge (rx : IoFrame) (deviceId : NodeId) : RadioProg σ (Bool × IoFrame) := do
  let spec : ListenSpec :=
    { windowMs := pairingKeyChallengeTimeoutMs, policy := .holdRequestChannel }
  let listened ← listen engine.radio .keyChallenge spec
    (keyChallengeHandler deviceId engine.nodeId) rx ⟨⟩
  pure (listened.outcome = .accepted, listened.frame)

def keyConfirmHandler (req : IoFrame) : ReplyHandler PUnit :=
  fun _ parsed _ =>
    match parsed with
    | none => (⟨⟩, .ignore)
    | some frame =>
      (⟨⟩, if frameMatchesExchangeEndpoints req frame = false then .ignore
        else if frameIsKeyConfirm frame then .accept
        else .abort)

theorem keyConfirmHandler_accepts {req : IoFrame} {before captured : PUnit}
    {parsed : Option IoFrame} {packet : RadioRxPacket}
    (h : keyConfirmHandler req before parsed packet = (captured, .accept)) :
    ∃ frame, parsed = some frame ∧ frame.src = req.dst ∧ frame.dst = req.src ∧
      frame.cmd = cmdKeyConfirm := by
  cases parsed with
  | none => cases h
  | some frame =>
    simp only [keyConfirmHandler, frameMatchesExchangeEndpoints, frameMatchesNodes,
      frameIsKeyConfirm, decide_eq_false_iff_not, decide_eq_true_eq] at h
    split_ifs at h with hends hconfirm
    · exact ⟨frame, rfl, hends.1, hends.2, hconfirm⟩
    · cases h
    · cases h

/-- The pause before every try but the first. -/
def delayRetry (first : Bool) : RadioProg σ PUnit :=
  if first then pure ⟨⟩
  else ask fun s => (PUnit.unit, engine.radio.delay exchangeRetryDelayMs s)

theorem delayRetry_traces (first : Bool) : Traces (delayRetry engine first) fun _ es => es = [] :=
  Traces.ite (fun _ => Traces.pure rfl) fun _ => Traces.ask fun _ => rfl

/-- `wait_for_key_confirm_`: transmit `context.req` until it is confirmed, with the tries left;
any other answer ends the wait. -/
def waitForKeyConfirm : ℕ → PairingContext → RadioProg σ (Bool × PairingContext)
  | 0, context => pure (false, context)
  | tries + 1, context => do
    delayRetry engine (tries + 1 = exchangeRetryCount)
    let sent ← transmitFrame engine.radio engine.tuning .pairing context.req freqCh2
      engine.radio.responsePreamble
    if sent = false then waitForKeyConfirm tries context
    else do
      let spec : ListenSpec :=
        { windowMs := pairingKeyConfirmTimeoutMs, policy := .holdRequestChannel }
      let listened ← listen engine.radio .keyConfirm spec (keyConfirmHandler context.req)
        context.resp ⟨⟩
      let context := { context with resp := listened.frame }
      match listened.outcome with
      | .accepted => pure (true, context)
      | .aborted => pure (false, context)
      | .timedOut => waitForKeyConfirm tries context

/-- `create_discovery_request`, drawing the nonce where the command needs one. -/
def discoveryRequest (command : UInt8) : RadioProg σ (Option IoFrame) :=
  let tuning := engine.tuning
  let create := createDiscoveryRequest engine.nodeId command
    (resolveDiscoveryDestination command tuning.pairingDiscoveryDestinationAuto
      tuning.pairingDiscoveryDestination)
    tuning.pairingDiscoveryLowPower tuning.pairingDiscoveryPayloadEnabled
    tuning.pairingDiscoveryPayload engine.systemKey
  if command = cmdDiscoverSpeReq then do
    let nonce ← ask engine.radio.generateChallenge
    pure (create nonce)
  else pure (create (Vector.replicate 6 0))

/-- How far discovery got: nothing could be sent, nobody answered so far, or a device did. -/
inductive DiscoveryProgress where
  | failed
  | unanswered (frames : PairingFrames) (sawInvalid : Bool)
  | found (context : PairingContext)

/-- The attempts left for one discovery command. -/
def discoveryAttempts (command : UInt8) :
    ℕ → PairingFrames → Bool → RadioProg σ DiscoveryProgress
  | 0, frames, sawInvalid => pure (.unanswered frames sawInvalid)
  | attempts + 1, frames, sawInvalid => do
    let created ← discoveryRequest engine command
    match created with
    | none => pure .failed
    | some req => do
      let sent ← transmitFrame engine.radio engine.tuning .pairing req freqCh2 longPreamble
      if sent = false then pure .failed
      else do
        let result ← waitForDiscoveryResponse engine frames.rx
        let frames := { frames with req := req, rx := result.2 }
        match result.1 with
        | .accept => pure (.found { frames with found := decodeDiscoveryResponse frames.rx })
        | .invalid => discoveryAttempts command attempts frames true
        | .noResponse => discoveryAttempts command attempts frames sawInvalid

/-- The discovery commands left. -/
def discoveryCommands : List UInt8 → PairingFrames → Bool → RadioProg σ DiscoveryProgress
  | [], frames, sawInvalid => pure (.unanswered frames sawInvalid)
  | command :: commands, frames, sawInvalid => do
    let progress ← discoveryAttempts engine command pairingDiscoveryMaxAttempts frames sawInvalid
    match progress with
    | .unanswered frames sawInvalid => discoveryCommands commands frames sawInvalid
    | .failed => pure .failed
    | .found context => pure (.found context)

def initialDwell : RadioProg σ PUnit :=
  let dwell := engine.tuning.pairingDiscoveryInitialDwellMs
  if 0 < dwell then ask fun s => (PUnit.unit, engine.radio.delay dwell.toUInt32 s)
  else pure ⟨⟩

/-- `run_discovery_phase_`. -/
def runDiscoveryPhase (frames : PairingFrames) : RadioProg σ DiscoveryProgress := do
  initialDwell engine
  discoveryCommands engine engine.tuning.pairingDiscoveryCommands frames false

/-- `transfer_key_and_wait_confirm_`: transfer the key under the challenge in `context.rx`. A
radio that turns around fast awaits the confirmation in a standard exchange. -/
def transferKeyAndWaitConfirm (context : PairingContext) :
    RadioProg σ (Bool × PairingContext) :=
  match createKeyTransfer context.keyInit context.nodeId engine.nodeId engine.systemKey
      (payloadPrefix context.rx 6) with
  | none => pure (false, context)
  | some req =>
    let context := { context with req := req }
    if engine.radio.hasFastTxRxTurnaround then do
      let result ← sendAndReceive engine req context.resp freqCh2 (UInt8.ofNat exchangeRetryCount)
      pure (result.1 = .successWithResponse && frameIsKeyConfirm result.2,
        { context with resp := result.2 })
    else waitForKeyConfirm engine exchangeRetryCount context

/-- The repeated key-init of a slowly turning radio, with the repetitions left: it prompts a
device that holds the key to confirm again, and one that does not to challenge again. -/
def retriggerKeyInit : ℕ → Bool → PairingContext → RadioProg σ (Bool × PairingContext)
  | 0, keyOk, context => pure (keyOk, context)
  | repetitions + 1, keyOk, context =>
    if keyOk then pure (true, context)
    else do
      delayRetry engine false
      let sent ← transmitFrame engine.radio engine.tuning .pairing context.keyInit freqCh2
        longPreamble
      if sent = false then retriggerKeyInit repetitions false context
      else do
        let challenged ← waitForKeyChallenge engine context.rx context.nodeId
        let context := { context with rx := challenged.2 }
        if challenged.1 = false then retriggerKeyInit repetitions false context
        else if context.rx.cmd = cmdKeyConfirm then retriggerKeyInit repetitions true context
        else do
          let transferred ← transferKeyAndWaitConfirm engine context
          retriggerKeyInit repetitions transferred.1 transferred.2

/-- `run_key_exchange_phase_`. -/
def runKeyExchangePhase (context : PairingContext) : RadioProg σ (Bool × PairingContext) :=
  match createKeyInit engine.nodeId context.nodeId with
  | none => pure (false, context)
  | some keyInit => do
    let context := { context with keyInit := keyInit }
    let sent ← transmitFrame engine.radio engine.tuning .pairing keyInit freqCh2 longPreamble
    if sent = false then pure (false, context)
    else do
      let challenged ← waitForKeyChallenge engine context.rx context.nodeId
      let context := { context with rx := challenged.2 }
      if challenged.1 = false then pure (false, context)
      else if context.rx.cmd = cmdKeyConfirm then
        pure (true, { context with resp := context.rx })
      else do
        let transferred ← transferKeyAndWaitConfirm engine context
        if engine.radio.hasFastTxRxTurnaround then pure transferred
        else retriggerKeyInit engine 2 transferred.1 transferred.2

/-- The key exchange attempts left; `first` is the one that waits for nothing. -/
def keyExchangeAttempts : ℕ → Bool → PairingContext → RadioProg σ (Bool × PairingContext)
  | 0, _, context => pure (false, context)
  | attempts + 1, first, context => do
    delayRetry engine first
    let exchanged ← runKeyExchangePhase engine context
    if exchanged.1 then pure exchanged else keyExchangeAttempts attempts false exchanged.2

/-- `finalize_pairing_configuration_`, best-effort. -/
def finalizePairingConfiguration (context : PairingContext) :
    RadioProg σ (Bool × PairingContext) :=
  match createSetConfig1 engine.nodeId context.nodeId with
  | none => pure (false, context)
  | some req => do
    let result ← sendAndReceive engine req context.resp freqCh2 (UInt8.ofNat exchangeRetryCount)
    pure (result.1 ≠ .failed, { context with req := req, resp := result.2 })

/-- `discover_and_pair`: the result and the registry afterwards. -/
def discoverAndPair (registry : DeviceRegistry) : RadioProg σ (Bool × DeviceRegistry) := do
  let progress ← runDiscoveryPhase engine emptyFrames
  match progress with
  | .failed => pure (false, registry)
  | .unanswered _ _ => pure (false, registry)
  | .found context => do
    let exchanged ← keyExchangeAttempts engine engine.tuning.pairingKeyExchangeRetries.toNat true
      context
    if exchanged.1 = false then pure (false, registry)
    else do
      let finalized ← finalizePairingConfiguration engine exchanged.2
      let found := finalized.2.found
      pure (true, registry.put found.deviceId found.device found.spelled)

end HomeIoControl.PairingEngine
