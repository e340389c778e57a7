import HomeIoControl.ProtocolCrypto
import HomeIoControl.DeviceModels

/-!
# Frame builders

The frames that discovery, pairing and authentication send, in the controller's role and in
the device's. A builder fails exactly when its payload does not fit a frame.
-/

namespace HomeIoControl.ProtocolCommands

open ProtocolFrames ProtocolCrypto DeviceModels

def broadcastDiscover : NodeId := ⟨0x00, 0x00, 0x3B⟩
def broadcastDiscoverAlt : NodeId := ⟨0x00, 0x00, 0x3F⟩

/-- The common shape of the builders: flags, endpoints, then command and payload. -/
def buildFrame (start «end» lowPower : Bool) (dst src : NodeId) (cmd : UInt8)
    (params : List UInt8) : Option IoFrame :=
  setCmd (setSrc (setDst (initFrame true start «end» lowPower) dst) src) cmd params

theorem buildFrame_isSome {start «end» lowPower : Bool} {dst src : NodeId} {cmd : UInt8}
    {params : List UInt8} (h : params.length ≤ frameMaxDataSize) :
    (buildFrame start «end» lowPower dst src cmd params).isSome := by
  simp [buildFrame, setCmd, h]

/-- What a built frame carries. -/
theorem buildFrame_fields {start «end» lowPower : Bool} {dst src : NodeId} {cmd : UInt8}
    {params : List UInt8} {f : IoFrame}
    (h : buildFrame start «end» lowPower dst src cmd params = some f) :
    f.dst = dst ∧ f.src = src ∧ f.cmd = cmd ∧ f.data = params := by
  unfold buildFrame setCmd at h
  split at h
  · have hf := Option.some.inj h
    subst hf
    exact ⟨rfl, rfl, rfl, rfl⟩
  · cases h

/-- What is transmitted of a built frame parses back to it. -/
theorem buildFrame_on_air {start «end» lowPower : Bool} {dst src : NodeId} {cmd : UInt8}
    {params : List UInt8} {f : IoFrame}
    (h : buildFrame start «end» lowPower dst src cmd params = some f) :
    ∃ buf, serialize f = some buf ∧ parse buf = some f := by
  obtain ⟨buf, hbuf⟩ := serialize_setCmd h rfl
  exact ⟨buf, hbuf, parse_serialize hbuf⟩

def createDiscover (own : NodeId) : Option IoFrame :=
  buildFrame true true false broadcastDiscover own cmdDiscoverReq []

/-- `create_discovery_request` with its drawn nonce, which only the self-authenticating request
carries. -/
def createDiscoveryRequest (own : NodeId) (command : UInt8) (dst : NodeId)
    (lowPower payloadEnabled : Bool) (payload : UInt8) (systemKey : Block) (nonce : Challenge) :
    Option IoFrame :=
  if command = cmdDiscoverReq then
    buildFrame true true lowPower dst own cmdDiscoverReq []
  else if command = cmdDiscoverSpeReq then
    buildFrame true true lowPower dst own cmdDiscoverSpeReq
      (nonce.toList ++ (createHmac [command] nonce systemKey).toList)
  else if command = cmdDiscoverAltReq then
    buildFrame true true lowPower dst own cmdDiscoverAltReq (if payloadEnabled then [payload] else [])
  else none

theorem createDiscoveryRequest_fields {own dst : NodeId} {command : UInt8}
    {lowPower payloadEnabled : Bool} {payload : UInt8} {systemKey : Block} {nonce : Challenge}
    {f : IoFrame} (h : createDiscoveryRequest own command dst lowPower payloadEnabled payload
      systemKey nonce = some f) :
    f.src = own ∧
      (f.cmd = cmdDiscoverReq ∨ f.cmd = cmdDiscoverSpeReq ∨ f.cmd = cmdDiscoverAltReq) := by
  unfold createDiscoveryRequest at h
  split_ifs at h
  all_goals
    obtain ⟨-, hsrc, hcmd, -⟩ := buildFrame_fields h
    simp [hsrc, hcmd]

def createKeyInit (own dst : NodeId) : Option IoFrame :=
  buildFrame true false true dst own cmdKeyInit []

/-- The key is hidden under the challenge and the command of the frame it answers. -/
def createKeyTransfer (oldFrame : IoFrame) (dst src : NodeId) (key : Block)
    (challenge : Challenge) : Option IoFrame :=
  buildFrame false false true dst src cmdKeyTransfer
    (cryptKey [oldFrame.cmd] challenge key).toList

def createChallengeReqFramed (dst src : NodeId) (challenge : Challenge)
    (start lowPower : Bool) : Option IoFrame :=
  buildFrame start false lowPower dst src cmdChallengeReq challenge.toList

def createChallengeReq (dst src : NodeId) (challenge : Challenge) : Option IoFrame :=
  createChallengeReqFramed dst src challenge false false

/-- The authenticator covers the command and payload of the frame that was challenged. -/
def createChallengeRespFramed (dst src : NodeId) (challenge : Challenge) (origin : IoFrame)
    (key : Block) («end» lowPower : Bool) : Option IoFrame :=
  buildFrame false «end» lowPower dst src cmdChallengeResp
    (createHmac (origin.cmd :: origin.data) challenge key).toList

def createChallengeResp (dst src : NodeId) (challenge : Challenge) (origin : IoFrame)
    (key : Block) : Option IoFrame :=
  createChallengeRespFramed dst src challenge origin key false true

def createStatusUpdateResp (own dst : NodeId) : Option IoFrame :=
  buildFrame false true true dst own cmdStatusUpdateResp [0x05, 0x00]

def createSetConfig1 (own dst : NodeId) : Option IoFrame :=
  buildFrame true false true dst own cmdSetConfig1 [0xE0, 0x10, 0x0A, 0x08, 0x00]

def keyExtractionDiscoverRespFlags : UInt8 := 0xDD
def keyExtractionDiscoverRespTimestamp : UInt16 := 0x000E

def createDiscoverResp (own dst : NodeId) (type : DeviceType) (subtype manufacturerId : UInt8) :
    Option IoFrame :=
  let packed := encodePackedDeviceType type subtype
  buildFrame true true false dst own cmdDiscoverResp
    ([packed.1, packed.2] ++ own.bytes ++ [manufacturerId, keyExtractionDiscoverRespFlags,
      (keyExtractionDiscoverRespTimestamp >>> 8).toUInt8,
      keyExtractionDiscoverRespTimestamp.toUInt8])

def createDeviceTerminalAck (own dst : NodeId) (cmd : UInt8) : Option IoFrame :=
  buildFrame false true false dst own cmd []

def createKeyConfirm (own dst : NodeId) : Option IoFrame :=
  createDeviceTerminalAck own dst cmdKeyConfirm

def createDiscoverConfirmAck (own dst : NodeId) : Option IoFrame :=
  createDeviceTerminalAck own dst cmdDiscoverConfirmAck

/-- `create_challenge_req_device_role`. -/
def createChallengeReqDeviceRole (dst src : NodeId) (challenge : Challenge) : Option IoFrame :=
  createChallengeReqFramed dst src challenge false false

def createAddressRespDeviceRole (own dst : NodeId) : Option IoFrame :=
  buildFrame false false false dst own cmdAddressResp own.bytes

def createChallengeRespDeviceRole (dst src : NodeId) (challenge : Challenge) (origin : IoFrame)
    (key : Block) : Option IoFrame :=
  createChallengeRespFramed dst src challenge origin key true false

/-- `recover_system_key_from_transfer`: the decode direction of `createKeyTransfer`. -/
def recoverSystemKeyFromTransfer (transferPayload : Block) (challenge : Challenge) : Block :=
  cryptKey [cmdKeyInit] challenge transferPayload

/-- The first `n` payload bytes, as the fixed-size buffer a callee reads them through. -/
def payloadPrefix (f : IoFrame) (n : ℕ) : Vector UInt8 n := Vector.ofFn fun i => f.dataAt i

theorem payloadPrefix_of_data {f : IoFrame} {n : ℕ} {v : Vector UInt8 n}
    (h : f.data = v.toList) : payloadPrefix f n = v := by
  apply Vector.ext
  intro i hi
  simp [payloadPrefix, IoFrame.dataAt, h]

/-- A key transfer read under the challenge it was built with gives the key. -/
theorem recoverSystemKey_createKeyTransfer {oldFrame f : IoFrame} {dst src : NodeId}
    {key : Block} {challenge : Challenge} (hcmd : oldFrame.cmd = cmdKeyInit)
    (h : createKeyTransfer oldFrame dst src key challenge = some f) :
    recoverSystemKeyFromTransfer (payloadPrefix f 16) challenge = key := by
  obtain ⟨-, -, -, hdata⟩ := buildFrame_fields h
  have hpayload : payloadPrefix f 16 = cryptKey [cmdKeyInit] challenge key := by
    rw [← hcmd]
    exact payloadPrefix_of_data hdata
  rw [recoverSystemKeyFromTransfer, hpayload, cryptKey_cryptKey]

end HomeIoControl.ProtocolCommands
