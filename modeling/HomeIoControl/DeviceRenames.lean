import HomeIoControl.ManagementRuns

/-!
# Renaming a device

A rename writes the name and asks for it again. It is verified by what the device then says, so
that of a device that keeps its name exactly those names are verified that can be read back.
-/

namespace HomeIoControl.DeviceRenames

open TracedPrograms ProtocolFrames ProtocolCommands ProtocolCodecs DeviceModels DeviceRegistries
  DeviceRequests DeviceNames PendingOperations RadioLinks Exchanges HubStatus HubOperations
  ConfigAddresses ManagementActions ManagementRuns

variable {σ ε α : Type}

theorem length_hexPairs {text : List Char} {bytes : List UInt8} (h : hexPairs text = some bytes) :
    text.length = 2 * bytes.length := by
  induction text using hexPairs.induct generalizing bytes with
  | case1 => cases h; rfl
  | case2 => exact absurd h (by simp [hexPairs])
  | case3 high low rest i j bytes' hrest hlow hhigh ih =>
    simp only [hexPairs, hhigh, hlow, hrest, Option.some.injEq] at h
    rw [← h, List.length_cons, List.length_cons, List.length_cons, ih hrest]
    omega
  | case4 high low rest hnot =>
    simp only [hexPairs] at h
    cases h

theorem toUpper_not_lower (ch : Char) : ¬ ('a' ≤ ch.toUpper ∧ ch.toUpper ≤ 'z') := by
  rintro ⟨hlow, hhigh⟩
  have hall : ∀ k < 128, ¬ ('a' ≤ (Char.ofNat k).toUpper ∧ (Char.ofNat k).toUpper ≤ 'z') := by
    decide
  by_cases hascii : ch.toNat < 128
  · rw [← Char.ofNat_toNat ch] at hlow hhigh
    exact hall _ hascii ⟨hlow, hhigh⟩
  · have hkeep : ch.toUpper = ch := by
      refine dif_neg ?_
      rintro ⟨-, hz⟩
      exact hascii (Nat.lt_of_le_of_lt (UInt32.le_iff_toNat_le.mp hz) (by decide))
    rw [hkeep] at hhigh
    exact hascii (Nat.lt_of_le_of_lt (UInt32.le_iff_toNat_le.mp hhigh) (by decide))

/-- The device that an argument names is registered under its address. -/
theorem namedDevice_id {deviceId : List Char} {hub : Hub} {dev : IoDevice}
    (h : namedDevice deviceId hub = some dev) :
    normalizeDeviceIdArgument deviceId = nodeIdToString dev.nodeId := by
  obtain ⟨⟨-, hdigits⟩, hdev⟩ := namedDevice_eq h
  obtain ⟨bytes, hbytes⟩ := Option.isSome_iff_exists.mp hdigits
  obtain ⟨hpairs, hlength⟩ := Option.filter_eq_some_iff.mp hbytes
  obtain ⟨b, hb, htext⟩ := bytes_of_digits 3
    (by rw [length_hexPairs hpairs, of_decide_eq_true hlength]) fun ch hch => by
      refine upper_hexDigit (isHexDigit_of_hexPairs hpairs ch hch) ?_
      rw [normalizeDeviceIdArgument, String.toList_ofList] at hch
      obtain ⟨ch', -, rfl⟩ := List.mem_map.mp hch
      exact toUpper_not_lower ch'
  obtain ⟨id, hid, hspelled⟩ := namesAddress_of_bytes _ b hb htext
  rw [hub.registry.spelled _ _ hdev] at hid
  obtain rfl := Option.some.inj hid
  exact hspelled.symm

/-- A report of a name is written to the device that it is from. -/
theorem updateDeviceStatus_name (ports : ReceivePorts σ ε) {frame : IoFrame} {hub : Hub}
    {dev : IoDevice} (hcmd : frame.cmd = cmdGetNameResp)
    (hlength : getNameResponseMinDataLen ≤ frame.dataLen)
    (hdev : hub.registry.get (nodeIdToString frame.src) = some dev) (trustPosition : Bool) :
    Returns (updateDeviceStatus ports frame trustPosition hub) fun hub' =>
      (hub'.registry.get (nodeIdToString frame.src)).map IoDevice.name =
        some (decodeDeviceNamePayload frame.data) := by
  have hprivate : cmdGetNameResp ≠ cmdPrivateResp := by decide
  have hstatus : cmdGetNameResp ≠ cmdStatusUpdate := by decide
  rw [updateDeviceStatus]
  simp only [hdev, hcmd, hlength, if_neg hprivate, if_neg hstatus, and_self, if_true]
  refine Returns.skip fun now => Returns.skip fun rssi => Returns.pure ?_
  rw [Hub.updateDevice, DeviceRegistry.get_update, if_pos rfl, hdev]
  rfl

/-- A device that takes a name and gives back what it took. -/
structure KeepsName (ports : HubPorts σ ε) (own dst : NodeId) (stored : σ → List UInt8) :
    Prop where
  takes : ∀ request freq maxTries w, IsRequest own dst cmdSetName request →
    (ports.sendAndReceive request freq maxTries w).1.outcome = .successWithResponse ∧
      (ports.sendAndReceive request freq maxTries w).1.response.cmd = cmdSetNameResp ∧
      stored (ports.sendAndReceive request freq maxTries w).2.env = request.data
  gives : ∀ request freq maxTries w, IsRequest own dst cmdGetName request →
    (ports.sendAndReceive request freq maxTries w).1.outcome = .successWithResponse ∧
      (ports.sendAndReceive request freq maxTries w).1.response.cmd = cmdGetNameResp ∧
      (ports.sendAndReceive request freq maxTries w).1.response.src = dst ∧
      (ports.sendAndReceive request freq maxTries w).1.response.data = stored w.env

/-- A request that is answered comes to what the answer leaves. -/
theorem executeRequestAndUpdate_answered (ports : HubPorts σ ε) (deviceId : String)
    {request : IoFrame} (retryAfterFailMs : UInt32) {maxTries : UInt8} (hub : Hub)
    {w : World σ ε}
    (houtcome : (ports.sendAndReceive request freqCh2 maxTries w).1.outcome = .successWithResponse)
    (hcmd : (ports.sendAndReceive request freqCh2 maxTries w).1.response.cmd ≠ cmdErrorResp) :
    executeRequestAndUpdate ports deviceId request retryAfterFailMs maxTries hub w =
      requestAnswered ports deviceId request retryAfterFailMs
        (ports.sendAndReceive request freqCh2 maxTries w).1 hub
        (ports.sendAndReceive request freqCh2 maxTries w).2 := by
  rw [executeRequestAndUpdate, bind_apply]
  simp only [houtcome, if_neg hcmd]

variable {stored : σ → List UInt8} {hub : Hub} {dev : IoDevice} {management : Management σ ε}

/-- A device that keeps its name is known by it after it was asked. -/
theorem requestDeviceName_reads
    (h : KeepsName management.ports hub.nodeId dev.nodeId stored)
    (hdev : hub.registry.get (nodeIdToString dev.nodeId) = some dev)
    (hinitialized : hub.initialized = true) (w : World σ (ActionEvent ε))
    (hstored : getNameResponseMinDataLen ≤ (stored w.env).length) :
    (requestDeviceName (shown management.ports) (nodeIdToString dev.nodeId) hub w).1.1 = true ∧
      ((requestDeviceName (shown management.ports) (nodeIdToString dev.nodeId) hub
        w).1.2.registry.get (nodeIdToString dev.nodeId)).map IoDevice.name =
          some (decodeDeviceNamePayload (stored w.env)) := by
  obtain ⟨request, hrequest, his, -⟩ := createRequest_isSome hub.nodeId dev.nodeId dev.lowPower
    cmdGetName empty_payload_le
  obtain ⟨houtcome, hcmd, hsrc, hdata⟩ := h.gives request freqCh2 (UInt8.ofNat exchangeRetryCount)
    ⟨w.env, []⟩ his
  have hanswer : cmdGetNameResp ≠ cmdErrorResp := by decide
  have hlong : getNameResponseMinDataLen ≤ (management.ports.sendAndReceive request freqCh2
      (UInt8.ofNat exchangeRetryCount) ⟨w.env, []⟩).1.response.dataLen := by
    rw [IoFrame.dataLen, hdata]
    exact hstored
  have hfrom : hub.registry.get (nodeIdToString (management.ports.sendAndReceive request freqCh2
      (UInt8.ofNat exchangeRetryCount) ⟨w.env, []⟩).1.response.src) = some dev := by
    rw [hsrc]
    exact hdev
  have hnamed := updateDeviceStatus_name (shown management.ports).toReceivePorts hcmd hlong hfrom
    (request.cmd ≠ cmdExecute)
  rw [hsrc, hdata] at hnamed
  have hanswered := executeRequestAndUpdate_answered (shown management.ports)
    (nodeIdToString dev.nodeId) 0 hub (w := w) houtcome fun heq => hanswer (hcmd.symm.trans heq)
  simp only [requestDeviceName, hdev, hinitialized, createGetName, hrequest]
  simp only [Bool.true_eq_false, if_false, bind_apply]
  rw [hanswered]
  exact ⟨rfl, hnamed _⟩

theorem length_payload {name : List UInt8} (h : (encodeDeviceNamePayload name).error = .none) :
    (encodeDeviceNamePayload name).payload.length = deviceNameWritePayloadSize := by
  obtain ⟨text, hname, hne, hlength⟩ := encode_none h
  rw [encode_utf8 hname hne hlength, zeroPadded, List.length_append, List.length_replicate]
  rw [deviceNameWriteCharLimit] at hlength
  rw [deviceNameWritePayloadSize, deviceNameWriteCharLimit]
  omega

/-- The end of a rename of a device that keeps its name. -/
theorem verifyRename_reads (h : KeepsName management.ports hub.nodeId dev.nodeId stored)
    (hdev : hub.registry.get (nodeIdToString dev.nodeId) = some dev)
    (hinitialized : hub.initialized = true) {result : ActionResult}
    (hid : result.deviceId = nodeIdToString dev.nodeId) (normalizedName : List UInt8)
    (hunverified : result.verified = false) (w : World σ (ActionEvent ε))
    (hstored : getNameResponseMinDataLen ≤ (stored w.env).length) :
    (verifyRename management normalizedName result hub w).1.1.success = result.success ∧
      ((verifyRename management normalizedName result hub w).1.1.verified = true ↔
        decodeDeviceNamePayload (stored w.env) = normalizedName) ∧
      ((verifyRename management normalizedName result hub w).1.2.registry.get
        (nodeIdToString dev.nodeId)).map IoDevice.name =
          some (decodeDeviceNamePayload (stored w.env)) := by
  obtain ⟨hread, hname⟩ := requestDeviceName_reads h hdev hinitialized w hstored
  rw [verifyRename, bind_apply, hid, hread, if_neg (by simp), hname, Option.getD_some]
  by_cases hsame : decodeDeviceNamePayload (stored w.env) = normalizedName
  · rw [if_pos hsame]
    exact ⟨rfl, iff_of_true rfl hsame, hname⟩
  · rw [if_neg hsame]
    refine ⟨rfl, iff_of_false ?_ hsame, hname⟩
    rw [Bool.not_eq_true]
    exact hunverified

theorem sendAuthenticatedRequest_answered {request : IoFrame} {w : World σ (ActionEvent ε)}
    (h : (exchange management request w).1.outcome = .successWithResponse) (actionVerb : String)
    (result : ActionResult) :
    sendAuthenticatedRequest management request actionVerb result w =
      ((result, some (exchange management request w).1.response),
        (exchange management request w).2) := by
  rw [sendAuthenticatedRequest, bind_apply]
  simp only [h]
  rfl

/-- Renaming a device that keeps its name succeeds, and is verified exactly for the names that a
device can give back as they were asked for. The device is then known by the name it gave. -/
theorem rename_verified_iff {deviceId : List Char} {newName : List UInt8}
    (h : KeepsName management.ports hub.nodeId dev.nodeId stored)
    (hnamed : namedDevice deviceId hub = some dev)
    (haccepted : (encodeDeviceNamePayload newName).error = .none) :
    Returns (renameDevice management deviceId newName hub) fun ended =>
      ended.1.success = true ∧
        (ended.1.verified = true ↔ Readable (trimAsciiWhitespace newName)) ∧
        (ended.2.registry.get (nodeIdToString dev.nodeId)).map IoDevice.name =
          some (decodeDeviceNamePayload (encodeDeviceNamePayload newName).payload) := by
  intro w
  have hid := namedDevice_id hnamed
  have hdev : hub.registry.get (nodeIdToString dev.nodeId) = some dev := by
    rw [← hid]
    exact (namedDevice_eq hnamed).2
  have hfits : (encodeDeviceNamePayload newName).payload.length ≤ frameMaxDataSize := by
    rw [length_payload haccepted]
    decide
  obtain ⟨request, hrequest, his, hdata⟩ := createRequest_isSome hub.nodeId dev.nodeId dev.lowPower
    cmdSetName hfits
  obtain ⟨houtcome, hanswer, hstored⟩ := h.takes request freqCh2 (UInt8.ofNat exchangeRetryCount)
    ⟨w.env, []⟩ his
  have hnorefusal : cmdSetNameResp ≠ cmdErrorResp := by decide
  have hcreate : createSetName hub.nodeId dev.nodeId dev.lowPower
      (encodeDeviceNamePayload newName).payload = some request := hrequest
  have houtcome' : (exchange management request w).1.outcome = .successWithResponse := houtcome
  have hresponse : (exchange management request w).1.response.cmd = cmdSetNameResp := hanswer
  have hkept : stored (exchange management request w).2.env =
      (encodeDeviceNamePayload newName).payload := hstored.trans hdata
  have hlong :
      getNameResponseMinDataLen ≤ (stored (exchange management request w).2.env).length := by
    rw [hkept, length_payload haccepted]
    decide
  simp only [renameDevice, resolveDevice_named hnamed, haccepted, ne_eq, not_true_eq_false,
    if_false, hcreate]
  rw [bind_apply, sendAuthenticatedRequest_answered houtcome']
  simp only [renameAnswered, hresponse, if_neg hnorefusal, ne_eq, not_true_eq_false, if_false]
  generalize hresult : ActionResult.succeeds _ "rename acknowledged by device" = acknowledged
  have hdevice : acknowledged.deviceId = nodeIdToString dev.nodeId := by
    rw [← hresult]
    exact hid
  have hunverified : acknowledged.verified = false := by
    rw [← hresult]
    rfl
  obtain ⟨hsuccess, hverified, hname⟩ := verifyRename_reads h hdev (namedDevice_eq hnamed).1.1
    hdevice (encodeDeviceNamePayload newName).normalizedName hunverified
    (exchange management request w).2 hlong
  rw [hkept] at hverified hname
  -- what the device gives back is the name exactly if that is readable
  have hreadback : decodeDeviceNamePayload (encodeDeviceNamePayload newName).payload =
      (encodeDeviceNamePayload newName).normalizedName ↔
        Readable (trimAsciiWhitespace newName) := by
    obtain ⟨text, htext, hne, hlength⟩ := encode_none haccepted
    have hspaces := (trimAsciiWhitespace_spec newName).2.2
    rw [htext] at hspaces
    rw [encode_utf8 htext hne hlength, htext]
    exact decode_zeroPadded_iff hne hlength hspaces
  refine ⟨hsuccess.trans ?_, hverified.trans hreadback, hname⟩
  rw [← hresult]
  rfl

section

variable (ports : HubPorts σ ε)

theorem millis_quiet : Quiet (shown ports).millis := Quiet.relabel _

theorem updateDeviceStatus_quiet (frame : IoFrame) (trustPosition : Bool) (hub : Hub) :
    Quiet (updateDeviceStatus (shown ports).toReceivePorts frame trustPosition hub) := by
  rw [updateDeviceStatus]
  cases hub.registry.get (nodeIdToString frame.src) with
  | none => exact Quiet.pure _
  | some dev =>
    refine (millis_quiet ports).bind fun now => Quiet.bind (Quiet.relabel _) fun rssi => ?_
    have hstamped (hub' : UInt32 → Hub) :
        Quiet ((shown ports).millis >>= fun now => pure (hub' now)) :=
      (millis_quiet ports).bind fun now => Quiet.pure _
    refine Quiet.ite (Quiet.ite (Quiet.pure _) (hstamped _)) ?_
    refine Quiet.ite (Quiet.ite (Quiet.pure _) (hstamped _)) ?_
    refine Quiet.ite (Quiet.pure _) (Quiet.ite (Quiet.pure _) ?_)
    exact Quiet.ite (hstamped _) (Quiet.pure _)

theorem backOff_quiet (retryAfterFailMs : UInt32) (deviceId : String) (authLike : Bool)
    (hub : Hub) :
    Quiet (backOffIfScheduled (shown ports) retryAfterFailMs deviceId authLike hub) :=
  Quiet.ite ((millis_quiet ports).bind fun _ => Quiet.pure _) (Quiet.pure _)

theorem stampLinkHealth_quiet (deviceId : String) (hub : Hub) :
    Quiet (stampLinkHealth (shown ports) deviceId hub) :=
  Quiet.ite (Quiet.pure _) ((millis_quiet ports).bind fun _ =>
    Quiet.bind (Quiet.relabel _) fun _ => Quiet.pure _)

theorem recordRefusal_quiet (deviceId : String) (response : IoFrame) (hub : Hub) :
    Quiet (recordRefusal (shown ports) deviceId response hub) :=
  Quiet.ite (Quiet.pure _) ((millis_quiet ports).bind fun _ => Quiet.pure _)

/-- A request on behalf of a device is one exchange. -/
theorem executeRequestAndUpdate_requests (deviceId : String) (request : IoFrame)
    (retryAfterFailMs : UInt32) (maxTries : UInt8) (hub : Hub) :
    Traces (executeRequestAndUpdate (shown ports) deviceId request retryAfterFailMs maxTries hub)
      fun _ es => ∃ report, Exchanged es [(request, report)] := by
  have hfailed (report : ExchangeReport) :
      Quiet (requestFailed (shown ports) deviceId retryAfterFailMs report hub) :=
    (backOff_quiet ports _ _ _ _).bind fun _ => Quiet.pure _
  have hafter {p : ExchangeReport → Prog σ (ActionEvent ε) RequestResult}
      (hp : ∀ report, Quiet (p report)) :
      Traces ((shown ports).sendAndReceive request freqCh2 maxTries >>= p)
        fun _ es => ∃ report, Exchanged es [(request, report)] :=
    (sendAndReceive_traces ports request freqCh2 maxTries).bind fun report es hes =>
      (hp report).weaken fun _ fs hfs => ⟨report, hes.append hfs⟩
  refine hafter fun report => ?_
  cases report.outcome with
  | failed => exact hfailed report
  | successUnconfirmed =>
    exact Quiet.ite ((stampLinkHealth_quiet ports _ _).bind fun _ => Quiet.pure _) (hfailed report)
  | successWithResponse =>
    refine Quiet.ite ?_ ((updateDeviceStatus_quiet ports _ _ _).bind fun _ => Quiet.pure _)
    exact (stampLinkHealth_quiet ports _ _).bind fun _ =>
      (recordRefusal_quiet ports _ _ _).bind fun _ =>
        (backOff_quiet ports _ _ _ _).bind fun _ => Quiet.pure _

end

/-- A rename that came to nothing leaves the hub as it is. -/
def NotRenamed (hub : Hub) (ended : ActionResult × Hub) : Prop :=
  ended.1.success = false ∧ ended.1.verified = false ∧ ended.2 = hub

/-- A rename that was acknowledged; where it is verified, the device is known by the new name. -/
def Renamed (id : String) (normalizedName : List UInt8) (ended : ActionResult × Hub) : Prop :=
  ended.1.success = true ∧
    (ended.1.verified = true →
      (ended.2.registry.get id).map IoDevice.name = some normalizedName)

theorem normalizedName_ne_nil {name : List UInt8}
    (h : (encodeDeviceNamePayload name).error = .none) :
    (encodeDeviceNamePayload name).normalizedName ≠ [] := by
  obtain ⟨text, hname, hne, hlength⟩ := encode_none h
  rw [encode_utf8 hname hne hlength, ← hname]
  intro hnil
  rw [encodeDeviceNamePayload, if_pos hnil] at h
  cases h

theorem requestDeviceName_traces (ports : HubPorts σ ε) {deviceId : String} {hub : Hub}
    {dev : IoDevice} {request : IoFrame} (hdev : hub.registry.get deviceId = some dev)
    (hinitialized : hub.initialized = true)
    (hrequest : createGetName hub.nodeId dev.nodeId dev.lowPower = some request) :
    Traces (requestDeviceName (shown ports) deviceId hub) fun _ es =>
      ∃ report, Exchanged es [(request, report)] := by
  simp only [requestDeviceName, hdev, hinitialized, hrequest, Bool.true_eq_false, if_false]
  exact (executeRequestAndUpdate_requests ports _ _ _ _ _).bind fun result es hes =>
    Traces.pure (by rw [List.append_nil]; exact hes)

theorem verifyRename_traces {id : String} (hdev : hub.registry.get id = some dev)
    (hinitialized : hub.initialized = true) {request : IoFrame}
    (hrequest : createGetName hub.nodeId dev.nodeId dev.lowPower = some request)
    (result : ActionResult) (hid : result.deviceId = id) (hsuccess : result.success = true)
    (hunverified : result.verified = false) {normalizedName : List UInt8}
    (hname : normalizedName ≠ []) :
    Traces (verifyRename management normalizedName result hub) fun ended es =>
      (∃ report, Exchanged es [(request, report)]) ∧ Renamed id normalizedName ended := by
  subst hid
  have hpart {message : String} {hub' : Hub} {name : List UInt8} :
      Renamed result.deviceId normalizedName
        (ActionResult.reports { result with appliedName := name } message, hub') :=
    ⟨hsuccess, fun hverified => absurd (hunverified.symm.trans hverified) (by simp)⟩
  refine (requestDeviceName_traces management.ports hdev hinitialized hrequest).bind
    fun readback es hes => ?_
  rw [← List.append_nil es] at hes
  refine Traces.ite (fun _ => Traces.pure ⟨hes, hpart⟩) fun _ => ?_
  refine Traces.ite (fun hsame => ?_) fun _ => Traces.pure ⟨hes, hpart⟩
  refine Traces.pure ⟨hes, hsuccess, fun _ => ?_⟩
  cases happlied : (readback.2.registry.get result.deviceId).map IoDevice.name with
  | none => rw [happlied] at hsame; exact absurd hsame.symm hname
  | some name => rw [happlied] at hsame; exact congrArg some hsame

/-- The response that an exchange brought. -/
def responseOf (report : ExchangeReport) : Option IoFrame :=
  if report.outcome = .successWithResponse then some report.response else none

theorem sendAuthenticatedRequest_traces (request : IoFrame) (actionVerb : String)
    (result : ActionResult) :
    Traces (sendAuthenticatedRequest management request actionVerb result) fun sent es =>
      (∃ report, Exchanged es [(request, report)] ∧ sent.2 = responseOf report) ∧
        sent.1.success = result.success ∧ sent.1.verified = result.verified ∧
        sent.1.deviceId = result.deviceId := by
  refine (sendAndReceive_traces management.ports request _ _).bind fun report es hes => ?_
  rw [← List.append_nil es] at hes
  cases houtcome : report.outcome with
  | successWithResponse =>
    exact Traces.pure ⟨⟨report, hes, by rw [responseOf, if_pos houtcome]⟩, rfl, rfl, rfl⟩
  | successUnconfirmed =>
    exact Traces.pure ⟨⟨report, hes, by simp [responseOf, houtcome]⟩, rfl, rfl, rfl⟩
  | failed =>
    exact Traces.pure ⟨⟨report, hes, by simp [responseOf, houtcome]⟩, rfl, rfl, rfl⟩

/-- What an answer to a rename leads to: the name is asked for exactly if the answer is the
acknowledgement. -/
theorem renameAnswered_traces {id : String} (hdev : hub.registry.get id = some dev)
    (hinitialized : hub.initialized = true) {request : IoFrame}
    (hrequest : createGetName hub.nodeId dev.nodeId dev.lowPower = some request)
    {result : ActionResult} (hid : result.deviceId = id) (hsuccess : result.success = false)
    (hunverified : result.verified = false) {normalizedName : List UInt8}
    (hname : normalizedName ≠ []) (response : IoFrame) :
    Traces (renameAnswered management normalizedName response result hub) fun ended es =>
      (response.cmd ≠ cmdSetNameResp → Exchanged es [] ∧ NotRenamed hub ended) ∧
        (response.cmd = cmdSetNameResp →
          (∃ report, Exchanged es [(request, report)]) ∧ Renamed id normalizedName ended) := by
  have hleft {message : String} {code : Option UInt8} (h : response.cmd ≠ cmdSetNameResp) :
      Traces (pure (ActionResult.reports { result with resultCode := code } message, hub) :
        Prog σ (ActionEvent ε) (ActionResult × Hub)) fun ended es =>
          (response.cmd ≠ cmdSetNameResp → Exchanged es [] ∧ NotRenamed hub ended) ∧
            (response.cmd = cmdSetNameResp →
              (∃ report, Exchanged es [(request, report)]) ∧ Renamed id normalizedName ended) :=
    Traces.pure ⟨fun _ => ⟨Exchanged.nil, hsuccess, hunverified, rfl⟩, fun heq => absurd heq h⟩
  rw [renameAnswered]
  refine Traces.ite (fun herror => ?_) fun _ => Traces.ite (fun hother => ?_) fun hack => ?_
  · have hnot : response.cmd ≠ cmdSetNameResp := by
      rw [herror]
      decide
    by_cases hempty : response.dataLen = 0
    · simp only [applyErrorResponse, if_pos hempty, Bool.false_eq_true, if_false]
      exact hleft hnot
    · simp only [applyErrorResponse, if_neg hempty, if_true]
      exact hleft hnot
  · exact hleft hother
  · exact Traces.weaken (verifyRename_traces hdev hinitialized hrequest
      (result.succeeds "rename acknowledged by device") hid rfl hunverified hname)
      fun ended es hes => ⟨fun hother => absurd hother hack, fun _ => hes⟩

/-- The exchange of a rename brought the acknowledgement. -/
def Acknowledged (report : ExchangeReport) : Prop :=
  report.outcome = .successWithResponse ∧ report.response.cmd = cmdSetNameResp

/-- A rename that was sent: the name was written, and it was asked for exactly if the writing was
acknowledged. -/
structure RenameSent (hub : Hub) (dev : IoDevice) (newName : List UInt8) (setName getName : IoFrame)
    (ended : ActionResult × Hub) (es : List (ActionEvent ε)) (answer : ExchangeReport) : Prop where
  written : (exchanges es).head? = some (setName, answer)
  acknowledged : Acknowledged answer → requests es = [setName, getName] ∧
    Renamed (nodeIdToString dev.nodeId) (encodeDeviceNamePayload newName).normalizedName ended
  refused : ¬ Acknowledged answer → requests es = [setName] ∧ NotRenamed hub ended

/-- How far a rename comes. Nothing is sent for a device that is not registered or a name that
cannot be written; else the name is sent once, and asked for once exactly if it was
acknowledged. -/
theorem rename_asks_at_most_twice (management : Management σ ε) (deviceId : List Char)
    (newName : List UInt8) (hub : Hub) :
    Traces (renameDevice management deviceId newName hub) fun ended es =>
      (namedDevice deviceId hub = none ∨ (encodeDeviceNamePayload newName).error ≠ .none →
        requests es = [] ∧ NotRenamed hub ended) ∧
      ∀ dev, namedDevice deviceId hub = some dev →
        (encodeDeviceNamePayload newName).error = .none →
          ∃ setName getName answer,
            createSetName hub.nodeId dev.nodeId dev.lowPower
              (encodeDeviceNamePayload newName).payload = some setName ∧
            createGetName hub.nodeId dev.nodeId dev.lowPower = some getName ∧
            RenameSent hub dev newName setName getName ended es answer := by
  rw [renameDevice]
  cases hnamed : namedDevice deviceId hub with
  | none =>
    obtain ⟨hsuccess, hunverified, hnone⟩ :=
      resolveDevice_unnamed hnamed managementActionRenameDevice
    generalize resolveDevice managementActionRenameDevice deviceId hub = resolved at *
    obtain ⟨result, dev⟩ := resolved
    obtain rfl : dev = none := hnone
    exact Traces.pure ⟨fun _ => ⟨rfl, hsuccess, hunverified, rfl⟩, nofun⟩
  | some dev =>
    simp only [resolveDevice_named hnamed]
    refine Traces.ite (fun herror => ?_) fun haccepted => ?_
    · exact Traces.pure ⟨fun _ => ⟨rfl, rfl, rfl, rfl⟩, fun _ _ hnone => absurd hnone herror⟩
    · rw [not_not] at haccepted
      have hfits : (encodeDeviceNamePayload newName).payload.length ≤ frameMaxDataSize := by
        rw [length_payload haccepted]
        decide
      obtain ⟨setName, hset, -⟩ := createRequest_isSome hub.nodeId dev.nodeId dev.lowPower
        cmdSetName hfits
      obtain ⟨getName, hget, -⟩ := createRequest_isSome hub.nodeId dev.nodeId dev.lowPower
        cmdGetName empty_payload_le
      have hcreate : createSetName hub.nodeId dev.nodeId dev.lowPower
          (encodeDeviceNamePayload newName).payload = some setName := hset
      simp only [hcreate]
      refine (sendAuthenticatedRequest_traces setName "rename" _).bind fun sent es hes => ?_
      obtain ⟨⟨answer, hwritten, hresponse⟩, hsuccess, hunverified, hid⟩ := hes
      obtain ⟨result, response⟩ := sent
      obtain rfl : response = responseOf answer := hresponse
      refine Traces.weaken (?_ : Traces _ fun ended fs =>
        (¬ Acknowledged answer → Exchanged fs [] ∧ NotRenamed hub ended) ∧
          (Acknowledged answer → (∃ report, Exchanged fs [(getName, report)]) ∧
            Renamed (nodeIdToString dev.nodeId) (encodeDeviceNamePayload newName).normalizedName
              ended)) fun ended fs hfs => ?_
      · by_cases houtcome : answer.outcome = .successWithResponse
        · have hdev := (namedDevice_eq hnamed).2
          rw [namedDevice_id hnamed] at hdev
          rw [responseOf, if_pos houtcome]
          refine Traces.weaken (renameAnswered_traces hdev (namedDevice_eq hnamed).1.1 hget
            (hid.trans (namedDevice_id hnamed)) hsuccess hunverified
            (normalizedName_ne_nil haccepted) answer.response) fun ended fs hfs => ?_
          exact ⟨fun hnot => hfs.1 fun hcmd => hnot ⟨houtcome, hcmd⟩, fun hack => hfs.2 hack.2⟩
        · rw [responseOf, if_neg houtcome]
          exact Traces.pure ⟨fun _ => ⟨Exchanged.nil, hsuccess, hunverified, rfl⟩,
            fun hack => absurd hack.1 houtcome⟩
      · refine ⟨?_, fun dev' hdev' _ => ?_⟩
        · rintro (hnone | herror)
          · cases hnone
          · exact absurd haccepted herror
        · obtain rfl := Option.some.inj hdev'
          refine ⟨setName, getName, answer, hset, hget, ?_, fun hack => ?_, fun hnot => ?_⟩
          · rw [exchanges, List.filterMap_append, ← exchanges, hwritten.2]
            rfl
          · obtain ⟨⟨report, hread⟩, hrenamed⟩ := hfs.2 hack
            exact ⟨(hwritten.append hread).1, hrenamed⟩
          · obtain ⟨hnothing, hleft⟩ := hfs.1 hnot
            exact ⟨(hwritten.append hnothing).1, hleft⟩

/-- The answer of a device that was last told the name of a request. -/
def nameAnswer (told request : IoFrame) : IoFrame :=
  { told with
    src := request.dst
    cmd := if request.cmd = cmdSetName then cmdSetNameResp else cmdGetNameResp }

/-- The ports to a device that remembers the last request by which it was named. -/
def namingPorts : HubPorts IoFrame Unit where
  millis := pure 0
  generateChallenge := pure (Vector.replicate 6 0)
  lastRssi := pure none
  transmitFrame _ _ _ _ := pure true
  authenticateRequest _ _ := pure true
  log1wRemoteFrame _ _ := pure ⟨⟩
  isConnected := pure false
  fireSenderEvent _ _ := pure ⟨⟩
  responsePreamble := 0
  coldBroadcastReplyPreamble := 0
  checkForPacket := pure none
  sendAndReceive request _ _ := ask fun told =>
    (⟨.successWithResponse, nameAnswer told request, false, 1⟩,
      if request.cmd = cmdSetName then request else told)
  discoverAndPair registry := pure (false, registry)
  sendOneWay _ := pure ⟨⟩

theorem namingPorts_keepsName (own dst : NodeId) :
    KeepsName namingPorts own dst IoFrame.data where
  takes request freq maxTries w h := by
    have hset : (namingPorts.sendAndReceive request freq maxTries w).2.env = request :=
      if_pos h.2.2
    exact ⟨rfl, if_pos h.2.2, congrArg IoFrame.data hset⟩
  gives request freq maxTries w h := by
    have hget : request.cmd ≠ cmdSetName := by
      rw [h.2.2]
      decide
    exact ⟨rfl, if_neg hget, h.1, rfl⟩

def namedShutter : NodeId := ⟨0x12, 0x34, 0x56⟩

/-- A hub with one device. -/
def shutterHub : Hub where
  nodeId := ⟨0xAB, 0xCD, 0xEF⟩
  registry := DeviceRegistry.add ∅ "123456" {}

def shutterManagement : Management IoFrame Unit where
  ports := namingPorts
  diagnosticProbes := true
  texts := ⟨fun _ => "", fun _ => "", fun _ => ""⟩

theorem rename_verified_lounge :
    Returns (renameDevice shutterManagement " 123456".toList loungeName shutterHub) fun ended =>
      ended.1.success = true ∧
        (ended.1.verified = true ↔ Readable (trimAsciiWhitespace loungeName)) ∧
        (ended.2.registry.get (nodeIdToString namedShutter)).map IoDevice.name =
          some (decodeDeviceNamePayload (encodeDeviceNamePayload loungeName).payload) := by
  obtain ⟨dev, hdev⟩ : ∃ dev, namedDevice " 123456".toList shutterHub = some dev := by
    refine Option.isSome_iff_exists.mp ?_
    decide
  have haddress : dev.nodeId = namedShutter := by
    have hspelled := shutterHub.registry.spelled _ _ (namedDevice_eq hdev).2
    have hread : hexToNodeId (normalizeDeviceIdArgument " 123456".toList) = some namedShutter := by
      decide
    exact Option.some.inj (hspelled.symm.trans hread)
  rw [← haddress]
  exact rename_verified_iff (namingPorts_keepsName _ _) hdev (by decide)

end HomeIoControl.DeviceRenames
