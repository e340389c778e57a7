import HomeIoControl.Exchanges
import HomeIoControl.FirstOccurrences
import HomeIoControl.PairingEngine
import HomeIoControl.RadioListens

/-!
# The roll call

Three broadcasts, one a channel, ask every paired device to answer. However often and in
whatever order the answers come, the report lists each device once, as its first answer
described it, up to the room there is, and says so when there was none left.
-/

namespace HomeIoControl.RollCalls

open TracedPrograms ProtocolFrames ProtocolCrypto ProtocolCommands RadioLinks RadioListens
open DeviceModels DeviceRegistries Exchanges PairingEngine FirstOccurrences

def scanMaxReplies : ℕ := 24
def scanChannels : List UInt32 := [freqCh2, freqCh1, freqCh3]
def managementActionScanPairedDevices : String := "scan_paired_devices"

def discoveryRespManufacturerOffset : ℕ := 5
def discoveryRespFlagsOffset : ℕ := 6
def discoveryRespFullSize : ℕ := 9
def powerSaveLowPower : UInt8 := 1

structure ScanResponder where
  src : NodeId
  type : DeviceType
  subtype : UInt8
  inverted : Bool
  rssiDbm : Int16
  manufacturer : UInt8
  flags : UInt8
  hasExtended : Bool
  metadataComplete : Bool
  deriving DecidableEq

/-- A reply with the strength of its capture. -/
structure Reply where
  frame : IoFrame
  rssiDbm : Int16
  deriving DecidableEq

/-- What is kept of a reply, by way of `decode_discovery_response`. -/
def Reply.responder (reply : Reply) : ScanResponder where
  src := reply.frame.src
  type := (decodeDiscoveryResponse reply.frame).device.type
  subtype := (decodeDiscoveryResponse reply.frame).device.subtype
  inverted := (decodeDiscoveryResponse reply.frame).device.inverted
  rssiDbm := reply.rssiDbm
  manufacturer :=
    if discoveryRespManufacturerOffset < reply.frame.dataLen then
      reply.frame.dataAt discoveryRespManufacturerOffset
    else 0
  flags :=
    if discoveryRespFlagsOffset < reply.frame.dataLen then
      reply.frame.dataAt discoveryRespFlagsOffset
    else 0
  hasExtended := discoveryRespFullSize ≤ reply.frame.dataLen
  metadataComplete := deviceMetadataSize ≤ reply.frame.dataLen

inductive ScanAddResult where
  | added
  | duplicate
  | full
  deriving DecidableEq, Repr

/-- `add_scan_responder`. -/
def addScanResponder (responders : List ScanResponder) (capacity : ℕ) (reply : Reply) :
    List ScanResponder × ScanAddResult :=
  if ∃ entry ∈ responders, entry.src = reply.frame.src then (responders, .duplicate)
  else if capacity ≤ responders.length then (responders, .full)
  else (responders ++ [reply.responder], .added)

/-- The variables that the attempts of a scan share. -/
structure ScanState where
  responders : List ScanResponder
  truncated : Bool

/-- The callback of the scan. -/
def onReply (s : ScanState) (reply : Reply) : ScanState :=
  let added := addScanResponder s.responders scanMaxReplies reply
  ⟨added.1, if added.2 = .full then true else s.truncated⟩

/-- What a roll call does on the air: it transmits, and is handed what it hears, with the
strength of the driver's last capture. -/
inductive RollCallEvent where
  | radio (event : RadioEvent)
  | heard (frame : Option IoFrame) (rssiDbm : Int16)
  deriving DecidableEq

variable {σ : Type}

/-- A frame that `collect_broadcast_responses` hands to its callback. -/
def IsReply (own : NodeId) (expectedCmd : UInt8) (frame : IoFrame) : Prop :=
  frame.cmd = expectedCmd ∧ frame.dst = own

instance (own : NodeId) (expectedCmd : UInt8) (frame : IoFrame) :
    Decidable (IsReply own expectedCmd frame) :=
  inferInstanceAs (Decidable (_ ∧ _))

/-- The handler of `collect_broadcast_responses`, with its saturating count. -/
def broadcastHandler (own : NodeId) (lastCaptureRssi : σ → Int16) (expectedCmd : UInt8)
    (callback : ScanState → Reply → ScanState) :
    AskingHandler σ RollCallEvent (ℕ × ScanState) := fun captured parsed _ => do
  let rssi ← ask fun s => (lastCaptureRssi s, s)
  tell (.heard parsed rssi)
  match parsed with
  | none => pure (captured, .ignore)
  | some frame =>
    if IsReply own expectedCmd frame then
      pure ((if captured.1 < 255 then captured.1 + 1 else captured.1,
        callback captured.2 ⟨frame, rssi⟩), .ignore)
    else pure (captured, .ignore)

/-- `collect_broadcast_responses`, with the count of replies that it returns. -/
def collectBroadcastResponses (engine : ExchangeEngine σ) (lastCaptureRssi : σ → Int16)
    (request : IoFrame) (freq : UInt32) (expectedCmd : UInt8) (windowMs : UInt32)
    (callback : ScanState → Reply → ScanState) (state : ScanState) :
    Prog σ RollCallEvent (ℕ × ScanState) := do
  let sent ← Prog.relabel .radio (transmitFrame engine.radio engine.tuning .rollCall request freq
    (requestPreambleFor engine request))
  if sent = false then pure (0, state)
  else do
    let spec : ListenSpec :=
      { windowMs := windowMs
        policy := .rotateSkippingRequest
        requestFreq := freq
        hopAfterIgnoredFrame := false
        lingerOnPreamble := true
        lingerDwellMs := preambleLingerDwellMs }
    let listened ← listenAsking engine.radio spec
      (broadcastHandler engine.nodeId lastCaptureRssi expectedCmd callback)
      (initFrame true false false false) (0, state)
    pure listened.captured

/-- The texts that a report line is put together from. -/
structure ReportTexts where
  deviceTypeName : DeviceType → String
  manufacturerName : UInt8 → String
  attClassName : UInt8 → String
  powerSaveModeName : UInt8 → String
  buildDeviceYamlSnippet : DeviceType → UInt8 → String → Bool → Bool → Bool → String
  formatDeviceTypeForYaml : DeviceType → String

def discoveryAttClass (flags : UInt8) : UInt8 := (flags &&& 0xC0) >>> 6
def discoveryPowerSaveMode (flags : UInt8) : UInt8 := flags &&& 0x03

def formatScanReplyLine (texts : ReportTexts) (responder : ScanResponder) (deviceId : String)
    (known : Bool) : String :=
  let line := "  " ++ deviceId ++ ": " ++ texts.deviceTypeName responder.type ++ " subtype=" ++
    toString responder.subtype.toNat ++ " rssi=" ++ toString responder.rssiDbm.toInt ++ "dBm" ++
    (if responder.hasExtended then
      " manufacturer=" ++ texts.manufacturerName responder.manufacturer ++ " turnaround=" ++
        texts.attClassName (discoveryAttClass responder.flags) ++ " power_save=" ++
        texts.powerSaveModeName (discoveryPowerSaveMode responder.flags)
    else "") ++ (if known then " [known]\n" else " [unknown]\n")
  if known then line
  else
    let lowPower := responder.hasExtended &&
      discoveryPowerSaveMode responder.flags == powerSaveLowPower
    let snippet := texts.buildDeviceYamlSnippet responder.type responder.subtype deviceId
      responder.metadataComplete responder.inverted lowPower
    if snippet ≠ "" then line ++ "    Paste this into your YAML to register it:\n" ++ snippet
    else line ++ "    no ready-to-paste YAML: no ESPHome platform for io_device_type: " ++
      texts.formatDeviceTypeForYaml responder.type ++ "\n"

def isKnown (registry : DeviceRegistry) (responder : ScanResponder) : Bool :=
  (registry.get (nodeIdToString responder.src)).isSome

/-- The lines of the responders that are known, or of those that are not. -/
def reportLines (texts : ReportTexts) (registry : DeviceRegistry) (known : Bool)
    (responders : List ScanResponder) : String :=
  String.join ((responders.filter fun responder => isKnown registry responder = known).map
    fun responder => formatScanReplyLine texts responder (nodeIdToString responder.src) known)

def reportBody (knownBody unknownBody : String) : String :=
  (if knownBody ≠ "" then "Known:\n" ++ knownBody else "") ++
    (if unknownBody ≠ "" then "Unknown:\n" ++ unknownBody else "")

def rollCallHeadline (count unknownCount : ℕ) : String :=
  "Roll-call: " ++ toString count ++ " device" ++ (if count = 1 then "" else "s") ++
    " detected (" ++ toString (count - unknownCount) ++ " known, " ++ toString unknownCount ++
    " unknown)\n"

def truncationNote : String :=
  "NOTE: more than " ++ (toString scanMaxReplies ++
    " devices answered; the list below is truncated. Re-run to see whether other devices " ++
    "appear, and raise SCAN_MAX_REPLIES if this install really is larger.\n")

/-- `ManagementActionResult`. -/
structure ManagementActionResult where
  success : Bool := false
  action : String
  deviceId : String
  message : String := ""

/-- What the management actions hold of the hub. -/
structure Management (σ : Type) where
  engine : ExchangeEngine σ
  /-- `get_last_capture().rssi_dbm`. -/
  lastCaptureRssi : σ → Int16
  initialized : Bool
  registry : DeviceRegistry
  texts : ReportTexts

/-- The end of a scan: the result and the variables of the function, and the hub. -/
structure ScanEnd (σ : Type) extends ScanState where
  management : Management σ
  result : ManagementActionResult

/-- The attempts left; none when a request could not be built. -/
def scanAttempts (management : Management σ) :
    List UInt32 → ScanState → Prog σ RollCallEvent (Option ScanState)
  | [], state => pure (some state)
  | freq :: channels, state => do
    let nonce ← ask management.engine.radio.generateChallenge
    match createDiscoveryRequest management.engine.nodeId cmdDiscoverSpeReq broadcastDiscover
        false false 0 management.engine.systemKey nonce with
    | none => pure none
    | some request => do
      let collected ← collectBroadcastResponses management.engine management.lastCaptureRssi
        request freq cmdDiscoverSpeResp management.engine.tuning.pairingDiscoveryWaitMs.toUInt32
        onReply state
      scanAttempts management channels collected.2

/-- The report of a scan. -/
def scanReport (management : Management σ) (state : ScanState) : String :=
  let unknownCount := (state.responders.filter fun responder =>
    isKnown management.registry responder = false).length
  rollCallHeadline state.responders.length unknownCount ++
    (if state.truncated then truncationNote else "") ++
    reportBody (reportLines management.texts management.registry true state.responders)
      (reportLines management.texts management.registry false state.responders)

/-- `scan_paired_devices`. -/
def scanPairedDevices (management : Management σ) : Prog σ RollCallEvent (ScanEnd σ) := do
  let result : ManagementActionResult :=
    { action := managementActionScanPairedDevices, deviceId := "" }
  if management.initialized = false then
    pure { responders := [], truncated := false, management := management
           result := { result with message := "hub is not initialized" } }
  else do
    let scanned ← scanAttempts management scanChannels ⟨[], false⟩
    match scanned with
    | none =>
      pure { responders := [], truncated := false, management := management
             result := { result with message := "failed to build roll-call request" } }
    | some state =>
      pure { state with
        management := management
        result := { result with success := true, message := scanReport management state } }

/-- The replies among the frames that a scan was handed, in the order of their arrival. -/
def replies (own : NodeId) (es : List RollCallEvent) : List Reply :=
  es.filterMap fun
    | .heard (some frame) rssi =>
      if IsReply own cmdDiscoverSpeResp frame then some ⟨frame, rssi⟩ else none
    | _ => none

theorem replies_heard (own : NodeId) (frame : IoFrame) (rssi : Int16) :
    replies own [.heard (some frame) rssi] =
      if IsReply own cmdDiscoverSpeResp frame then [⟨frame, rssi⟩] else [] := by
  simp only [replies, List.filterMap_cons, List.filterMap_nil]
  split_ifs
  · rfl
  · rfl

theorem replies_append (own : NodeId) (es fs : List RollCallEvent) :
    replies own (es ++ fs) = replies own es ++ replies own fs := List.filterMap_append

theorem replies_radio (own : NodeId) (es : List RadioEvent) :
    replies own (es.map .radio) = [] := by
  rw [replies, List.filterMap_map]
  exact List.filterMap_eq_nil_iff.mpr fun _ _ => rfl

/-- The scan went from one state to another on the replies it was handed. -/
def Took (own : NodeId) (s : ScanState) (es : List RollCallEvent) (s' : ScanState) : Prop :=
  s' = (replies own es).foldl onReply s

theorem Took.trans {own : NodeId} {a b c : ScanState} {es fs : List RollCallEvent}
    (hab : Took own a es b) (hbc : Took own b fs c) : Took own a (es ++ fs) c := by
  unfold Took at hab hbc ⊢
  rw [replies_append, List.foldl_append, ← hab, hbc]

/-- The same, beside the count of an attempt. -/
def CountTook (own : NodeId) (a : ℕ × ScanState) (es : List RollCallEvent) (b : ℕ × ScanState) :
    Prop :=
  Took own a.2 es b.2

theorem broadcastHandler_traces (own : NodeId) (lastCaptureRssi : σ → Int16)
    (captured : ℕ × ScanState) (parsed : Option IoFrame) (packet : RadioRxPacket) :
    Traces (broadcastHandler own lastCaptureRssi cmdDiscoverSpeResp onReply captured parsed packet)
      fun handled es => CountTook own captured es handled.1 := by
  apply Traces.ask_bind
  intro rssi
  apply Traces.tell_bind
  cases parsed with
  | none => exact Traces.pure rfl
  | some frame =>
    apply Traces.ite
    · intro hreply
      refine Traces.pure ?_
      rw [CountTook, Took, replies_heard, if_pos hreply]
      rfl
    · intro hother
      refine Traces.pure ?_
      rw [CountTook, Took, replies_heard, if_neg hother]
      rfl

theorem collectBroadcastResponses_traces (engine : ExchangeEngine σ)
    (lastCaptureRssi : σ → Int16) (request : IoFrame) (freq windowMs : UInt32)
    (state : ScanState) :
    Traces (collectBroadcastResponses engine lastCaptureRssi request freq cmdDiscoverSpeResp
      windowMs onReply state) fun collected es => Took engine.nodeId state es collected.2 := by
  refine Traces.bind ((transmitFrame_traces .rollCall request freq _).relabel
    RollCallEvent.radio) ?_
  rintro sent _ ⟨radioEvents, rfl, -⟩
  have hsent : Took engine.nodeId state (radioEvents.map .radio) state := by
    rw [Took, replies_radio]
    rfl
  apply Traces.ite
  · intro _
    exact Traces.pure (by rwa [List.append_nil])
  · intro _
    have hlisten (spec : ListenSpec) (frame : IoFrame) :
        Traces (listenAsking engine.radio spec (broadcastHandler engine.nodeId lastCaptureRssi
          cmdDiscoverSpeResp onReply) frame (0, state)) fun listened es =>
            CountTook engine.nodeId (0, state) es listened.captured :=
      listenAsking_traces (fun _ => rfl) (fun _ _ _ _ _ => Took.trans)
        (broadcastHandler_traces engine.nodeId lastCaptureRssi) frame (0, state)
    refine Traces.bind (hlisten _ _) ?_
    intro listened es hes
    exact Traces.pure (by rw [List.append_nil]; exact hsent.trans hes)

theorem discoverySpeRequest_isSome (own : NodeId) (systemKey : Block) (nonce : Challenge) :
    (createDiscoveryRequest own cmdDiscoverSpeReq broadcastDiscover false false 0 systemKey
      nonce).isSome := by
  have hdiscover : cmdDiscoverSpeReq ≠ cmdDiscoverReq := by decide
  rw [createDiscoveryRequest, if_neg hdiscover, if_pos rfl]
  apply buildFrame_isSome
  simp only [List.length_append, Vector.length_toList]
  decide

/-- Every attempt is made, and takes the replies it hears. -/
theorem scanAttempts_traces (management : Management σ) (channels : List UInt32)
    (state : ScanState) :
    Traces (scanAttempts management channels state) fun scanned es =>
      ∃ state', scanned = some state' ∧ Took management.engine.nodeId state es state' := by
  induction channels generalizing state with
  | nil => exact Traces.pure ⟨state, rfl, rfl⟩
  | cons freq channels ih =>
    apply Traces.ask_bind
    intro nonce
    obtain ⟨request, hrequest⟩ := Option.isSome_iff_exists.mp (discoverySpeRequest_isSome
      management.engine.nodeId management.engine.systemKey nonce)
    rw [hrequest]
    refine Traces.bind (collectBroadcastResponses_traces _ _ _ _ _ _) ?_
    intro collected es hes
    apply (ih collected.2).weaken
    rintro scanned fs ⟨state', rfl, hfs⟩
    exact ⟨state', rfl, hes.trans hfs⟩

/-- The array and the flag of a scan are a collector of responders by their addresses. -/
theorem onReply_collects (s : ScanState) (reply : Reply) :
    onReply s reply =
      ⟨(Collected.add ScanResponder.src scanMaxReplies ⟨s.responders, s.truncated⟩
          reply.responder).kept,
        (Collected.add ScanResponder.src scanMaxReplies ⟨s.responders, s.truncated⟩
          reply.responder).overflow⟩ := by
  have hseen : (∃ entry ∈ s.responders, entry.src = reply.frame.src) ↔
      reply.responder.src ∈ s.responders.map ScanResponder.src := List.mem_map.symm
  rw [onReply, addScanResponder, Collected.add]
  by_cases hrepeat : ∃ entry ∈ s.responders, entry.src = reply.frame.src
  · rw [if_pos hrepeat, if_pos (hseen.mp hrepeat)]
    rfl
  · rw [if_neg hrepeat, if_neg (mt hseen.mpr hrepeat)]
    by_cases hfull : scanMaxReplies ≤ s.responders.length
    · rw [if_pos hfull, if_pos hfull]
      rfl
    · rw [if_neg hfull, if_neg hfull]
      rfl

theorem foldl_onReply (rs : List Reply) :
    rs.foldl onReply ⟨[], false⟩ =
      ⟨((firsts (fun reply => reply.frame.src) rs).take scanMaxReplies).map Reply.responder,
        decide (scanMaxReplies < (firsts (fun reply => reply.frame.src) rs).length)⟩ := by
  have hfold (c : Collected ScanResponder) : rs.foldl onReply ⟨c.kept, c.overflow⟩ =
      ⟨((rs.map Reply.responder).foldl (Collected.add ScanResponder.src scanMaxReplies) c).kept,
        ((rs.map Reply.responder).foldl (Collected.add ScanResponder.src scanMaxReplies)
          c).overflow⟩ := by
    induction rs generalizing c with
    | nil => rfl
    | cons reply rs ih =>
      rw [List.foldl_cons, onReply_collects, ih, List.map_cons, List.foldl_cons]
  have hfirsts : firsts ScanResponder.src (rs.map Reply.responder) =
      (firsts (fun reply => reply.frame.src) rs).map Reply.responder :=
    firsts_map Reply.responder rs
  rw [hfold ⟨[], false⟩, collected_firsts, hfirsts, List.map_take, List.length_map]

/-- The report of a scan on the replies it heard: every address that answered once, as long as
there is room, with the data and the strength of its first reply. -/
structure Reports (management : Management σ) (rs : List Reply) (e : ScanEnd σ) : Prop where
  responders : e.responders =
    ((firsts (fun reply => reply.frame.src) rs).take scanMaxReplies).map Reply.responder
  distinct : (e.responders.map ScanResponder.src).Nodup
  success : e.result.success = true
  /-- The report counts the known and the unknown, and the note follows the headline. -/
  message : ∃ known unknown,
    known = (e.responders.filter (isKnown management.registry)).length ∧
    known + unknown = e.responders.length ∧
    e.result.message = "Roll-call: " ++ toString e.responders.length ++ " device" ++
      (if e.responders.length = 1 then "" else "s") ++ " detected (" ++ toString known ++
      " known, " ++ toString unknown ++ " unknown)\n" ++
      (if scanMaxReplies < (firsts (fun reply => reply.frame.src) rs).length then truncationNote
        else "") ++
      reportBody (reportLines management.texts management.registry true e.responders)
        (reportLines management.texts management.registry false e.responders)
  /-- Without the note something else follows. -/
  note : ((rollCallHeadline e.responders.length (e.responders.filter fun responder =>
      isKnown management.registry responder = false).length).toList ++ truncationNote.toList) <+:
      e.result.message.toList ↔
    scanMaxReplies < (firsts (fun reply => reply.frame.src) rs).length

theorem known_add_unknown (registry : DeviceRegistry) (responders : List ScanResponder) :
    (responders.filter (isKnown registry)).length +
      (responders.filter fun responder => isKnown registry responder = false).length =
      responders.length := by
  have hnot : (fun responder => decide (isKnown registry responder = false)) =
      fun responder => !isKnown registry responder := by
    funext responder
    cases isKnown registry responder with
    | false => rfl
    | true => rfl
  rw [hnot]
  exact (List.length_eq_length_filter_add (isKnown registry)).symm

/-- The list of the report is headed otherwise than the note begins. -/
theorem truncationNote_not_prefix (knownBody unknownBody : String) :
    ¬ truncationNote.toList <+: (reportBody knownBody unknownBody).toList := by
  have hstart : "NOTE: more than ".toList.head? = some 'N' := by simp
  have hnote : truncationNote.toList.head? = some 'N' := by
    unfold truncationNote
    rw [String.toList_append, List.head?_append, hstart, Option.some_or]
  have hbody : (reportBody knownBody unknownBody).toList.head? ≠ some 'N' := by
    rw [reportBody]
    split_ifs
    · simp
    · simp
    · simp
    · simp
  rintro ⟨rest, hrest⟩
  rw [← hrest, List.head?_append, hnote] at hbody
  exact hbody rfl

theorem reports_of_replies (management : Management σ) (rs : List Reply) (state : ScanState)
    (hstate : state = rs.foldl onReply ⟨[], false⟩) (action : String) :
    Reports management rs { state with
      management := management
      result := { success := true, action := action, deviceId := ""
                  message := scanReport management state } } := by
  rw [foldl_onReply] at hstate
  have hcount := known_add_unknown management.registry state.responders
  have htruncated : state.truncated = true ↔
      scanMaxReplies < (firsts (fun reply => reply.frame.src) rs).length := by
    rw [hstate]
    exact decide_eq_true_iff
  constructor
  · exact congrArg ScanState.responders hstate
  · rw [hstate, List.map_map]
    exact (nodup_keys_firsts rs).sublist ((List.take_sublist _ _).map _)
  · rfl
  · refine ⟨_, _, rfl, hcount, ?_⟩
    have hknown : (state.responders.filter (isKnown management.registry)).length =
        state.responders.length - (state.responders.filter fun responder =>
          isKnown management.registry responder = false).length := by omega
    rw [hknown, if_congr htruncated.symm rfl rfl]
    rfl
  · rw [← htruncated]
    show _ <+: (scanReport management state).toList ↔ _
    rw [scanReport, String.toList_append, String.toList_append, List.append_assoc,
      List.prefix_append_right_inj]
    cases state.truncated with
    | true => simp
    | false => simpa using truncationNote_not_prefix _ _

/-- Whatever the three attempts hear, the scan reports every address that answered once, and
leaves the hub as it was. -/
theorem scan_reports_each_once (management : Management σ) :
    Traces (scanPairedDevices management) fun e es => e.management = management ∧
      (management.initialized = false → es = [] ∧ e.result.success = false) ∧
      (management.initialized = true →
        Reports management (replies management.engine.nodeId es) e) := by
  apply Traces.ite
  · intro hinit
    exact Traces.pure ⟨rfl, fun _ => ⟨rfl, rfl⟩, fun h => absurd (hinit.symm.trans h) (by decide)⟩
  · intro hinit
    refine Traces.bind (scanAttempts_traces management scanChannels ⟨[], false⟩) ?_
    rintro _ es ⟨state, rfl, htook⟩
    refine Traces.pure ⟨rfl, fun h => absurd h hinit, fun _ => ?_⟩
    rw [List.append_nil]
    exact reports_of_replies management _ state htook _

end HomeIoControl.RollCalls
