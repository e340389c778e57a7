import HomeIoControl.ManagementActions

/-!
# What management actions come to

A sweep asks its device once for each index, in order, or not at all, and no probe moves a device.
A position for a one-way controller is queued only if its text is one of a position.
-/

namespace HomeIoControl.ManagementRuns

open TracedPrograms ProtocolFrames ProtocolCommands ProtocolCodecs DeviceModels DeviceRegistries
  DeviceRequests DeviceNames PendingOperations RadioLinks Exchanges HubStatus HubOperations
  ConfigAddresses ProbeIndices ManagementActions
open FrameLogLines (unsignedText unsignedText_ne_nil)
open ReceptionLogs (renderFrameHexRedacted frameLogHexBufferSize)

theorem isDigitIn_of_isDigit {ch : Char} (h : ch.isDigit = true) : isDigitIn 10 ch = true := by
  have hall : ∀ k < 128, (Char.ofNat k).isDigit = true → isDigitIn 10 (Char.ofNat k) = true := by
    decide
  have hascii : ch.toNat < 128 := by
    rw [Char.isDigit, Bool.and_eq_true, decide_eq_true_eq, decide_eq_true_eq] at h
    exact Nat.lt_of_le_of_lt (UInt32.le_iff_toNat_le.mp h.2) (by decide)
  rw [← Char.ofNat_toNat ch] at h ⊢
  exact hall _ hascii h

theorem unsignedText_digits (n : ℕ) : AllDigitsIn 10 (unsignedText n) := fun _ hch =>
  isDigitIn_of_isDigit (Nat.isDigit_of_mem_toDigits (by decide) (by decide) hch)

theorem unsignedText_last {n : ℕ} (h : 10 ≤ n) :
    unsignedText n = unsignedText (n / 10) ++ [(n % 10).digitChar] :=
  Nat.toDigits_of_base_le (by decide) h

theorem digitIn_digitChar : ∀ d < 10, digitIn 10 d.digitChar = some d := by decide

theorem valueIn_concat (base : ℕ) (digits : List Char) (ch : Char) :
    valueIn base (digits ++ [ch]) = valueIn base digits * base + (digitIn base ch).getD 0 := by
  rw [valueIn, List.foldl_append]
  rfl

theorem valueIn_unsignedText (n : ℕ) : valueIn 10 (unsignedText n) = n := by
  induction n using Nat.strongRecOn with
  | ind n ih =>
    by_cases hsmall : n < 10
    · rw [unsignedText, Nat.toDigits_of_lt_base hsmall]
      simp [valueIn, digitIn_digitChar n hsmall]
    · rw [unsignedText_last (Nat.le_of_not_lt hsmall), valueIn_concat, ih (n / 10) (by omega),
        digitIn_digitChar (n % 10) (Nat.mod_lt _ (by decide)), Option.getD_some]
      omega

/-- A number is spelled without a leading zero. -/
theorem unsignedText_head {n : ℕ} (h : 0 < n) :
    ∃ first rest, unsignedText n = first :: rest ∧ first ≠ '0' := by
  induction n using Nat.strongRecOn with
  | ind n ih =>
    by_cases hsmall : n < 10
    · have hall : ∀ d < 10, 0 < d → d.digitChar ≠ '0' := by decide
      exact ⟨n.digitChar, [], Nat.toDigits_of_lt_base hsmall, hall n hsmall h⟩
    · obtain ⟨first, rest, hspelled, hfirst⟩ := ih (n / 10) (by omega) (by omega)
      refine ⟨first, rest ++ [(n % 10).digitChar], ?_, hfirst⟩
      rw [unsignedText_last (Nat.le_of_not_lt hsmall), hspelled, List.cons_append]

theorem byteText_unsignedText {n : ℕ} (h : n ≤ 255) : ByteText (unsignedText n) n := by
  rcases Nat.eq_zero_or_pos n with rfl | hpos
  · exact ByteText.zero
  · obtain ⟨first, rest, hspelled, hfirst⟩ := unsignedText_head hpos
    have hvalue := valueIn_unsignedText n
    have hdigits := unsignedText_digits n
    rw [hspelled] at hvalue hdigits ⊢
    have hbyte := ByteText.decimal hfirst hdigits (by rw [hvalue]; exact h)
    rwa [hvalue] at hbyte

/-- The index that a sweep spells is the one that its probe reads. -/
theorem parse_unsignedText {n : ℕ} (h : n ≤ 255) (out : UInt8) :
    parseProbeIndex (unsignedText n) out = (true, UInt8.ofNat n) :=
  (byteText_unsignedText h).parse out

section

variable {σ ε α : Type}

/-- The events tell of these exchanges, and ask for no other. -/
def Exchanged (es : List (ActionEvent ε)) (xs : List (IoFrame × ExchangeReport)) : Prop :=
  requests es = xs.map Prod.fst ∧ exchanges es = xs

namespace Exchanged

variable {es fs : List (ActionEvent ε)} {xs ys : List (IoFrame × ExchangeReport)}

theorem nil : Exchanged ([] : List (ActionEvent ε)) [] := ⟨rfl, rfl⟩

theorem append (hes : Exchanged es xs) (hfs : Exchanged fs ys) :
    Exchanged (es ++ fs) (xs ++ ys) := by
  refine ⟨?_, ?_⟩
  · rw [requests, List.filterMap_append, List.map_append, ← hes.1, ← hfs.1]
    rfl
  · rw [exchanges, List.filterMap_append, ← hes.2, ← hfs.2]
    rfl

theorem exchange (h : Exchanged es []) (frame : IoFrame) (report : ExchangeReport) :
    Exchanged (.request frame :: (es ++ [.exchanged frame report])) [(frame, report)] := by
  refine ⟨?_, ?_⟩
  · change frame :: requests (es ++ _) = _
    rw [requests, List.filterMap_append, ← requests, h.1]
    rfl
  · change exchanges (es ++ _) = _
    rw [exchanges, List.filterMap_append, ← exchanges, h.2]
    rfl

theorem wait (ms : UInt32) : Exchanged ([.wait ms] : List (ActionEvent ε)) [] := ⟨rfl, rfl⟩

theorem engine (es : List ε) : Exchanged (es.map ActionEvent.engine) [] := by
  refine ⟨?_, ?_⟩
  · rw [requests, List.filterMap_map, List.map_nil, List.filterMap_eq_nil_iff]
    intro e _
    rfl
  · rw [exchanges, List.filterMap_map, List.filterMap_eq_nil_iff]
    intro e _
    rfl

end Exchanged

/-- The program asks the engine for no exchange. -/
def Quiet (p : Prog σ (ActionEvent ε) α) : Prop := Traces p fun _ es => Exchanged es []

namespace Quiet

variable {β : Type} {p : Prog σ (ActionEvent ε) α}

theorem pure (a : α) : Quiet (σ := σ) (ε := ε) (pure a : Prog σ (ActionEvent ε) α) :=
  Traces.pure Exchanged.nil

theorem bind {f : α → Prog σ (ActionEvent ε) β} (hp : Quiet p) (hf : ∀ a, Quiet (f a)) :
    Quiet (p >>= f) :=
  Traces.bind hp fun a _ hes => (hf a).weaken fun _ _ hfs => hes.append hfs

theorem ite {c : Prop} [Decidable c] {q : Prog σ (ActionEvent ε) α} (hp : Quiet p)
    (hq : Quiet q) : Quiet (if c then p else q) :=
  Traces.ite (fun _ => hp) fun _ => hq

/-- Whatever a port does, it asks for no exchange. -/
theorem relabel (p : Prog σ ε α) : Quiet (p.relabel ActionEvent.engine) :=
  fun _ => ⟨_, rfl, Exchanged.engine _⟩

end Quiet

/-- An exchange shows one request, and what it comes to. -/
theorem sendAndReceive_traces (ports : HubPorts σ ε) (request : IoFrame) (freq : UInt32)
    (maxTries : UInt8) :
    Traces ((shown ports).sendAndReceive request freq maxTries) fun report es =>
      Exchanged es [(request, report)] := by
  refine Traces.tell_bind (Traces.bind (Quiet.relabel _) fun report es hes => ?_)
  exact Traces.tell_bind (Traces.pure (hes.exchange request report))

variable (management : Management σ ε)

/-- Whether an exchange brought an answer, be it a refusal. -/
def answered (report : ExchangeReport) : Bool := report.outcome = .successWithResponse

/-- What a sweep tells of an exchange. -/
def outcomeText (report : ExchangeReport) : String :=
  match report.outcome with
  | .successWithResponse =>
    "cmd=0x" ++ formatHexByte report.response.cmd ++ " hex=" ++
      String.ofList (renderFrameHexRedacted ((serialize report.response).getD [])
        frameLogHexBufferSize)
  | .successUnconfirmed => "device accepted the probe request but sent no response"
  | .failed =>
    "no reply after " ++ toString exchangeRetryCount ++
      " attempts (device asleep, unreachable, or silently ignoring this opcode)"

/-- The step of a sweep tells of its exchange. -/
structure TellsOf (step : ActionResult) (report : ExchangeReport) : Prop where
  goesOn : step.terminalRefusal = false
  success : step.success = answered report
  line : ∀ idx, sweepLine idx step =
    "index=0x" ++ formatHexByte (UInt8.ofNat idx) ++ ": " ++ (outcomeText report ++ "\n")

theorem probeAnswered_kept (probe : String) (response : IoFrame) (result : ActionResult) :
    let step := probeAnswered management probe response result
    step.terminalRefusal = result.terminalRefusal ∧ step.success = true ∧
      step.responseCmd = some response.cmd ∧
      step.responseHex = String.ofList (renderFrameHexRedacted ((serialize response).getD [])
        frameLogHexBufferSize) := by
  dsimp only
  rw [probeAnswered]
  by_cases herror : response.cmd = cmdErrorResp
  · by_cases hempty : response.dataLen = 0
    · simp [herror, applyErrorResponse, hempty, ActionResult.reports, ActionResult.succeeds]
    · simp [herror, applyErrorResponse, hempty, ActionResult.reports, ActionResult.succeeds]
  · simp [herror, ActionResult.succeeds]

/-- A probe that is sent is one exchange, and what it reports is what the exchange came to. -/
theorem sendProbe_traces (probe : String) (request : IoFrame) {result : ActionResult}
    (hgoes : result.terminalRefusal = false) (hfresh : result.success = false) :
    Traces (sendProbe management probe request result) fun step es =>
      ∃ report, Exchanged es [(request, report)] ∧ TellsOf step report := by
  refine (sendAndReceive_traces management.ports request _ _).bind fun report es hes => ?_
  cases houtcome : report.outcome with
  | successWithResponse =>
    obtain ⟨hrefusal, hsuccess, hcmd, hhex⟩ :=
      probeAnswered_kept management probe report.response result
    refine Traces.pure ⟨report, by simpa using hes, hrefusal.trans hgoes, ?_, fun idx => ?_⟩
    · rw [hsuccess, answered, houtcome]
      rfl
    · rw [sweepLine, if_pos hsuccess, hcmd, hhex, outcomeText, houtcome]
      simp only [Option.getD_some, String.append_assoc]
  | successUnconfirmed =>
    refine Traces.pure ⟨report, by simpa using hes, hgoes, ?_, fun idx => ?_⟩
    · rw [answered, houtcome]
      exact hfresh
    · rw [sweepLine, if_neg (by simp [ActionResult.reports, hfresh]), outcomeText, houtcome]
      rfl
  | failed =>
    refine Traces.pure ⟨report, by simpa using hes, hgoes, ?_, fun idx => ?_⟩
    · rw [answered, houtcome]
      exact hfresh
    · rw [sweepLine, if_neg (by simp [ActionResult.reports, hfresh]), outcomeText, houtcome]
      rfl

/-- The commands of the probes ask and never move. -/
def probeCommands : List UInt8 :=
  [cmdPrivate, cmdGetInfo1, cmdGetInfo2, cmdGetGeneralInfo3, cmdPrivate2]

theorem createRequest_isSome (own dst : NodeId) (lowPower : Bool) (cmd : UInt8)
    {payload : List UInt8} (h : payload.length ≤ frameMaxDataSize) :
    ∃ request, createRequest own dst lowPower cmd payload = some request ∧
      IsRequest own dst cmd request ∧ request.data = payload := by
  have hbuilt : (buildFrame true false lowPower dst own cmd payload).isSome := buildFrame_isSome h
  obtain ⟨request, hrequest⟩ := Option.isSome_iff_exists.mp hbuilt
  exact ⟨request, hrequest, createRequest_isRequest hrequest,
    (buildFrame_fields hrequest).2.2.2⟩

theorem probeTable_payload {descriptor : ProbeDescriptor} (h : descriptor ∈ probeTable)
    (own dst : NodeId) (index : UInt8) (lowPower : Bool) :
    ∃ cmd payload,
      descriptor.builder own dst index lowPower = createRequest own dst lowPower cmd payload ∧
        cmd ∈ probeCommands ∧ payload.length ≤ frameMaxDataSize := by
  simp only [probeTable, List.mem_cons, List.not_mem_nil, or_false] at h
  rcases h with rfl | rfl | rfl | rfl | rfl | rfl | rfl | rfl | rfl | rfl
  all_goals
    dsimp only
    refine ⟨_, _, rfl, ?_, ?_⟩
    · decide
    · simp [frameMaxDataSize]

/-- Every row of the table builds its request, whatever the index. -/
theorem probeTable_builds {descriptor : ProbeDescriptor} (h : descriptor ∈ probeTable)
    (own dst : NodeId) (index : UInt8) (lowPower : Bool) :
    ∃ request, descriptor.builder own dst index lowPower = some request ∧
      request.cmd ∈ probeCommands ∧ IsRequest own dst request.cmd request := by
  obtain ⟨cmd, payload, hbuilder, hcmd, hlength⟩ := probeTable_payload h own dst index lowPower
  obtain ⟨request, hrequest, his, -⟩ := createRequest_isSome own dst lowPower cmd hlength
  exact ⟨request, hbuilder.trans hrequest, his.2.2.symm ▸ hcmd, his.1, his.2.1, rfl⟩

theorem mem_probeTable {probe : String} {descriptor : ProbeDescriptor}
    (h : findProbeDescriptor probe = some descriptor) : descriptor ∈ probeTable :=
  List.mem_of_find?_eq_some h

/-- The device that an argument names. -/
def namedDevice (deviceId : List Char) (hub : Hub) : Option IoDevice :=
  if hub.initialized = false ∨ (hexToBytes (normalizeDeviceIdArgument deviceId) 3).isNone then none
  else hub.registry.get (normalizeDeviceIdArgument deviceId)

theorem namedDevice_eq {deviceId : List Char} {hub : Hub} {dev : IoDevice}
    (h : namedDevice deviceId hub = some dev) :
    (hub.initialized = true ∧ (hexToBytes (normalizeDeviceIdArgument deviceId) 3).isSome) ∧
      hub.registry.get (normalizeDeviceIdArgument deviceId) = some dev := by
  rw [namedDevice] at h
  split_ifs at h with hrefused
  rw [not_or, Bool.not_eq_false, Bool.not_eq_true, Option.isNone_eq_false_iff] at hrefused
  exact ⟨hrefused, h⟩

theorem resolveDevice_named {deviceId : List Char} {hub : Hub} {dev : IoDevice}
    (h : namedDevice deviceId hub = some dev) (action : String) :
    resolveDevice action deviceId hub =
      (makeManagementResult action (normalizeDeviceIdArgument deviceId), some dev) := by
  obtain ⟨⟨hinitialized, hdigits⟩, hdev⟩ := namedDevice_eq h
  rw [← Option.isNone_eq_false_iff] at hdigits
  simp only [resolveDevice, hinitialized, hdigits, hdev, Bool.true_eq_false, Bool.false_eq_true,
    if_false]

theorem resolveDevice_unnamed {deviceId : List Char} {hub : Hub}
    (h : namedDevice deviceId hub = none) (action : String) :
    (resolveDevice action deviceId hub).1.success = false ∧
      (resolveDevice action deviceId hub).1.verified = false ∧
      (resolveDevice action deviceId hub).2 = none := by
  simp only [namedDevice] at h
  simp only [resolveDevice]
  by_cases hinitialized : hub.initialized = false
  · rw [if_pos hinitialized]
    exact ⟨rfl, rfl, rfl⟩
  · by_cases hdigits : (hexToBytes (normalizeDeviceIdArgument deviceId) 3).isNone
    · rw [if_neg hinitialized, if_pos hdigits]
      exact ⟨rfl, rfl, rfl⟩
    · rw [if_neg (by simp [hinitialized, hdigits])] at h
      rw [if_neg hinitialized, if_neg hdigits, h]
      exact ⟨rfl, rfl, rfl⟩

/-- A sweep that nothing refuses: what its arguments name and spell, and the range. -/
structure SweepPlan (management : Management σ ε) (deviceId : List Char) (probe : String)
    (firstIndex lastIndex : List Char) (hub : Hub) where
  dev : IoDevice
  named : namedDevice deviceId hub = some dev
  descriptor : ProbeDescriptor
  found : findProbeDescriptor probe = some descriptor
  needsIndex : descriptor.needsIndex = true
  first : UInt8
  firstParsed : parseProbeIndex firstIndex 0 = (true, first)
  last : UInt8
  lastParsed : parseProbeIndex lastIndex 0 = (true, last)
  ordered : first ≤ last
  narrow : last.toNat - first.toNat < probeSweepMaxIndices
  enabled : management.diagnosticProbes = true
  stopped : dev.effectiveIsStopped = true

section

variable {management : Management σ ε} {deviceId : List Char} {probe : String}
  {firstIndex lastIndex : List Char} {hub : Hub}

namespace SweepPlan

variable (plan : SweepPlan management deviceId probe firstIndex lastIndex hub)

def indices : List ℕ :=
  List.range' plan.first.toNat (plan.last.toNat + 1 - plan.first.toNat)

/-- The request for an index. -/
def request? (idx : ℕ) : Option IoFrame :=
  plan.descriptor.builder hub.nodeId plan.dev.nodeId (UInt8.ofNat idx) plan.dev.lowPower

theorem index_le {idx : ℕ} (h : idx ∈ plan.indices) : idx ≤ 255 := by
  have hlast := plan.last.toNat_lt
  have hordered := UInt8.le_iff_toNat_le.mp plan.ordered
  rw [indices, List.mem_range'_1] at h
  omega

/-- One index is one exchange, and nothing stops the sweep. -/
theorem probe_traces {idx : ℕ} (h : idx ≤ 255) :
    Traces (probeDevice management deviceId probe (unsignedText idx) hub) fun step es =>
      ∃ request report, plan.request? idx = some request ∧
        Exchanged es [(request, report)] ∧ TellsOf step report := by
  obtain ⟨request, hrequest, -⟩ := probeTable_builds (mem_probeTable plan.found) hub.nodeId
    plan.dev.nodeId (UInt8.ofNat idx) plan.dev.lowPower
  rw [probeDevice, resolveDevice_named plan.named]
  simp only [probeResolved, plan.enabled, plan.stopped, plan.found, plan.needsIndex,
    parse_unsignedText h, hrequest, if_true, Bool.true_eq_false, if_false, and_false]
  refine (sendProbe_traces management probe request rfl rfl).weaken fun step es hstep => ?_
  obtain ⟨report, hexchanged, htells⟩ := hstep
  exact ⟨request, report, hrequest, hexchanged, htells⟩

end SweepPlan

theorem pauseBefore_quiet (first idx : ℕ) : Quiet (pauseBefore (σ := σ) (ε := ε) first idx) :=
  Quiet.ite (fun _ => ⟨[.wait probeSweepDelayMs], rfl, Exchanged.wait _⟩) (Quiet.pure _)

/-- The lines of a sweep, one for each exchange. -/
def sweepLines : List ℕ → List ExchangeReport → String
  | idx :: indices, report :: reports =>
    "index=0x" ++ formatHexByte (UInt8.ofNat idx) ++ ": " ++ (outcomeText report ++ "\n") ++
      sweepLines indices reports
  | _, _ => ""

/-- What the loop has gathered once it was told of exchanges. -/
def told (s : Sweep) (indices : List ℕ) (reports : List ExchangeReport) : Sweep :=
  { s with
    report := s.report ++ sweepLines indices reports
    answeredCount := s.answeredCount + reports.countP answered }

theorem told_nil (s : Sweep) : told s [] [] = s := by
  simp [told, sweepLines]

theorem told_add (s : Sweep) {idx : ℕ} {step : ActionResult} {report : ExchangeReport}
    (h : TellsOf step report) (indices : List ℕ) (reports : List ExchangeReport) :
    told (s.add idx step) indices reports =
      told s (idx :: indices) (report :: reports) := by
  have hcount : s.answeredCount + (if answered report then 1 else 0) + reports.countP answered =
      s.answeredCount + (report :: reports).countP answered := by
    rw [List.countP_cons]
    omega
  simp only [told, Sweep.add, sweepLines, h.line, h.success, hcount, String.append_assoc]

/-- The loop of a sweep that nothing refuses takes the indices that are left one by one. -/
theorem SweepPlan.loop_traces
    (plan : SweepPlan management deviceId probe firstIndex lastIndex hub) (first : ℕ)
    {indices : List ℕ} (h : ∀ idx ∈ indices, idx ≤ 255) (s : Sweep) :
    Traces (sweepLoop management deviceId probe first hub indices s) fun s' es =>
      ∃ xs, Exchanged es xs ∧ (xs.map Prod.fst).map some = indices.map plan.request? ∧
        s' = told s indices (xs.map Prod.snd) := by
  induction indices generalizing s with
  | nil => exact Traces.pure ⟨[], Exchanged.nil, rfl, (told_nil s).symm⟩
  | cons idx rest ih =>
    have hrest := ih (fun idx hidx => h idx (List.mem_cons_of_mem _ hidx))
    refine Traces.bind (pauseBefore_quiet first idx) fun _ es hes => ?_
    refine (plan.probe_traces (h idx List.mem_cons_self)).bind fun step fs hfs => ?_
    obtain ⟨request, report, hrequest, hexchanged, htells⟩ := hfs
    rw [htells.goesOn, if_neg Bool.false_ne_true]
    refine (hrest (s.add idx step)).weaken fun s' gs hgs => ?_
    obtain ⟨xs, hothers, hasked, htold⟩ := hgs
    refine ⟨(request, report) :: xs, hes.append (hexchanged.append hothers), ?_, ?_⟩
    · rw [List.map_cons, List.map_cons, List.map_cons, hasked, hrequest]
    · rw [htold, told_add s htells]
      rfl

/-- A probe that is refused for all indices stops a sweep before it sends anything. -/
theorem sweepLoop_refused (first : ℕ) (rest : List ℕ) (s : Sweep)
    (h : Traces (probeDevice management deviceId probe (unsignedText first) hub) fun step es =>
      step.terminalRefusal = true ∧ Exchanged es []) :
    Traces (sweepLoop management deviceId probe first hub (first :: rest) s) fun s' es =>
      s'.stoppedEarly = true ∧ Exchanged es [] := by
  refine Traces.bind (pauseBefore_quiet first first) fun _ es hes => ?_
  refine h.bind fun step fs hfs => ?_
  rw [hfs.1, if_pos rfl]
  exact Traces.pure ⟨rfl, hes.append (hfs.2.append Exchanged.nil)⟩

/-- A device is not probed where probes are disabled or while it moves. -/
theorem probe_refused {dev : IoDevice} (hnamed : namedDevice deviceId hub = some dev)
    (h : management.diagnosticProbes = false ∨ dev.effectiveIsStopped = false)
    (index : List Char) :
    Traces (probeDevice management deviceId probe index hub) fun step es =>
      step.terminalRefusal = true ∧ Exchanged es [] := by
  rw [probeDevice, resolveDevice_named hnamed]
  simp only [probeResolved]
  by_cases hdisabled : management.diagnosticProbes = false
  · rw [if_pos hdisabled]
    exact Traces.pure ⟨rfl, Exchanged.nil⟩
  · rw [if_neg hdisabled, if_pos (h.resolve_left hdisabled)]
    exact Traces.pure ⟨rfl, Exchanged.nil⟩

/-- A sweep that nothing refuses: an exchange for each index, and a report of what each came to. -/
structure SweepPlan.Done (plan : SweepPlan management deviceId probe firstIndex lastIndex hub)
    (result : ActionResult) (es : List (ActionEvent ε)) : Prop where
  success : result.success = true
  asked : (requests es).map some = plan.indices.map plan.request?
  exchanged : (exchanges es).map Prod.fst = requests es
  message : result.message =
    sweepHeadline probe plan.first plan.last ((exchanges es).countP fun x => answered x.2) ++
      sweepLines plan.indices ((exchanges es).map Prod.snd)

theorem SweepPlan.sweepOver_traces
    (plan : SweepPlan management deviceId probe firstIndex lastIndex hub) (result : ActionResult) :
    Traces (sweepOver management deviceId probe plan.first plan.last result hub) plan.Done := by
  refine (plan.loop_traces plan.first.toNat (fun idx => plan.index_le) {}).bind
    fun s es hes => Traces.pure ?_
  obtain ⟨xs, hexchanged, hasked, rfl⟩ := hes
  rw [List.append_nil]
  obtain ⟨hrequests, hexchanges⟩ := hexchanged
  refine ⟨rfl, ?_, ?_, ?_⟩
  · rw [hrequests]
    exact hasked
  · rw [hrequests, hexchanges]
  · rw [hexchanges]
    simp only [told, List.countP_map, Nat.zero_add, String.empty_append]
    rfl

/-- A range that was accepted and a device that is refused. -/
theorem sweepOver_refused {dev : IoDevice} (hnamed : namedDevice deviceId hub = some dev)
    (h : management.diagnosticProbes = false ∨ dev.effectiveIsStopped = false)
    {first last : UInt8} (hordered : first ≤ last) (result : ActionResult) :
    Traces (sweepOver management deviceId probe first last result hub) fun result' es =>
      result'.success = false ∧ Exchanged es [] := by
  have hnonempty : last.toNat + 1 - first.toNat = (last.toNat - first.toNat) + 1 := by
    have hle := UInt8.le_iff_toNat_le.mp hordered
    omega
  rw [sweepOver, hnonempty, List.range'_succ]
  refine (sweepLoop_refused first.toNat _ {} (probe_refused hnamed h _)).bind
    fun s es hes => Traces.pure ?_
  obtain ⟨hstopped, hquiet⟩ := hes
  exact ⟨by rw [hstopped]; rfl, hquiet.append Exchanged.nil⟩

namespace SweepPlan

variable (plan : SweepPlan management deviceId probe firstIndex lastIndex hub)

/-- The arguments leave no choice. -/
theorem unique (plan' : SweepPlan management deviceId probe firstIndex lastIndex hub) :
    plan = plan' := by
  obtain ⟨dev, hdev, descriptor, hfound, _, first, hfirst, last, hlast, _, _, _, _⟩ := plan
  obtain ⟨dev', hdev', descriptor', hfound', _, first', hfirst', last', hlast', _, _, _, _⟩ := plan'
  obtain rfl := Option.some.inj (hdev.symm.trans hdev')
  obtain rfl := Option.some.inj (hfound.symm.trans hfound')
  obtain rfl := congrArg Prod.snd (hfirst.symm.trans hfirst')
  obtain rfl := congrArg Prod.snd (hlast.symm.trans hlast')
  rfl

theorem probeSweep_eq :
    probeSweep management deviceId probe firstIndex lastIndex hub =
      sweepOver management deviceId probe plan.first plan.last
        { makeManagementResult managementActionProbeSweep
          (normalizeDeviceIdArgument deviceId) with probeName := probe } hub := by
  have hordered := UInt8.not_lt.mpr plan.ordered
  have hnarrow : ¬ probeSweepMaxIndices < plan.last.toNat - plan.first.toNat + 1 :=
    Nat.not_lt.mpr plan.narrow
  simp only [probeSweep, resolveDevice_named plan.named, plan.found, plan.needsIndex,
    plan.firstParsed, plan.lastParsed, hordered, hnarrow, Bool.true_eq_false, or_self, if_false]

/-- The requests of a sweep are those that its table builds. -/
theorem reads {asked : List IoFrame} (h : asked.map some = plan.indices.map plan.request?) :
    ∀ request ∈ asked, request.cmd ∈ probeCommands ∧
      IsRequest hub.nodeId plan.dev.nodeId request.cmd request := by
  intro request hrequest
  have hmem := List.mem_map_of_mem (f := some) hrequest
  rw [h] at hmem
  obtain ⟨idx, -, hidx⟩ := List.mem_map.mp hmem
  obtain ⟨request', hbuilt, hcmd, his⟩ := probeTable_builds (mem_probeTable plan.found) hub.nodeId
    plan.dev.nodeId (UInt8.ofNat idx) plan.dev.lowPower
  obtain rfl := Option.some.inj (hidx.symm.trans hbuilt)
  exact ⟨hcmd, his⟩

end SweepPlan

/-- A sweep without a plan asks for nothing. -/
theorem probeSweep_refused
    (h : IsEmpty (SweepPlan management deviceId probe firstIndex lastIndex hub)) :
    Traces (probeSweep management deviceId probe firstIndex lastIndex hub) fun result es =>
      result.success = false ∧ Exchanged es [] := by
  have hrefused {result : ActionResult} (hresult : result.success = false) :
      Traces (pure result : Prog σ (ActionEvent ε) ActionResult) fun result es =>
        result.success = false ∧ Exchanged es [] := Traces.pure ⟨hresult, Exchanged.nil⟩
  cases hnamed : namedDevice deviceId hub with
  | none =>
    obtain ⟨-, -, hnone⟩ := resolveDevice_unnamed hnamed managementActionProbeSweep
    rw [probeSweep]
    generalize hresolved : resolveDevice managementActionProbeSweep deviceId hub = resolved at hnone
    obtain ⟨result, dev⟩ := resolved
    obtain rfl : dev = none := hnone
    exact hrefused rfl
  | some dev =>
    simp only [probeSweep, resolveDevice_named hnamed]
    cases hfound : findProbeDescriptor probe with
    | none => exact hrefused rfl
    | some descriptor =>
      refine Traces.ite (fun _ => hrefused rfl) fun hneeds => ?_
      refine Traces.ite (fun _ => hrefused rfl) fun hparsed => ?_
      refine Traces.ite (fun _ => hrefused rfl) fun hordered => ?_
      refine Traces.ite (fun _ => hrefused rfl) fun hnarrow => ?_
      rw [not_or, Bool.not_eq_false, Bool.not_eq_false] at hparsed
      refine sweepOver_refused hnamed ?_ (UInt8.not_lt.mp hordered) _
      -- the range is fit for a sweep, so the device is not
      by_contra hfit
      rw [not_or, Bool.not_eq_false, Bool.not_eq_false] at hfit
      exact h.false
        { dev, named := hnamed, descriptor, found := hfound
          needsIndex := by simpa using hneeds
          first := _, firstParsed := Prod.ext hparsed.1 rfl
          last := _, lastParsed := Prod.ext hparsed.2 rfl
          ordered := UInt8.not_lt.mp hordered
          narrow := Nat.lt_of_succ_le (Nat.not_lt.mp hnarrow)
          enabled := hfit.1, stopped := hfit.2 }

end

end

/-- The texts of a position: a number of decimal digits, blanks around it. -/
def PositionText (text : List Char) (value : ℕ) : Prop :=
  ∃ front digits back, text = front ++ (digits ++ back) ∧ (∀ ch ∈ front, isBlank ch = true) ∧
    (∀ ch ∈ back, isBlank ch = true) ∧ digits ≠ [] ∧ AllDigitsIn 10 digits ∧
    valueIn 10 digits = value ∧ value ≤ onewayPositionFullyClosed

theorem isBlank_digit {ch : Char} (h : isDigitIn 10 ch = true) : ¬ isBlank ch = true := by
  rw [(digit_plain h).1]
  exact Bool.false_ne_true

theorem rdropWhile_blanks {digits back : List Char} (hne : digits ≠ [])
    (hdigits : AllDigitsIn 10 digits) (hback : ∀ ch ∈ back, isBlank ch = true) :
    (digits ++ back).rdropWhile isBlank = digits := by
  induction back using List.reverseRecOn with
  | nil =>
    rw [List.append_nil]
    refine List.rdropWhile_eq_self_iff.mpr fun _ => ?_
    exact isBlank_digit (hdigits _ (List.getLast_mem hne))
  | append_singleton back ch ih =>
    rw [← List.append_assoc, List.rdropWhile_concat_pos _ _ _ (hback ch (by simp))]
    exact ih fun ch' hch' => hback ch' (List.mem_append_left _ hch')

theorem trimBlanks_digits {front digits back : List Char} (hne : digits ≠ [])
    (hdigits : AllDigitsIn 10 digits) (hfront : ∀ ch ∈ front, isBlank ch = true)
    (hback : ∀ ch ∈ back, isBlank ch = true) :
    trimBlanks (front ++ (digits ++ back)) = digits := by
  obtain ⟨first, rest, rfl⟩ := List.exists_cons_of_ne_nil hne
  have hfirst := isBlank_digit (hdigits first List.mem_cons_self)
  rw [trimBlanks, List.dropWhile_append_of_pos hfront, List.cons_append,
    List.dropWhile_cons_of_neg hfirst, ← List.cons_append, rdropWhile_blanks hne hdigits hback]

theorem trimBlanks_split (text : List Char) :
    ∃ front back, text = front ++ (trimBlanks text ++ back) ∧
      (∀ ch ∈ front, isBlank ch = true) ∧ ∀ ch ∈ back, isBlank ch = true := by
  refine ⟨text.takeWhile isBlank, (text.dropWhile isBlank).rtakeWhile isBlank, ?_,
    fun ch hch => List.mem_takeWhile_imp hch, fun ch hch => List.mem_rtakeWhile_imp hch⟩
  rw [trimBlanks, List.rdropWhile_append_rtakeWhile, List.takeWhile_append_dropWhile]

theorem any_not_digit {text : List Char} :
    text.any (fun ch => !isDigitIn 10 ch) = true ↔ ¬ AllDigitsIn 10 text := by
  simp [AllDigitsIn, List.any_eq_true]

/-- The limit of the library's numbers is above that of a position. -/
theorem parsePosition_eq (text : List Char) :
    parsePosition text =
      if trimBlanks text = [] ∨ (trimBlanks text).any (fun ch => !isDigitIn 10 ch) then
        .error "position must be a whole number between 0 and 100"
      else if onewayPositionFullyClosed < valueIn 10 (trimBlanks text) then
        .error "position must be between 0 and 100"
      else .ok (UInt8.ofNat (valueIn 10 (trimBlanks text))) := by
  have hlimit : onewayPositionFullyClosed < ulongSize - 1 := by decide
  simp only [parsePosition]
  by_cases hlarge : onewayPositionFullyClosed < valueIn 10 (trimBlanks text)
  · rw [if_pos hlarge, if_pos (lt_min hlarge hlimit)]
  · have hsame : min (valueIn 10 (trimBlanks text)) (ulongSize - 1) =
        valueIn 10 (trimBlanks text) :=
      min_eq_left ((Nat.le_of_not_lt hlarge).trans hlimit.le)
    rw [hsame]

/-- Exactly the texts of a position are read, each as its number. -/
theorem parsePosition_ok_iff (text : List Char) (position : UInt8) :
    parsePosition text = .ok position ↔ PositionText text position.toNat := by
  rw [parsePosition_eq]
  constructor
  · intro h
    split_ifs at h with hrefused hlarge
    rw [any_not_digit, not_or, not_not] at hrefused
    obtain ⟨front, back, hsplit, hfront, hback⟩ := trimBlanks_split text
    have hbyte : valueIn 10 (trimBlanks text) < 256 :=
      Nat.lt_of_le_of_lt (Nat.le_of_not_lt hlarge) (by decide)
    obtain rfl := Except.ok.inj h
    rw [UInt8.toNat_ofNat_of_lt' hbyte]
    exact ⟨front, trimBlanks text, back, hsplit, hfront, hback, hrefused.1, hrefused.2, rfl,
      Nat.le_of_not_lt hlarge⟩
  · rintro ⟨front, digits, back, rfl, hfront, hback, hne, hdigits, hvalue, hlimit⟩
    have hread : ¬ (digits = [] ∨ digits.any (fun ch => !isDigitIn 10 ch) = true) := by
      rw [any_not_digit, not_or, not_not]
      exact ⟨hne, hdigits⟩
    rw [trimBlanks_digits hne hdigits hfront hback, if_neg hread, hvalue,
      if_neg (Nat.not_lt.mpr hlimit), UInt8.ofNat_toNat]

/-- A position is queued exactly if the controller is known and the text is one of a position;
else the hub stays as it is. -/
theorem position_queued_iff (controllerId : String) (text : List Char) (knows : String → Bool)
    (hub : Hub) :
    (∀ position : UInt8, knows controllerId = true → PositionText text position.toNat →
      (onewaySetPosition controllerId text knows hub).1.success = true ∧
        (onewaySetPosition controllerId text knows hub).2 =
          { hub with opQueue := hub.opQueue.enqueueOnewayPosition controllerId position }) ∧
      ((knows controllerId = false ∨ ∀ position : UInt8, ¬ PositionText text position.toNat) →
        (onewaySetPosition controllerId text knows hub).1.success = false ∧
          (onewaySetPosition controllerId text knows hub).2 = hub) := by
  simp only [onewaySetPosition, withController]
  refine ⟨fun position hknows htext => ?_, fun hrefused => ?_⟩
  · rw [if_neg (by simp [hknows]), (parsePosition_ok_iff text position).mpr htext]
    exact ⟨rfl, rfl⟩
  · by_cases hknows : knows controllerId = false
    · rw [if_pos hknows]
      exact ⟨rfl, rfl⟩
    · rw [if_neg hknows]
      cases hparsed : parsePosition text with
      | error message => exact ⟨rfl, rfl⟩
      | ok position =>
        exact absurd ((parsePosition_ok_iff text position).mp hparsed)
          (hrefused.resolve_left hknows position)

end HomeIoControl.ManagementRuns
