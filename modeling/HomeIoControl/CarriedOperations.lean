import HomeIoControl.HubFrames

/-!
# What carrying out an operation asks for

A device's operation is one exchange at most, and which request it begins with is decided by the
device's record. A pass that lets the front of the queue through takes it from the queue and asks
for exactly that; everything else on its record was heard before the gate.
-/

namespace HomeIoControl.CarriedOperations

open MachineRuns TracedPrograms ProtocolFrames DeviceModels DeviceRegistries DeviceRequests
  PendingOperations RadioLinks Exchanges HubStatus HubOperations HubLoop HubRules HubFrames

/-- The request of a command, if it comes to one. -/
def commandRequest (deviceId : String) (spec : ExecuteSpec) (hub : Hub) : Option IoFrame :=
  match hub.registry.get deviceId with
  | none => none
  | some dev =>
    if hub.initialized = false ∨ spec.accepts dev = false then none
    else spec.build hub.nodeId dev

/-- The request of a binary entity or a light, behind its own guard. -/
def entityRequest (expected : DeviceCapabilityClass) (deviceId : String) (position : UInt8)
    (hub : Hub) : Option IoFrame :=
  match hub.registry.get deviceId with
  | none => none
  | some dev =>
    if hub.initialized = false ∨ knownDeviceMatchesEntityClass expected dev = false then none
    else commandRequest deviceId (positionSpec position) hub

/-- The request of a poll. -/
def pollRequest (deviceId : String) (hub : Hub) : Option IoFrame :=
  match hub.registry.get deviceId with
  | none => none
  | some dev =>
    if hub.initialized = false ∨ knownDeviceSupportsStatusRequests dev = false then none
    else statusRequest hub.nodeId dev

/-- The request for a name. -/
def nameRequest (deviceId : String) (hub : Hub) : Option IoFrame :=
  match hub.registry.get deviceId with
  | none => none
  | some dev =>
    if hub.initialized = false then none
    else createGetName hub.nodeId dev.nodeId dev.lowPower

/-- An exchange, if there is a request for it. -/
def exchangeFor (request : Option IoFrame) : List HubOutput := request.toList.map .exchange

/-- What the hub asks of the radio, of its one-way controllers and of the pairing engine to carry
out an operation. -/
def asks (op : PendingOperation) (hub : Hub) : List HubOutput :=
  match op.type with
  | .setPosition => exchangeFor (commandRequest op.deviceId (positionSpec op.position) hub)
  | .setTilt => exchangeFor (commandRequest op.deviceId (tiltSpec op.position) hub)
  | .setPositionAndTilt =>
    exchangeFor (commandRequest op.deviceId (positionAndTiltSpec op.position op.tilt) hub)
  | .deviceCommand => exchangeFor (commandRequest op.deviceId (commandSpec op.command) hub)
  | .setLightState => exchangeFor (entityRequest .light op.deviceId op.position hub)
  | .setLockState =>
    exchangeFor (entityRequest .lock op.deviceId
      (if op.position = binaryEntityOffPosition then binaryEntityOffPosition
        else binaryEntityOnPosition) hub)
  | .setSwitchState =>
    exchangeFor (entityRequest .switch op.deviceId
      (if op.position = binaryEntityOnPosition then binaryEntityOnPosition
        else binaryEntityOffPosition) hub)
  | .requestStatus => exchangeFor (pollRequest op.deviceId hub)
  | .requestName => exchangeFor (nameRequest op.deviceId hub)
  | .discoverAndPair => if hub.initialized then [.pairing] else []
  | .onewayCommand => [.oneWay op]
  | .onewayPosition => [.oneWay op]
  | .onewayEnroll => [.oneWay op]
  | .onewayUnenroll => [.oneWay op]

section

variable {α β : Type} {p : Prog Surroundings HubReport α} {asked : List HubOutput}

/-- In every world the program reports these outputs and no others. -/
def Asks (p : Prog Surroundings HubReport α) (asked : List HubOutput) : Prop :=
  Traces p fun _ es => es.map HubReport.output = asked

theorem Asks.pure (a : α) : Asks (pure a : Prog Surroundings HubReport α) [] := Traces.pure rfl

/-- What is asked for after a program that reports nothing. -/
theorem Asks.after {f : α → Prog Surroundings HubReport β} {post : α → Prop}
    (hp : ∀ log, Keeps (fun w => w.log = log) p post) (hf : ∀ a, post a → Asks (f a) asked) :
    Asks (p >>= f) asked := by
  refine (Keeps.traces hp).bind ?_
  rintro a _ ⟨ha, rfl⟩
  exact hf a ha

/-- What is asked for before a program that reports nothing. -/
theorem Asks.before {f : α → Prog Surroundings HubReport β} {post : β → Prop} (hp : Asks p asked)
    (hf : ∀ a log, Keeps (fun w => w.log = log) (f a) post) : Asks (p >>= f) asked := by
  refine Traces.bind hp fun a es hes => (Keeps.traces (hf a)).weaken ?_
  rintro b _ ⟨-, rfl⟩
  rwa [List.append_nil]

/-- What is done with the result asks for nothing. -/
theorem Asks.map (hp : Asks p asked) (f : α → β) : Asks (p >>= fun a => Pure.pure (f a)) asked :=
  have hpure (a : α) (log : List HubReport) :
      Keeps (fun w => w.log = log) (Pure.pure (f a)) fun _ => True := Keeps.pure trivial
  hp.before hpure

theorem Asks.report_then (output : HubOutput) {q : Prog Surroundings HubReport α} {post : α → Prop}
    (hq : ∀ log, Keeps (fun w => w.log = log) q post) :
    Asks (report output >>= fun _ => q) [output] := by
  have hreport : Asks (report output) [output] := fun w => ⟨_, rfl, rfl⟩
  exact hreport.before fun _ => hq

theorem consult_silent (f : Answer → ℕ → α) (log : List HubReport) :
    Keeps (fun w => w.log = log) (consult f : Prog Surroundings HubReport α) fun _ => True :=
  consult_keeps (fun _ h => h) f

/-- Asking the surroundings reports nothing. -/
theorem surroundings_silent (log : List HubReport) :
    PortsKeep (fun w => w.log = log) surroundingPorts.toReceivePorts :=
  surroundings_keep fun _ h => h

end

section

variable (deviceId : String) (hub : Hub)

theorem executeRequestAndUpdate_asks (request : IoFrame) (retryAfterFailMs : UInt32)
    (maxTries : UInt8) :
    Asks (executeRequestAndUpdate surroundingPorts deviceId request retryAfterFailMs maxTries hub)
      [.exchange request] := by
  have hexchange : Asks (surroundingPorts.sendAndReceive request freqCh2 maxTries)
      [.exchange request] := Asks.report_then _ (consult_silent _)
  exact hexchange.before fun report log =>
    finishRequest_untouched (surroundings_silent log) deviceId request _ report hub

theorem sendCommand_asks (settleAsStop : Bool) (request : IoFrame) :
    Asks (sendCommand surroundingPorts deviceId settleAsStop request hub) [.exchange request] :=
  (executeRequestAndUpdate_asks deviceId hub request 0 _).before fun result log =>
    (finishCommand_untouched (surroundings_silent log) deviceId settleAsStop result).weaken
      fun _ _ => trivial

theorem tryExecuteOperation_asks (spec : ExecuteSpec) :
    Asks (tryExecuteOperation surroundingPorts deviceId spec hub)
      (exchangeFor (commandRequest deviceId spec hub)) := by
  unfold tryExecuteOperation commandRequest
  cases hub.registry.get deviceId with
  | none => exact Asks.pure _
  | some dev =>
    dsimp only
    split_ifs with hguard
    · exact Asks.pure _
    · refine Asks.after (fun log => beginStatusPollTracking_untouched (surroundings_silent log)
        deviceId _ hub) fun hub₁ h => ?_
      rw [h.nodeId]
      cases spec.build hub.nodeId dev with
      | none => exact Asks.pure _
      | some request => exact sendCommand_asks deviceId hub₁ _ request

theorem runExecuteOperation_asks (spec : ExecuteSpec) :
    Asks (runExecuteOperation surroundingPorts deviceId spec hub)
      (exchangeFor (commandRequest deviceId spec hub)) :=
  (tryExecuteOperation_asks deviceId hub spec).map _

theorem setDevicePosition_asks (position : UInt8) :
    Asks (setDevicePosition surroundingPorts deviceId position hub)
      (exchangeFor (commandRequest deviceId (positionSpec position) hub)) := by
  unfold setDevicePosition
  split_ifs with hnone
  · rw [commandRequest, Option.isNone_iff_eq_none.mp hnone]
    exact Asks.pure _
  · exact runExecuteOperation_asks deviceId hub (positionSpec position)

theorem setEntityPosition_asks (expected : DeviceCapabilityClass) (position : UInt8) :
    Asks (setEntityPosition surroundingPorts expected deviceId position hub)
      (exchangeFor (entityRequest expected deviceId position hub)) := by
  unfold setEntityPosition entityRequest
  cases hub.registry.get deviceId with
  | none => exact Asks.pure _
  | some dev =>
    dsimp only
    split_ifs with hguard
    · exact Asks.pure _
    · exact setDevicePosition_asks deviceId hub position

theorem requestDeviceStatus_asks :
    Asks (requestDeviceStatus surroundingPorts deviceId hub)
      (exchangeFor (pollRequest deviceId hub)) := by
  unfold requestDeviceStatus pollRequest
  cases hub.registry.get deviceId with
  | none => exact Asks.pure _
  | some dev =>
    dsimp only
    split_ifs with hguard
    · exact Asks.pure _
    · cases statusRequest hub.nodeId dev with
      | none => exact Asks.pure _
      | some request =>
        refine Asks.after (fun log => (surroundings_silent log).millis) fun now _ => ?_
        exact (executeRequestAndUpdate_asks deviceId hub request _ _).map _

theorem requestDeviceName_asks :
    Asks (requestDeviceName surroundingPorts deviceId hub)
      (exchangeFor (nameRequest deviceId hub)) := by
  unfold requestDeviceName nameRequest
  cases hub.registry.get deviceId with
  | none => exact Asks.pure _
  | some dev =>
    dsimp only
    split_ifs with hguard
    · exact Asks.pure _
    · cases createGetName hub.nodeId dev.nodeId dev.lowPower with
      | none => exact Asks.pure _
      | some request =>
        exact (executeRequestAndUpdate_asks deviceId hub request 0 _).map _

theorem discoverAndPair_asks :
    Asks (HubOperations.discoverAndPair surroundingPorts hub)
      (if hub.initialized then [.pairing] else []) := by
  unfold HubOperations.discoverAndPair
  cases hub.initialized with
  | false => exact Asks.pure _
  | true =>
    have hpair : Asks (surroundingPorts.discoverAndPair hub.registry) [.pairing] :=
      Asks.report_then _ (consult_silent _)
    exact hpair.map _

theorem executeOneway_asks (op : PendingOperation) :
    Asks (executeOneway surroundingPorts op hub) [.oneWay op] := by
  have hsend : Asks (surroundingPorts.sendOneWay op) [.oneWay op] :=
    Asks.report_then _ (consult_silent _)
  have hactivity (log : List HubReport) : Keeps (fun w => w.log = log)
      (surroundingPorts.millis >>= fun now => pure (hub.record1wActivity now)) fun _ => True :=
    (surroundings_silent log).millis.skip fun _ => Keeps.pure trivial
  exact hsend.before fun _ => hactivity

private theorem ignoreResult_asks {p : Prog Surroundings HubReport (Bool × Hub)}
    {asked : List HubOutput} (h : Asks p asked) : Asks (ignoreResult p) asked :=
  h.map _

/-- Carrying out an operation asks for what its type and the device's record say, and for nothing
else. -/
theorem dispatchOperation_asks (op : PendingOperation) :
    Asks (dispatchOperation surroundingPorts op hub) (asks op hub) := by
  unfold dispatchOperation asks
  cases op.type with
  | setPosition => exact ignoreResult_asks (setDevicePosition_asks _ hub _)
  | setTilt => exact ignoreResult_asks (runExecuteOperation_asks _ hub _)
  | setPositionAndTilt => exact ignoreResult_asks (runExecuteOperation_asks _ hub _)
  | deviceCommand => exact ignoreResult_asks (runExecuteOperation_asks _ hub _)
  | setLightState => exact ignoreResult_asks (setEntityPosition_asks _ hub _ _)
  | setLockState =>
    unfold setLockState
    simpa only [decide_eq_true_eq] using ignoreResult_asks (setEntityPosition_asks op.deviceId hub
      .lock (if decide (op.position = binaryEntityOffPosition) = true then binaryEntityOffPosition
        else binaryEntityOnPosition))
  | setSwitchState =>
    unfold setSwitchState
    simpa only [decide_eq_true_eq] using ignoreResult_asks (setEntityPosition_asks op.deviceId hub
      .switch (if decide (op.position = binaryEntityOnPosition) = true then binaryEntityOnPosition
        else binaryEntityOffPosition))
  | requestStatus => exact ignoreResult_asks (requestDeviceStatus_asks _ hub)
  | requestName => exact ignoreResult_asks (requestDeviceName_asks _ hub)
  | discoverAndPair => exact ignoreResult_asks (discoverAndPair_asks hub)
  | onewayCommand => exact executeOneway_asks hub op
  | onewayPosition => exact executeOneway_asks hub op
  | onewayEnroll => exact executeOneway_asks hub op
  | onewayUnenroll => exact executeOneway_asks hub op

end

/-- Carrying out an operation leaves the queue alone. -/
theorem dispatchOperation_opQueue {σ ε : Type} (ports : HubPorts σ ε) (op : PendingOperation)
    (hub : Hub) :
    Returns (dispatchOperation ports op hub) fun hub' => hub'.opQueue = hub.opQueue := by
  have hown : Returns (executeOneway ports op hub) fun hub' => hub'.opQueue = hub.opQueue := by
    refine (executeOneway_returns ports op hub).weaken fun hub' h => ?_
    obtain ⟨now, rfl⟩ := h
    rfl
  cases honeway : isOneway op.type with
  | false =>
    exact (dispatchOperation_untouched ports honeway hub).weaken fun _ h => h.opQueue
  | true =>
    unfold dispatchOperation
    cases htype : op.type <;> first | exact hown | (rw [htype] at honeway; cases honeway)

/-- The operation that the gate of a pass lets through. -/
def letThrough (s : HubState) (e : HubEvent) : Option PendingOperation :=
  if e.action.isPass ∧ Running s.hub ∧ heldBack s e = false then
    (atGate s e).1.opQueue.pop.2
  else none

/-- The hub and its surroundings after the second part of a pass. -/
def afterDispatch (s : HubState) (e : HubEvent) : Hub × World Surroundings HubReport :=
  dispatch surroundingPorts (atGate s e).1 (atGate s e).2

/-- A pass carries the operation out: it takes it from the front of the queue, asks after the gate
for what the operation takes and for nothing else, and goes on to the polls. -/
structure CarriesOut (op : PendingOperation) (s : HubState) (e : HubEvent) : Prop where
  front : s.hub.opQueue.ops.head? = some op
  taken : (afterDispatch s e).1.opQueue.ops = s.hub.opQueue.ops.tail
  asked : ∃ asked, reports s e = (atGate s e).2.log ++ asked ∧
    asked.map HubReport.output = asks op (atGate s e).1
  polled : (hubStep s e).hub =
    (pollDue surroundingPorts (afterDispatch s e).1 (afterDispatch s e).2).1

section

variable {s : HubState} {e : HubEvent}

theorem atGate_opQueue (s : HubState) (e : HubEvent) :
    (atGate s e).1.opQueue = s.hub.opQueue := by
  have hheard := receive_afterHearing s.hub (e.surroundings s)
  rw [afterHearing_eq] at hheard
  exact hheard.opQueue

/-- The dispatch of a pass, behind the gate. -/
theorem afterDispatch_eq (s : HubState) (e : HubEvent) :
    afterDispatch s e = (if heldBack s e then pure (atGate s e).1
      else processPendingOperation surroundingPorts (atGate s e).1)
        (deferBackgroundPoll surroundingPorts (atGate s e).1 (atGate s e).2).2 := rfl

/-- After the gate a pass asks for what the operation takes that the gate lets through. -/
theorem afterDispatch_asks (hpass : e.action = .pass) (hrunning : Running s.hub) :
    ∃ asked, (afterDispatch s e).2.log = (atGate s e).2.log ++ asked ∧
      asked.map HubReport.output =
        ((letThrough s e).map fun op => asks op (atGate s e).1).getD [] := by
  have hisPass : e.action.isPass = true := by rw [hpass]; rfl
  obtain ⟨-, hgate⟩ := deferBackgroundPoll_keeps (surroundings_silent (atGate s e).2.log)
    (atGate s e).1 (atGate s e).2 rfl
  rw [afterDispatch_eq]
  unfold letThrough
  cases hheld : heldBack s e with
  | true =>
    refine ⟨[], ?_, ?_⟩
    · rw [List.append_nil]
      exact hgate
    · rw [if_neg (by simp)]
      rfl
  | false =>
    rw [if_neg Bool.false_ne_true, if_pos ⟨hisPass, hrunning, rfl⟩]
    unfold processPendingOperation
    cases hpop : (atGate s e).1.opQueue.pop with
    | mk opQueue front =>
      cases front with
      | none =>
        refine ⟨[], ?_, rfl⟩
        rw [List.append_nil]
        exact hgate
      | some op =>
        obtain ⟨asked, hlog, hasked⟩ := dispatchOperation_asks
          { (atGate s e).1 with opQueue := opQueue } op
          (deferBackgroundPoll surroundingPorts (atGate s e).1 (atGate s e).2).2
        exact ⟨asked, hlog.trans (by rw [hgate]), hasked⟩

/-- Polling writes nothing. -/
theorem pollDue_silent (hub : Hub) (w : World Surroundings HubReport) :
    (pollDue surroundingPorts hub w).2.log = w.log := by
  have hpoll : Keeps (fun w' => w'.log = w.log) (pollDue surroundingPorts hub) fun _ => True :=
    (surroundings_silent w.log).millis.skip fun _ => Keeps.pure trivial
  exact (hpoll w rfl).2

theorem hubStep_pass (hpass : e.action = .pass) (hrunning : Running s.hub) :
    (hubStep s e).hub =
        (pollDue surroundingPorts (afterDispatch s e).1 (afterDispatch s e).2).1 ∧
      reports s e = (afterDispatch s e).2.log := by
  have hact : act s.hub e.action (e.surroundings s) =
      pollDue surroundingPorts (afterDispatch s e).1 (afterDispatch s e).2 := by
    rw [hpass]
    dsimp only [act]
    rw [loop_running _ hrunning]
    rfl
  unfold hubStep reports
  rw [hact]
  exact ⟨rfl, pollDue_silent _ _⟩

/-- What the gate lets through is carried out. -/
theorem carriesOut_of_letThrough {op : PendingOperation} (h : letThrough s e = some op) :
    CarriesOut op s e := by
  have hgate : e.action.isPass = true ∧ Running s.hub ∧ heldBack s e = false := by
    by_contra hclosed
    rw [letThrough, if_neg hclosed] at h
    cases h
  have hpass := HubAction.eq_pass_of_isPass hgate.1
  obtain ⟨hpolled, hreports⟩ := hubStep_pass hpass hgate.2.1
  obtain ⟨asked, hlog, hasked⟩ := afterDispatch_asks hpass hgate.2.1
  have hpop : (atGate s e).1.opQueue.pop.2 = some op := by rwa [letThrough, if_pos hgate] at h
  rw [h] at hasked
  refine ⟨?_, ?_, ⟨asked, hreports.trans hlog, hasked⟩, hpolled⟩
  · rw [← atGate_opQueue s e]
    exact hpop
  · rw [afterDispatch_eq, hgate.2.2, if_neg Bool.false_ne_true, ← atGate_opQueue s e]
    have hsplit : (atGate s e).1.opQueue.pop = ((atGate s e).1.opQueue.pop.1, some op) := by
      rw [← hpop]
    unfold processPendingOperation
    rw [hsplit]
    dsimp only
    rw [dispatchOperation_opQueue]
    rfl

end

end HomeIoControl.CarriedOperations
