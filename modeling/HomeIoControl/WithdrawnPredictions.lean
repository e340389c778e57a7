import HomeIoControl.HubLoop

/-!
# Predictions are withdrawn

What a cover predicts of a command is kept apart from what its device reports. A command that is
rejected, or dispatched and not carried out, leaves no prediction, and no report but the device's
own is ever written.
-/

namespace HomeIoControl.WithdrawnPredictions

open TracedPrograms ProtocolFrames ProtocolCommands DeviceModels DeviceRegistries DeviceRequests
  PendingOperations Exchanges HubStatus HubOperations

/-- The commands of a cover. -/
inductive CoverOperation where
  | position (target : UInt8)
  | tilt (tiltPercent : UInt8)
  | positionAndTilt (target tiltPercent : UInt8)
  | command (cmd : CoverCommand)

namespace CoverOperation

/-- The guard of the queue method. -/
def rejects (deviceId : String) (hub : Hub) : CoverOperation → Bool
  | .position _ => queueGuardRejects (knownDeviceMatchesEntityClass .cover) deviceId hub
  | .tilt _ => queueGuardRejects knownDeviceAcceptsExecuteTilt deviceId hub
  | .positionAndTilt _ _ => queueGuardRejects knownDeviceAcceptsExecuteTilt deviceId hub
  | .command _ => hub.initialized = false ∨ (hub.registry.get deviceId).isNone ∨
      queueGuardRejects (knownDeviceMatchesEntityClass .cover) deviceId hub

def enqueue (deviceId : String) (q : OperationQueue) : CoverOperation → OperationQueue
  | .position target => (q.enqueueSetPosition deviceId target).1
  | .tilt tiltPercent => (q.enqueueSetTilt deviceId tiltPercent).1
  | .positionAndTilt target tiltPercent =>
    q.enqueueSetPositionAndTilt deviceId target tiltPercent
  | .command cmd => q.enqueueDeviceCommand deviceId cmd

/-- The queue method. -/
def queue (deviceId : String) (hub : Hub) : CoverOperation → Hub
  | .position target => queueSetDevicePosition deviceId target hub
  | .tilt tiltPercent => queueSetDeviceTilt deviceId tiltPercent hub
  | .positionAndTilt target tiltPercent =>
    queueSetDevicePositionAndTilt deviceId target tiltPercent hub
  | .command cmd => queueDeviceCommand deviceId cmd hub

/-- What a pending operation asks of its cover. -/
def ofPending (op : PendingOperation) : Option CoverOperation :=
  match op.type with
  | .setPosition => some (.position op.position)
  | .setTilt => some (.tilt op.position)
  | .setPositionAndTilt => some (.positionAndTilt op.position op.tilt)
  | .deviceCommand => some (.command op.command)
  | _ => none

section

variable {σ ε : Type} (ports : HubPorts σ ε)

/-- The command as it is dispatched, with what it reports. -/
def carryOut (deviceId : String) (hub : Hub) : CoverOperation → Prog σ ε (Bool × Hub)
  | .position target => setDevicePosition ports deviceId target hub
  | .tilt tiltPercent => setDeviceTilt ports deviceId tiltPercent hub
  | .positionAndTilt target tiltPercent =>
    setDevicePositionAndTilt ports deviceId target tiltPercent hub
  | .command cmd => executeDeviceCommand ports deviceId cmd hub

end

end CoverOperation

/-- The fields that hold what the device last told. -/
def observed (dev : IoDevice) : Position × Position × Position × Bool :=
  (dev.position, dev.target, dev.tilt, dev.isStopped)

/-- Of every device two registries hold the same reports. -/
abbrev SameObserved (reg reg' : DeviceRegistry) : Prop := SameShown observed reg reg'

/-- A device that is registered has nothing predicted. -/
def NothingPredicted (deviceId : String) (reg : DeviceRegistry) : Prop :=
  ∀ dev, reg.get deviceId = some dev → dev.optimistic = {}

/-- Nothing is predicted of the device any more, and nothing is written over a report. -/
def Withdrawn (deviceId : String) (hub hub' : Hub) : Prop :=
  NothingPredicted deviceId hub'.registry ∧ SameObserved hub.registry hub'.registry

theorem sameObserved_rollback (reg : DeviceRegistry) (id : String) :
    SameObserved reg (reg.rollbackOptimistic id) :=
  SameShown.update reg id (fun dev => { dev with optimistic := {} }) (fun _ => rfl)
    fun _ => rfl

theorem nothingPredicted_rollback (reg : DeviceRegistry) (id : String) :
    NothingPredicted id (reg.rollbackOptimistic id) := by
  intro dev hdev
  rw [DeviceRegistry.rollbackOptimistic, reg.get_update, if_pos rfl, Option.map_eq_some_iff] at hdev
  obtain ⟨before, -, rfl⟩ := hdev
  rfl

/-- No operation of the optimistic API writes a report. -/
theorem sameObserved_optimistic (reg : DeviceRegistry) (id : String) :
    (∀ target, SameObserved reg (reg.applyOptimisticTarget id target).1) ∧
    SameObserved reg (reg.applyOptimisticStop id).1 ∧
    (∀ tilt, SameObserved reg (reg.applyOptimisticTilt id tilt).1) ∧
    SameObserved reg (reg.rollbackOptimistic id) := by
  refine ⟨fun target => ?_, ?_, fun tilt => ?_, sameObserved_rollback reg id⟩
  · unfold DeviceRegistry.applyOptimisticTarget
    split_ifs
    · apply SameShown.update
      · exact fun _ => rfl
      · exact fun _ => rfl
    · exact .refl reg
  · unfold DeviceRegistry.applyOptimisticStop
    split_ifs
    · apply SameShown.update
      · exact fun _ => rfl
      · exact fun _ => rfl
    · exact .refl reg
  · unfold DeviceRegistry.applyOptimisticTilt
    split_ifs
    · apply SameShown.update
      · exact fun _ => rfl
      · exact fun _ => rfl
    · exact .refl reg

theorem withdrawn_rollback {deviceId : String} {hub hub' : Hub}
    (same : SameObserved hub.registry hub'.registry) :
    Withdrawn deviceId hub
      { hub' with registry := hub'.registry.rollbackOptimistic deviceId } :=
  ⟨nothingPredicted_rollback hub'.registry deviceId,
    same.trans (sameObserved_rollback hub'.registry deviceId)⟩

theorem queueMovement_rejected {accepts : IoDevice → Bool} {deviceId : String} {hub : Hub}
    (enqueue : OperationQueue → OperationQueue)
    (hrejects : queueGuardRejects accepts deviceId hub = true) :
    Withdrawn deviceId hub (queueMovement accepts deviceId enqueue hub) := by
  rw [queueMovement, if_pos hrejects]
  exact withdrawn_rollback (.refl hub.registry)

theorem queueMovement_taken {accepts : IoDevice → Bool} {deviceId : String} {hub : Hub}
    (enqueue : OperationQueue → OperationQueue)
    (htakes : queueGuardRejects accepts deviceId hub = false) :
    queueMovement accepts deviceId enqueue hub = { hub with opQueue := enqueue hub.opQueue } := by
  rw [queueMovement, if_neg (by simp [htakes])]

theorem queue_rejected {deviceId : String} {hub : Hub} {c : CoverOperation}
    (hrejects : c.rejects deviceId hub = true) :
    Withdrawn deviceId hub (c.queue deviceId hub) := by
  cases c with
  | position target => exact queueMovement_rejected _ hrejects
  | tilt tiltPercent => exact queueMovement_rejected _ hrejects
  | positionAndTilt target tiltPercent => exact queueMovement_rejected _ hrejects
  | command cmd =>
    have hguard := of_decide_eq_true hrejects
    rw [CoverOperation.queue, queueDeviceCommand, if_pos hguard]
    exact withdrawn_rollback (.refl hub.registry)

theorem queue_taken {deviceId : String} {hub : Hub} {c : CoverOperation}
    (htakes : c.rejects deviceId hub = false) :
    c.queue deviceId hub = { hub with opQueue := c.enqueue deviceId hub.opQueue } := by
  cases c with
  | position target =>
    exact queueMovement_taken (CoverOperation.enqueue deviceId · (.position target)) htakes
  | tilt tiltPercent =>
    exact queueMovement_taken (CoverOperation.enqueue deviceId · (.tilt tiltPercent)) htakes
  | positionAndTilt target tiltPercent =>
    exact queueMovement_taken
      (CoverOperation.enqueue deviceId · (.positionAndTilt target tiltPercent)) htakes
  | command cmd =>
    have hguard := of_decide_eq_false htakes
    rw [CoverOperation.queue, queueDeviceCommand, if_neg hguard]
    rfl

/-- Where a result is a failure, no report has been written. -/
def FailsUnobserved (hub : Hub) (accepted : Bool) (hub' : Hub) : Prop :=
  accepted = false → SameObserved hub.registry hub'.registry

section

variable {σ ε : Type} (ports : HubPorts σ ε)

theorem beginStatusPollTracking_registry (deviceId : String) (delayMs : UInt32) (hub : Hub) :
    Returns (beginStatusPollTracking ports.toReceivePorts deviceId delayMs hub) fun hub' =>
      hub'.registry = hub.registry :=
  Returns.ite (fun _ => .pure rfl) fun _ => .skip fun _ => .pure rfl

theorem scheduleBackgroundPollBackoff_registry (deviceId : String) (authLike : Bool) (hub : Hub) :
    Returns (scheduleBackgroundPollBackoff ports deviceId authLike hub) fun hub' =>
      hub'.registry = hub.registry :=
  .skip fun _ => .pure rfl

theorem backOffIfScheduled_registry (retryAfterFailMs : UInt32) (deviceId : String)
    (authLike : Bool) (hub : Hub) :
    Returns (backOffIfScheduled ports retryAfterFailMs deviceId authLike hub) fun hub' =>
      hub'.registry = hub.registry :=
  Returns.ite (fun _ => scheduleBackgroundPollBackoff_registry ports deviceId authLike hub)
    fun _ => .pure rfl

theorem sameObserved_updateDevice (hub : Hub) (id : String) {u : DeviceUpdate}
    (hobserved : ∀ dev, observed (u.apply dev) = observed dev) :
    SameObserved hub.registry (hub.updateDevice id u).registry :=
  SameShown.update hub.registry id u.apply u.keepsNodeId hobserved

theorem stampLinkHealth_observed (deviceId : String) (hub : Hub) :
    Returns (stampLinkHealth ports deviceId hub) fun hub' =>
      SameObserved hub.registry hub'.registry := by
  refine Returns.ite (fun _ => .pure (.refl hub.registry)) fun _ => ?_
  refine .skip fun now => .skip fun rssi => .pure ?_
  apply sameObserved_updateDevice
  intro dev
  cases rssi <;> rfl

theorem recordRefusal_observed (deviceId : String) (response : IoFrame) (hub : Hub) :
    Returns (recordRefusal ports deviceId response hub) fun hub' =>
      SameObserved hub.registry hub'.registry := by
  refine Returns.ite (fun _ => .pure (.refl hub.registry)) fun _ => .skip fun now => .pure ?_
  exact sameObserved_updateDevice hub deviceId fun _ => rfl

theorem requestFailed_observed (deviceId : String) (retryAfterFailMs : UInt32)
    (report : ExchangeReport) (hub : Hub) :
    Returns (requestFailed ports deviceId retryAfterFailMs report hub) fun result =>
      FailsUnobserved hub result.accepted result.hub := by
  refine Returns.bind (backOffIfScheduled_registry ports retryAfterFailMs deviceId
    report.sawChallenge _) fun hub₁ hregistry => .pure fun _ => ?_
  rw [hregistry]
  exact sameObserved_updateDevice hub deviceId fun _ => rfl

theorem handleErrorResponse_observed (deviceId : String) (retryAfterFailMs : UInt32)
    (report : ExchangeReport) (hub : Hub) :
    Returns (handleErrorResponse ports deviceId retryAfterFailMs report hub) fun result =>
      FailsUnobserved hub result.accepted result.hub := by
  refine Returns.bind (stampLinkHealth_observed ports deviceId hub) fun hub₁ hstamped => ?_
  refine Returns.bind (recordRefusal_observed ports deviceId report.response hub₁)
    fun hub₂ hrefused => ?_
  refine Returns.bind (backOffIfScheduled_registry ports retryAfterFailMs deviceId
    report.sawChallenge hub₂) fun hub₃ hregistry => .pure fun _ => ?_
  rw [hregistry]
  exact hstamped.trans hrefused

/-- A request that fails, whatever way it fails, has written no report. -/
theorem executeRequestAndUpdate_observed (deviceId : String) (request : IoFrame)
    (retryAfterFailMs : UInt32) (maxTries : UInt8) (hub : Hub) :
    Returns (executeRequestAndUpdate ports deviceId request retryAfterFailMs maxTries hub)
      fun result => FailsUnobserved hub result.accepted result.hub := by
  refine .skip fun report => ?_
  cases report.outcome with
  | failed => exact requestFailed_observed ports deviceId retryAfterFailMs report hub
  | successUnconfirmed =>
    refine Returns.ite (fun _ => ?_) fun _ => ?_
    · refine .skip fun hub₁ => .pure fun hfailed => ?_
      cases hfailed
    · exact requestFailed_observed ports deviceId retryAfterFailMs report hub
  | successWithResponse =>
    refine Returns.ite (fun _ => ?_) fun _ => ?_
    · exact handleErrorResponse_observed ports deviceId retryAfterFailMs report hub
    · refine .skip fun hub₁ => .pure fun hfailed => ?_
      cases hfailed

theorem sendCommand_observed (deviceId : String) (settleAsStop : Bool) (request : IoFrame)
    (hub : Hub) :
    Returns (sendCommand ports deviceId settleAsStop request hub) fun result =>
      FailsUnobserved hub result.1 result.2 := by
  refine Returns.bind (executeRequestAndUpdate_observed ports deviceId request 0 _ hub)
    fun result hexecuted => ?_
  refine Returns.ite (fun _ => ?_) fun hfailed => ?_
  · refine .skip fun hub₁ => .pure fun hfailed => ?_
    cases hfailed
  · refine Returns.bind (scheduleBackgroundPollBackoff_registry ports deviceId _ _)
      fun hub₁ hregistry => .pure fun _ => ?_
    rw [hregistry]
    exact hexecuted (by simpa using hfailed)

theorem tryExecuteOperation_observed (deviceId : String) (spec : ExecuteSpec) (hub : Hub) :
    Returns (tryExecuteOperation ports deviceId spec hub) fun result =>
      FailsUnobserved hub result.1 result.2 := by
  have unchanged : FailsUnobserved hub false hub := fun _ => .refl hub.registry
  unfold tryExecuteOperation
  split
  · exact .pure unchanged
  · refine Returns.ite (fun _ => .pure unchanged) fun _ => ?_
    refine Returns.bind (beginStatusPollTracking_registry ports deviceId _ hub)
      fun hub₁ hregistry => ?_
    split
    · exact .pure fun _ => .of_eq hregistry
    · refine (sendCommand_observed ports deviceId _ _ hub₁).weaken fun result hsent hfailed => ?_
      rw [← hregistry]
      exact hsent hfailed

/-- A command that fails is withdrawn. -/
def FailsWithdrawn (deviceId : String) (hub : Hub) (result : Bool × Hub) : Prop :=
  result.1 = false → Withdrawn deviceId hub result.2

theorem runExecuteOperation_withdraws (deviceId : String) (spec : ExecuteSpec) (hub : Hub) :
    Returns (runExecuteOperation ports deviceId spec hub) (FailsWithdrawn deviceId hub) := by
  refine Returns.bind (tryExecuteOperation_observed ports deviceId spec hub)
    fun result htried => .pure ?_
  intro hfailed
  cases haccepted : result.1 with
  | true => simp [haccepted] at hfailed
  | false => exact withdrawn_rollback (htried haccepted)

theorem carryOut_withdraws (deviceId : String) (hub : Hub) (c : CoverOperation) :
    Returns (c.carryOut ports deviceId hub) (FailsWithdrawn deviceId hub) := by
  cases c with
  | position target =>
    refine Returns.ite (fun hnone => .pure fun _ => ⟨?_, .refl hub.registry⟩) fun _ => ?_
    · intro dev hdev
      rw [hdev] at hnone
      cases hnone
    · exact runExecuteOperation_withdraws ports deviceId _ hub
  | tilt tiltPercent => exact runExecuteOperation_withdraws ports deviceId _ hub
  | positionAndTilt target tiltPercent =>
    exact runExecuteOperation_withdraws ports deviceId _ hub
  | command cmd => exact runExecuteOperation_withdraws ports deviceId _ hub

/-- A cover's operation is dispatched as the command it asks for. -/
theorem dispatchOperation_cover {op : PendingOperation} {c : CoverOperation}
    (hop : CoverOperation.ofPending op = some c) (hub : Hub) :
    dispatchOperation ports op hub = ignoreResult (c.carryOut ports op.deviceId hub) := by
  unfold CoverOperation.ofPending at hop
  unfold dispatchOperation
  cases htype : op.type with
  | setPosition => simp only [htype, Option.some.injEq] at hop; subst hop; rfl
  | setTilt => simp only [htype, Option.some.injEq] at hop; subst hop; rfl
  | setPositionAndTilt => simp only [htype, Option.some.injEq] at hop; subst hop; rfl
  | deviceCommand => simp only [htype, Option.some.injEq] at hop; subst hop; rfl
  | _ => simp [htype] at hop

/-- In every state of the hub, and whatever the surroundings answer: a cover command that its
queue method rejects is withdrawn at once, and is queued otherwise; one that is dispatched and
reported as failed is withdrawn; and the optimistic API writes no report. -/
theorem predictions_withdrawn (hub : Hub) :
    (∀ deviceId (c : CoverOperation),
      (c.rejects deviceId hub = true → Withdrawn deviceId hub (c.queue deviceId hub)) ∧
      (c.rejects deviceId hub = false →
        c.queue deviceId hub = { hub with opQueue := c.enqueue deviceId hub.opQueue })) ∧
    (∀ op c, CoverOperation.ofPending op = some c →
      dispatchOperation ports op hub = ignoreResult (c.carryOut ports op.deviceId hub) ∧
      ∀ w, (c.carryOut ports op.deviceId hub w).1.1 = false →
        Withdrawn op.deviceId hub (c.carryOut ports op.deviceId hub w).1.2) ∧
    (∀ id, (∀ target, SameObserved hub.registry (hub.registry.applyOptimisticTarget id target).1) ∧
      SameObserved hub.registry (hub.registry.applyOptimisticStop id).1 ∧
      (∀ tilt, SameObserved hub.registry (hub.registry.applyOptimisticTilt id tilt).1) ∧
      SameObserved hub.registry (hub.registry.rollbackOptimistic id)) :=
  ⟨fun _ _ => ⟨queue_rejected, queue_taken⟩,
    fun op c hop => ⟨dispatchOperation_cover ports hop hub,
      fun w => carryOut_withdraws ports op.deviceId hub c w⟩,
    sameObserved_optimistic hub.registry⟩

end

private def shutterId : String := "010203"

/-- A shutter that is predicted to open. -/
private def opening : Hub where
  nodeId := ⟨0xAA, 0x00, 0x01⟩
  registry := (((∅ : DeviceRegistry).add shutterId { type := .rollerShutter }).applyOptimisticTarget
    shutterId (percent 0)).1

/-- A shutter without slats rejects a tilt; a movement that nothing answers fails. -/
theorem opening_withdrawn :
    Withdrawn shutterId opening (CoverOperation.queue shutterId opening (.tilt 50)) ∧
      Withdrawn shutterId opening
        (CoverOperation.carryOut HubLoop.surroundingPorts shutterId opening (.position 0)
          ⟨⟨0, []⟩, []⟩).1.2 :=
  ⟨((predictions_withdrawn HubLoop.surroundingPorts opening).1 shutterId (.tilt 50)).1
      (by decide),
    ((predictions_withdrawn HubLoop.surroundingPorts opening).2.1
      { type := .setPosition, deviceId := shutterId, position := 0 } (.position 0) rfl).2
      ⟨⟨0, []⟩, []⟩ (by decide)⟩

end HomeIoControl.WithdrawnPredictions
