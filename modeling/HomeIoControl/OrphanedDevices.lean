import HomeIoControl.CarriedOperations
import HomeIoControl.TrackedDevices

/-!
# When a tracked device is orphaned

A tracked device hears no more of its status when its last source goes and nothing comes of it:
a pairing request flushes its poll, its poll is answered without a status, its command is turned
away when it is carried out, or pairing makes a device of it that nobody polls. While no event
does so, every tracked device has a source in every state of a run.
-/

namespace HomeIoControl.OrphanedDevices

open MachineRuns TracedPrograms OrderedMaps ProtocolFrames ProtocolCommands ProtocolCodecs
  DeviceModels DeviceRegistries PendingOperations StatusPolls PollEntries PairingResponder
  RadioLinks Exchanges PairingEngine HubStatus HubOperations HubLoop HubFrames CarriedOperations
  StatusSources TrackedDevices

/-- No registered device that answers status requests, is tracked and has not effectively stopped
is without a source of its next status. -/
def NoOrphans (s : HubState) : Prop :=
  ∀ id dev, s.hub.registry.get id = some dev → knownDeviceSupportsStatusRequests dev = true →
    s.hub.pollPolicy.isTrackingActive id (clockAt s.time) = true →
    dev.effectiveIsStopped = false → HasSource s.hub s.hub.opQueue.ops id

/-- The guards that an operation meets when it is carried out. -/
def passesGuards (op : PendingOperation) (dev : IoDevice) : Bool :=
  match op.type with
  | .setPosition => knownDeviceAcceptsExecutePosition op.position dev
  | .setTilt => knownDeviceAcceptsExecuteTilt dev
  | .setPositionAndTilt => knownDeviceAcceptsExecuteTilt dev
  | .deviceCommand => knownDeviceMatchesEntityClass .cover dev
  | .setLightState =>
    knownDeviceMatchesEntityClass .light dev && knownDeviceAcceptsExecutePosition op.position dev
  | .setLockState =>
    let locked : Bool := op.position = binaryEntityOffPosition
    knownDeviceMatchesEntityClass .lock dev && knownDeviceAcceptsExecutePosition
      (if locked then binaryEntityOffPosition else binaryEntityOnPosition) dev
  | .setSwitchState =>
    let on : Bool := op.position = binaryEntityOnPosition
    knownDeviceMatchesEntityClass .switch dev && knownDeviceAcceptsExecutePosition
      (if on then binaryEntityOnPosition else binaryEntityOffPosition) dev
  | _ => true

/-- A tracked device that has no source left. -/
def OutOfSources (hub : Hub) (time : ℕ) (id : String) : Prop :=
  pollTracked hub id time = true ∧ ¬ HasSource hub hub.opQueue.ops id

instance (hub : Hub) (time : ℕ) (id : String) : Decidable (OutOfSources hub time id) :=
  inferInstanceAs (Decidable (_ ∧ _))

/-- A device that pairing registers does not become one to poll without a poll: it was one, or was
not registered, or has a source. -/
def PairingSpares (hub : Hub) (time : ℕ) (frame : IoFrame) : Prop :=
  let id := (decodeDiscoveryResponse frame).deviceId
  pollTracked { hub with registry := (registerPaired hub.registry (some frame)).2 } id time =
    true → (hub.registry.get id).all knownDeviceSupportsStatusRequests = true ∨
      HasSource hub hub.opQueue.ops id

instance (hub : Hub) (time : ℕ) (frame : IoFrame) : Decidable (PairingSpares hub time frame) :=
  inferInstanceAs (Decidable (_ → _))

/-- An operation, taken from the queue, costs no device its last source: the poll of a device that
is out of sources is answered, its command is accepted, and pairing spares it. -/
structure Spares (hub : Hub) (s : Surroundings) (time : ℕ) (op : PendingOperation) : Prop where
  answered : op.type = .requestStatus → OutOfSources hub time op.deviceId →
    s.next.2.next.1.outcome = .successWithResponse → answersPoll s.next.2.next.1.reply = true
  accepted : OutOfSources hub time op.deviceId →
    ∀ dev ∈ hub.registry.get op.deviceId, passesGuards op dev = true
  paired : op.type = .discoverAndPair → ∀ frame ∈ s.next.1.paired, PairingSpares hub time frame

instance (hub : Hub) (s : Surroundings) (time : ℕ) (op : PendingOperation) :
    Decidable (Spares hub s time op) :=
  decidable_of_iff
    ((op.type = .requestStatus → OutOfSources hub time op.deviceId →
        s.next.2.next.1.outcome = .successWithResponse →
          answersPoll s.next.2.next.1.reply = true) ∧
      (OutOfSources hub time op.deviceId →
        ∀ dev ∈ hub.registry.get op.deviceId, passesGuards op dev = true) ∧
      (op.type = .discoverAndPair →
        ∀ frame ∈ s.next.1.paired, PairingSpares hub time frame))
    ⟨fun h => ⟨h.1, h.2.1, h.2.2⟩, fun h => ⟨h.answered, h.accepted, h.paired⟩⟩

/-- The flush of the queued polls leaves every tracked device another source. -/
def FlushSpares (hub : Hub) (time : ℕ) : Prop :=
  hub.opQueue.ops.any (fun op => op.type = .discoverAndPair) = false →
    ∀ op ∈ hub.opQueue.ops, op.type = .requestStatus →
      pollTracked hub op.deviceId time = true →
      HasSource hub (hub.opQueue.ops.filter fun op => !op.isBackground) op.deviceId

instance (hub : Hub) (time : ℕ) : Decidable (FlushSpares hub time) :=
  inferInstanceAs (Decidable (_ → _))

/-- The world behind the gate of a pass. -/
def afterGate (s : HubState) (e : HubEvent) : World Surroundings HubReport :=
  (deferBackgroundPoll surroundingPorts (atGate s e).1 (atGate s e).2).2

/-- The event costs no tracked device its last source. -/
def SparesSources (s : HubState) (e : HubEvent) : Prop :=
  (∀ op ∈ letThrough s e, Spares { (atGate s e).1 with opQueue := (atGate s e).1.opQueue.pop.1 }
    (afterGate s e).env (e.surroundings s).env.endTime op) ∧
  (asksPairing e.action = true → FlushSpares s.hub (e.surroundings s).env.endTime)

instance (s : HubState) (e : HubEvent) : Decidable (SparesSources s e) :=
  inferInstanceAs (Decidable (_ ∧ _))

section

variable {maxInterval endTime : ℕ} {hub : Hub}

private theorem ignoreResult_keeps {σ ε : Type} {inv : World σ ε → Prop}
    {p : Prog σ ε (Bool × Hub)}
    {post : Hub → Prop} (h : Keeps inv p fun result => post result.2) :
    Keeps inv (ignoreResult p) post :=
  h.bind fun _ h' => Keeps.pure h'

/-- The hub's own transmission concerns no device. -/
private theorem executeOneway_attended (h : Attended maxInterval endTime none hub)
    (op : PendingOperation) :
    Keeps (EndsAt endTime) (executeOneway surroundingPorts op hub)
      (Attended maxInterval endTime none) := by
  have hsend : Keeps (EndsAt endTime) (surroundingPorts.sendOneWay op) fun _ => True :=
    (report_ends _ endTime).skip fun _ => consult_keeps EndsAt.next _
  refine hsend.skip fun _ => (portsKeep_ends endTime).millis.skip fun now => Keeps.pure ?_
  exact attended_oneWay h _

/-- Pairing that spares its device leaves every tracked device its source. -/
private theorem discoverAndPair_attended (h : Attended maxInterval endTime none hub)
    {w : World Surroundings HubReport} (hw : EndsAt endTime w)
    (paired : ∀ frame ∈ w.env.next.1.paired, PairingSpares hub endTime frame) :
    Attended maxInterval endTime none
        (ignoreResult (HubOperations.discoverAndPair surroundingPorts hub) w).1 ∧
      EndsAt endTime (ignoreResult (HubOperations.discoverAndPair surroundingPorts hub) w).2 := by
  by_cases hinit : hub.initialized = false
  · unfold HubOperations.discoverAndPair
    rw [if_pos hinit]
    exact ⟨h, hw⟩
  have hends : w.env.next.2.endTime = endTime := w.env.next_endTime.trans hw
  have hrun : ignoreResult (HubOperations.discoverAndPair surroundingPorts hub) w =
      ({ hub with registry := (registerPaired hub.registry w.env.next.1.paired).2 },
        ⟨w.env.next.2, w.log ++ [⟨w.env.time, .pairing⟩]⟩) := by
    unfold HubOperations.discoverAndPair
    rw [if_neg hinit]
    rfl
  rw [hrun]
  refine ⟨?_, hends⟩
  cases hpaired : w.env.next.1.paired with
  | none => exact h
  | some frame =>
    have hspells : nodeIdToString (decodeDiscoveryResponse frame).device.nodeId =
        (decodeDiscoveryResponse frame).deviceId := by
      rw [decodeDiscoveryResponse_nodeId]
      rfl
    exact h.register (decodeDiscoveryResponse frame).spelled hspells (paired frame hpaired)

/-- The last part of a pass. -/
theorem pollDue_attended (h : Attended maxInterval endTime none hub) :
    Keeps (EndsAt endTime) (pollDue surroundingPorts hub)
      (Attended maxInterval endTime none) :=
  (portsKeep_ends endTime).millis.skip fun now => Keeps.pure (queueDuePoll_attended h now)

/-- An operation that is no source takes none with it. -/
theorem attended_of_silent {op : PendingOperation}
    (h : ∀ owed, (∀ id, IsSource id op → owed = some id) → Attended maxInterval endTime owed hub)
    (hsilent : op.type ≠ .requestStatus ∧ (addressesADevice op.type = false ∨
      isBackgroundOp op.type = true ∨ op.type = .discoverAndPair)) :
    Attended maxInterval endTime none hub := by
  obtain ⟨hstatus, hkind⟩ := hsilent
  refine h none fun id hsource => ?_
  rcases hsource.2 with hpoll | ⟨haddresses, hcontrol, hpairing⟩
  · exact absurd hpoll hstatus
  · rcases hkind with hother | hbackground | hpair
    · rw [hother] at haddresses
      cases haddresses
    · exact absurd (hbackground.symm.trans hcontrol) (by decide)
    · exact absurd hpair hpairing

variable (early : BeforeWrap maxInterval endTime)

include early

/-- An operation that spares its device leaves every tracked device a source, though it has left
the queue itself. -/
theorem dispatchOperation_attended {op : PendingOperation}
    (h : ∀ owed, (∀ id, IsSource id op → owed = some id) → Attended maxInterval endTime owed hub)
    (initialized : hub.initialized = true) {w : World Surroundings HubReport}
    (hw : EndsAt endTime w) (spares : Spares hub w.env endTime op) :
    Attended maxInterval endTime none (dispatchOperation surroundingPorts op hub w).1 ∧
      EndsAt endTime (dispatchOperation surroundingPorts op hub w).2 := by
  have howed : Attended maxInterval endTime (some op.deviceId) hub :=
    h _ fun id hsource => congrArg some hsource.1
  have hnone : ¬ OutOfSources hub endTime op.deviceId → Attended maxInterval endTime none hub :=
    fun hspare => howed.pay fun htracked => Classical.byContradiction fun hgone =>
      hspare ⟨htracked, hgone⟩
  have hsilent := attended_of_silent h
  have hgo : ∀ accepts : IoDevice → Bool, passesGuards op = accepts →
      Attended maxInterval endTime none hub ∨ hub.initialized = true ∧
        ∀ dev, hub.registry.get op.deviceId = some dev → accepts dev = true := by
    rintro _ rfl
    by_cases hout : OutOfSources hub endTime op.deviceId
    · exact .inr ⟨initialized, spares.accepted hout⟩
    · exact .inl (hnone hout)
  have hguards : ∀ type, op.type = type → passesGuards op = passesGuards { op with type } := by
    rintro _ rfl
    rfl
  unfold dispatchOperation
  cases htype : op.type with
  | setPosition =>
    exact ignoreResult_keeps (setDevicePosition_pays early howed _ (hgo _ (hguards _ htype))) w hw
  | setTilt =>
    exact ignoreResult_keeps (runExecuteOperation_pays early howed (tiltSpec op.position)
      (hgo _ (hguards _ htype))) w hw
  | setPositionAndTilt =>
    exact ignoreResult_keeps (runExecuteOperation_pays early howed
      (positionAndTiltSpec op.position op.tilt) (hgo _ (hguards _ htype))) w hw
  | deviceCommand =>
    exact ignoreResult_keeps (runExecuteOperation_pays early howed (commandSpec op.command)
      (hgo _ (hguards _ htype))) w hw
  | setLightState =>
    exact ignoreResult_keeps (setEntityPosition_pays early howed .light op.position
      (hgo _ (hguards _ htype))) w hw
  | setLockState =>
    exact ignoreResult_keeps (setEntityPosition_pays early howed .lock _
      (hgo _ (hguards _ htype))) w hw
  | setSwitchState =>
    exact ignoreResult_keeps (setEntityPosition_pays early howed .switch _
      (hgo _ (hguards _ htype))) w hw
  | onewayCommand => exact executeOneway_attended (hsilent (by rw [htype]; decide)) op w hw
  | onewayPosition => exact executeOneway_attended (hsilent (by rw [htype]; decide)) op w hw
  | onewayEnroll => exact executeOneway_attended (hsilent (by rw [htype]; decide)) op w hw
  | onewayUnenroll => exact executeOneway_attended (hsilent (by rw [htype]; decide)) op w hw
  | requestStatus =>
    by_cases hout : OutOfSources hub endTime op.deviceId
    · exact requestDeviceStatus_pays early howed initialized hw (spares.answered htype hout)
    · exact ignoreResult_keeps (requestDeviceStatus_attended early (hnone hout) op.deviceId) w hw
  | requestName =>
    exact ignoreResult_keeps (requestDeviceName_attended early
      (hsilent (by rw [htype]; decide)) op.deviceId) w hw
  | discoverAndPair =>
    exact discoverAndPair_attended (hsilent (by rw [htype]; decide)) hw (spares.paired htype)

/-- The second part of a pass, when the operation that it takes from the queue spares its
device. -/
theorem dispatch_attended (h : Attended maxInterval endTime none hub)
    (initialized : hub.initialized = true) {w : World Surroundings HubReport}
    (hw : EndsAt endTime w)
    (spares : ∀ op, (deferBackgroundPoll surroundingPorts hub w).1 = false →
      hub.opQueue.pop.2 = some op → Spares { hub with opQueue := hub.opQueue.pop.1 }
        (deferBackgroundPoll surroundingPorts hub w).2.env endTime op) :
    Attended maxInterval endTime none (dispatch surroundingPorts hub w).1 ∧
      EndsAt endTime (dispatch surroundingPorts hub w).2 := by
  obtain ⟨-, hgate⟩ := deferBackgroundPoll_keeps (portsKeep_ends endTime) hub w hw
  unfold dispatch
  rw [bind_apply]
  cases hdeferred : (deferBackgroundPoll surroundingPorts hub w).1 with
  | true => exact ⟨h, hgate⟩
  | false =>
    rw [if_neg Bool.false_ne_true]
    unfold processPendingOperation
    cases hpop : hub.opQueue.pop with
    | mk opQueue front =>
      cases front with
      | none => exact ⟨h, hgate⟩
      | some op =>
        have hfront : hub.opQueue.pop.2 = some op := congrArg Prod.snd hpop
        have hspares : Spares { hub with opQueue := opQueue }
            (deferBackgroundPoll surroundingPorts hub w).2.env endTime op := by
          have hspared := spares op hdeferred hfront
          rwa [hpop] at hspared
        have htaken : ∀ owed, (∀ id, IsSource id op → owed = some id) →
            Attended maxInterval endTime owed { hub with opQueue := opQueue } := by
          intro owed howes
          have htaken := h.popOperation hfront howes
          rwa [hpop] at htaken
        exact dispatchOperation_attended early htaken initialized hgate hspares

end

section

variable {maxInterval time : ℕ} {hub : Hub}

/-- A flush that spares the tracked devices. -/
theorem queueDiscoverAndPair_attended (h : Attended maxInterval time none hub)
    (spares : FlushSpares hub time) :
    Attended maxInterval time none (queueDiscoverAndPair hub) := by
  unfold queueDiscoverAndPair OperationQueue.enqueueDiscoverAndPair
  split_ifs with hqueued
  · exact h
  · refine h.requeue fun id _ htracked hsource => ?_
    rcases hsource with hnext | hpending | ⟨op, hop, hfor⟩
    · exact .inl hnext
    · exact .inr (.inl hpending)
    · have hkept : HasSource hub (hub.opQueue.ops.filter fun op => !op.isBackground) id := by
        rcases hfor.2 with hpoll | ⟨-, hcontrol, -⟩
        · have hspared := spares (by simpa using hqueued) op hop hpoll
          rw [hfor.1] at hspared
          exact hspared htracked
        · refine .inr (.inr ⟨op, List.mem_filter.mpr ⟨hop, ?_⟩, hfor⟩)
          rw [hcontrol]
          rfl
      refine hkept.imp_right (Or.imp_right ?_)
      rintro ⟨other, hother, hforOther⟩
      exact ⟨other, List.mem_cons_of_mem _ hother, hforOther⟩

theorem obey_attended (h : Attended maxInterval time none hub) (cmd : EntityCommand)
    (spares : asksPairing (.command cmd) = true → FlushSpares hub time) :
    Attended maxInterval time none (obey hub cmd) := by
  have htarget := fun id target => h.learn (Learns.applyOptimisticTarget hub.registry id target)
  cases cmd with
  | coverStop deviceId =>
    exact attended_queueDeviceCommand (h.learn (Learns.applyOptimisticStop _ _)) deviceId .stop
  | coverPosition deviceId position =>
    exact attended_queueMovement (htarget _ _) _ deviceId
      fun q => enqueueSetPosition_sources q deviceId position
  | coverTilt deviceId tiltPercent =>
    exact attended_queueMovement (h.learn (Learns.applyOptimisticTilt _ _ _)) _ deviceId
      fun q => enqueueSetTilt_sources q deviceId tiltPercent
  | coverPositionAndTilt deviceId position tiltPercent =>
    have hboth := (htarget deviceId (percent position.toNat)).learn
      (Learns.applyOptimisticTilt _ deviceId (percent tiltPercent.toNat))
    dsimp only [obey, queueSetDevicePositionAndTilt]
    exact attended_queueMovement hboth _ deviceId
      fun q => pushControl_sources q rfl fun _ => nofun
  | device deviceId cmd => exact attended_queueDeviceCommand h deviceId cmd
  | lightPosition deviceId position =>
    dsimp only [obey, queueSetLightPosition]
    exact attended_queueGuarded h _ deviceId fun q => pushControl_sources q rfl fun _ => nofun
  | lightState deviceId on =>
    dsimp only [obey, queueSetLightState, queueSetLightPosition]
    exact attended_queueGuarded h _ deviceId fun q => pushControl_sources q rfl fun _ => nofun
  | lockState deviceId locked =>
    dsimp only [obey, queueSetLockState]
    exact attended_queueGuarded h _ deviceId fun q => pushControl_sources q rfl fun _ => nofun
  | switchState deviceId on =>
    dsimp only [obey, queueSetSwitchState]
    exact attended_queueGuarded h _ deviceId fun q => pushControl_sources q rfl fun _ => nofun
  | requestStatus deviceId =>
    exact attended_queueGuarded h _ deviceId fun q => enqueueBackground_sources q _ deviceId _
  | requestName deviceId =>
    dsimp only [obey, queueRequestDeviceName]
    split_ifs
    · exact h
    · exact attended_enqueue h (enqueueBackground_sources _ _ deviceId _)
  | onewayCommand controllerId cmd =>
    exact attended_enqueue h (pushControl_sources _ rfl nofun)
  | onewayPosition controllerId position =>
    exact attended_enqueue h (pushControl_sources _ rfl nofun)
  | onewayEnroll controllerId => exact attended_enqueue h (pushControl_sources _ rfl nofun)
  | onewayUnenroll controllerId => exact attended_enqueue h (pushControl_sources _ rfl nofun)
  | discoverAndPair => exact queueDiscoverAndPair_attended h (spares rfl)
  | armKeyExtraction throwawayId => exact ⟨h.interval, h.registered, h.spelled, h.source⟩
  | disarmKeyExtraction => exact ⟨h.interval, h.registered, h.spelled, h.source⟩
  | armOnewayKeyAdoption armed => exact attended_oneWay h _

theorem remotePollFires_attended (h : Attended maxInterval time none hub) (deviceId : String) :
    Attended maxInterval time none (remotePollFires deviceId hub) := by
  unfold remotePollFires
  split_ifs
  · exact h
  · exact queueRequestDeviceStatus_pays (h.eraseTimeout deviceId)

end

/-- Every device that is tracked now has a source. -/
def AttendedNow (maxInterval : ℕ) (s : HubState) : Prop := Attended maxInterval s.time none s.hub

/-- One event that costs no tracked device its last source leaves every tracked one a source. -/
theorem attendedNow_step {maxInterval : ℕ} {s : HubState} {e : HubEvent}
    (h : AttendedNow maxInterval s) (early : BeforeWrap maxInterval (hubStep s e).time)
    (spares : SparesSources s e) : AttendedNow maxInterval (hubStep s e) := by
  have hwrap : (hubStep s e).time < clockPeriod := by
    unfold BeforeWrap at early
    omega
  have hstart := Attended.later h (time_le_hubStep s e) hwrap
  unfold AttendedNow
  obtain ⟨hdispatch, hflush⟩ := spares
  cases haction : e.action with
  | command cmd =>
    rw [haction] at hflush
    have hobey := obey_attended hstart cmd hflush
    unfold hubStep at hobey ⊢
    rw [haction]
    exact hobey
  | remotePollFires deviceId =>
    have hfires := remotePollFires_attended hstart deviceId
    unfold hubStep at hfires ⊢
    rw [haction]
    exact hfires
  | pass =>
    by_cases hrunning : Running s.hub
    · obtain ⟨hreceived, hends⟩ := receive_attended early hstart (e.surroundings s) rfl
      have hinit : (atGate s e).1.initialized = true := by
        have hheard := receive_afterHearing s.hub (e.surroundings s)
        rw [afterHearing_eq] at hheard
        exact hheard.initialized.trans hrunning.1
      obtain ⟨hcarried, hends'⟩ := dispatch_attended early hreceived hinit hends
        fun op hopen hfront => hdispatch op (by
          rw [letThrough, if_pos ⟨by rw [haction]; rfl, hrunning, hopen⟩]
          exact hfront)
      obtain ⟨hpolled, -⟩ := pollDue_attended hcarried _ hends'
      unfold hubStep
      rw [haction]
      dsimp only [act]
      rw [loop_running _ hrunning]
      exact hpolled
    · unfold hubStep at hstart ⊢
      rw [haction]
      dsimp only [act]
      rw [loop_idle _ hrunning]
      exact hstart

/-- Just booted: no device is tracked, intervals are bounded, and identifiers spell addresses. -/
structure Booted (maxInterval : ℕ) (hub : Hub) : Prop where
  interval : ∀ id, (hub.pollPolicy.getInterval id).toNat ≤ maxInterval
  untracked : ∀ id, hub.pollPolicy.getPollDeadline id = 0
  spelled : ∀ id dev, hub.registry.get id = some dev → nodeIdToString dev.nodeId = id

theorem attendedNow_booted {maxInterval : ℕ} {hub : Hub} (boot : Booted maxInterval hub)
    (time : ℕ) : AttendedNow maxInterval ⟨hub, time⟩ where
  interval id := by
    rw [← getInterval_eq]
    exact boot.interval id
  registered id hdeadline := by
    rw [← getPollDeadline_eq] at hdeadline
    exact absurd (boot.untracked id) hdeadline
  spelled := boot.spelled
  source id _ htracked := by
    obtain ⟨-, hactive⟩ := Bool.and_eq_true_iff.mp htracked
    have huntracked := boot.untracked id
    rw [getPollDeadline_eq] at huntracked
    rw [isTrackingActive_eq, PollTracking.isActive, huntracked] at hactive
    cases hactive

/-- In a run from boot, away from the clock's wrap, no tracked device is orphaned while no event
costs a tracked device its last source. -/
theorem no_device_is_orphaned_while_last_sources_are_spared (maxInterval : ℕ) (hub : Hub)
    (time : ℕ) (es : List HubEvent) (boot : Booted maxInterval hub)
    (early : hubMachine.Along (fun s e => BeforeWrap maxInterval (hubStep s e).time)
      ⟨hub, time⟩ es)
    (spares : hubMachine.Along SparesSources ⟨hub, time⟩ es) :
    NoOrphans (hubMachine.run ⟨hub, time⟩ es) := by
  have hkeep : ∀ s e, AttendedNow maxInterval s →
      BeforeWrap maxInterval (hubStep s e).time ∧ SparesSources s e →
      AttendedNow maxInterval (hubMachine.step s e).1 :=
    fun _ _ h hevent => attendedNow_step h hevent.1 hevent.2
  have hattended := hubMachine.run_keeps_along hkeep (attendedNow_booted boot time)
    (early.and hubMachine spares)
  intro id dev hdev hsupports hactive _
  refine hattended.source id nofun (Bool.and_eq_true_iff.mpr ⟨?_, hactive⟩)
  rw [hdev]
  exact hsupports

/-- A roller shutter, registered and never heard of. -/
def shutterHub : Hub where
  nodeId := ⟨0, 0, 1⟩
  registry := (∅ : DeviceRegistry).put "A1B2C3"
    { nodeId := ⟨0xA1, 0xB2, 0xC3⟩, type := .rollerShutter } (by decide)

/-- The shutter is told to move, takes the command, and is polled when its poll is due: the poll
gets this payload in a status reply. -/
def shutterMoves (payload : List UInt8) (h : payload.length ≤ frameMaxDataSize) :
    List HubEvent :=
  [{ wait := 1000, action := .command (.coverPosition "A1B2C3" 0) },
   { action := .pass
     answers := List.replicate 16 { elapsed := 10, outcome := .successUnconfirmed } },
   { wait := 4000, action := .pass },
   { action := .pass
     answers := List.replicate 16
       { elapsed := 10
         outcome := .successWithResponse
         reply := { initFrame true false false false with
           cmd := cmdPrivateResp, data := payload, data_le := h } } }]

theorem shutterHub_booted : Booted 0 shutterHub where
  interval _ := Nat.le_refl 0
  untracked _ := rfl
  spelled id dev hdev := by
    unfold shutterHub at hdev
    by_cases hid : id = "A1B2C3"
    · rw [hid, DeviceRegistry.get_put_self] at hdev
      rw [← Option.some.inj hdev, hid]
      decide
    · rw [DeviceRegistry.get_put_of_ne _ hid] at hdev
      cases hdev

/-- The shutter still moves after the poll, and is polled again. -/
theorem moving_shutter_is_not_orphaned :
    NoOrphans (hubMachine.run ⟨shutterHub, 0⟩ (shutterMoves [0, 0, 0, 0, 100, 0] (by decide))) :=
  no_device_is_orphaned_while_last_sources_are_spared 0 shutterHub 0
    (shutterMoves [0, 0, 0, 0, 100, 0] (by decide)) shutterHub_booted (by decide)
    (by decide)

/-- A status reply that is too short leaves the moving shutter without a source of its next
status. -/
theorem short_reply_orphans_moving_shutter :
    ¬ ∀ (maxInterval : ℕ) (hub : Hub) (time : ℕ) (es : List HubEvent), Booted maxInterval hub →
      hubMachine.Along (fun s e => BeforeWrap maxInterval (hubStep s e).time) ⟨hub, time⟩ es →
      NoOrphans (hubMachine.run ⟨hub, time⟩ es) := by
  intro h
  let run := hubMachine.run ⟨shutterHub, 0⟩ (shutterMoves [0, 0, 0] (by decide))
  have hkept : NoOrphans run := h 0 shutterHub 0 _ shutterHub_booted (by decide)
  have hmoving : ∃ dev ∈ run.hub.registry.get "A1B2C3",
      knownDeviceSupportsStatusRequests dev = true ∧ dev.effectiveIsStopped = false := by
    decide
  obtain ⟨dev, hdev, hsupports, hmoves⟩ := hmoving
  have hgone : ¬ HasSource run.hub run.hub.opQueue.ops "A1B2C3" := by decide
  exact hgone (hkept "A1B2C3" dev hdev hsupports (by decide) hmoves)

end HomeIoControl.OrphanedDevices
