import HomeIoControl.StatusSources

/-!
# How the hub attends to tracked devices

Receiving, queueing and carrying out operations leave every tracked device a source of its next
status, as long as the clock is away from its wrap. What an operation owes its device is paid by
the poll it arms, unless its reply says nothing of a status or its guard turns it away.
-/

namespace HomeIoControl.TrackedDevices

open QueueEdits TracedPrograms OrderedMaps ProtocolFrames ProtocolCommands ProtocolCodecs
  DeviceModels DeviceRegistries DeviceRequests PendingOperations StatusPolls PollEntries
  PairingResponder RadioLinks Exchanges PairingEngine HubStatus HubOperations HubLoop HubRules
  HubFrames StatusSources

/-- Every device with a source in the first queue has one in the second. -/
def SourcesStay (q q' : OperationQueue) : Prop :=
  ∀ id, (∃ op ∈ q.ops, IsSource id op) → ∃ op ∈ q'.ops, IsSource id op

/-- A control operation drops the poll of its device, and is a source of it. -/
theorem pushControl_sources (q : OperationQueue) {op : PendingOperation}
    (control : op.isBackground = false)
    (h : addressesADevice op.type = true → op.type ≠ .discoverAndPair) :
    SourcesStay q (q.pushControl op control) := by
  rintro id ⟨x, hx, hsource⟩
  by_cases haddress : addressesADevice op.type = true ∧
      x.isFor .requestStatus op.deviceId = true
  · have hid : op.deviceId = id :=
      (PendingOperation.isFor_iff.mp haddress.2).2.symm.trans hsource.1
    exact ⟨op, mem_insertBefore.mpr (.inl rfl), hid,
      .inr ⟨haddress.1, control, h haddress.1⟩⟩
  · refine ⟨x, mem_insertBefore.mpr (.inr ?_), hsource⟩
    unfold OperationQueue.dropStalePoll
    split_ifs with haddresses
    · refine List.mem_filter.mpr ⟨hx, ?_⟩
      have hother : x.isFor .requestStatus op.deviceId = false :=
        Bool.eq_false_iff.mpr fun hfor => haddress ⟨haddresses, hfor⟩
      rw [hother]
      rfl
    · exact hx

/-- A combined operation is still a source of its device. -/
theorem coalesce_sources {q q' : OperationQueue} {type : PendingOperationType}
    {deviceId : String} {combine : PendingOperation → PendingOperation}
    {control : isBackgroundOp type = false}
    {combined : ∀ op, (combine op).isBackground = false}
    (h : q.coalesce type deviceId combine control combined = some q')
    (keepsDevice : ∀ op, (combine op).deviceId = op.deviceId)
    (combinedType : ∀ op, (combine op).type = .setPositionAndTilt) : SourcesStay q q' := by
  have hops := q.coalesce_ops type deviceId combine control combined
  rw [h, Option.map_some] at hops
  obtain ⟨pre, edited, -, hq, hq'⟩ := editFirst_eq_some hops.symm
  rintro id ⟨x, hx, hsource⟩
  rw [hq] at hx
  rw [hq']
  rcases List.mem_append.mp hx with hpre | hrest
  · exact ⟨x, List.mem_append_left _ hpre, hsource⟩
  · rcases List.mem_cons.mp hrest with hedited | hbehind
    · rw [hedited] at hsource
      refine ⟨combine edited, List.mem_append_right _ List.mem_cons_self,
        (keepsDevice edited).trans hsource.1, .inr ⟨?_, combined edited, ?_⟩⟩
      · rw [combinedType]
        rfl
      · rw [combinedType]
        exact nofun
    · exact ⟨x, List.mem_append_right _ (List.mem_cons_of_mem _ hbehind), hsource⟩

theorem enqueueSetPosition_sources (q : OperationQueue) (deviceId : String) (position : UInt8) :
    SourcesStay q (q.enqueueSetPosition deviceId position).1 := by
  unfold OperationQueue.enqueueSetPosition
  split
  · next h => exact coalesce_sources h (fun _ => rfl) fun _ => rfl
  · exact pushControl_sources q rfl fun _ => nofun

theorem enqueueSetTilt_sources (q : OperationQueue) (deviceId : String) (tiltPercent : UInt8) :
    SourcesStay q (q.enqueueSetTilt deviceId tiltPercent).1 := by
  unfold OperationQueue.enqueueSetTilt
  split
  · next h => exact coalesce_sources h (fun _ => rfl) fun _ => rfl
  · exact pushControl_sources q rfl fun _ => nofun

theorem enqueueBackground_sources (q : OperationQueue) (type : PendingOperationType)
    (deviceId : String) (background : isBackgroundOp type = true) :
    SourcesStay q (q.enqueueBackground type deviceId background).1 := by
  unfold OperationQueue.enqueueBackground
  split_ifs
  · exact fun _ h => h
  · rintro id ⟨x, hx, hsource⟩
    exact ⟨x, List.mem_append_left _ hx, hsource⟩

theorem enqueueRequestStatus_mem (q : OperationQueue) (deviceId : String) :
    ∃ op ∈ (q.enqueueRequestStatus deviceId).1.ops, IsSource deviceId op := by
  unfold OperationQueue.enqueueRequestStatus OperationQueue.enqueueBackground
  split_ifs with h
  · obtain ⟨x, hx, hfor⟩ := List.any_eq_true.mp h
    obtain ⟨htype, hid⟩ := PendingOperation.isFor_iff.mp hfor
    exact ⟨x, hx, hid, .inl htype⟩
  · exact ⟨_, List.mem_append_right _ (List.mem_singleton.mpr rfl), rfl, .inl rfl⟩

section

variable {maxInterval time : ℕ} {owed : Option String} {hub : Hub}

theorem attended_enqueue (h : Attended maxInterval time owed hub) {q : OperationQueue}
    (stay : SourcesStay hub.opQueue q) :
    Attended maxInterval time owed { hub with opQueue := q } :=
  h.requeue fun id _ _ hsource => hsource.imp_right (Or.imp_right (stay id))

theorem attended_queueGuarded (h : Attended maxInterval time owed hub)
    (accepts : IoDevice → Bool) (deviceId : String) {enqueue : OperationQueue → OperationQueue}
    (stay : ∀ q, SourcesStay q (enqueue q)) :
    Attended maxInterval time owed (queueGuarded accepts deviceId enqueue hub) := by
  unfold queueGuarded
  split_ifs
  · exact h
  · exact attended_enqueue h (stay _)

theorem attended_queueMovement (h : Attended maxInterval time owed hub)
    (accepts : IoDevice → Bool) (deviceId : String) {enqueue : OperationQueue → OperationQueue}
    (stay : ∀ q, SourcesStay q (enqueue q)) :
    Attended maxInterval time owed (queueMovement accepts deviceId enqueue hub) := by
  unfold queueMovement
  split_ifs
  · exact h.learn (Learns.rollbackOptimistic _ deviceId)
  · exact attended_enqueue h (stay _)

theorem attended_queueDeviceCommand (h : Attended maxInterval time owed hub)
    (deviceId : String) (cmd : CoverCommand) :
    Attended maxInterval time owed (queueDeviceCommand deviceId cmd hub) := by
  unfold queueDeviceCommand
  split_ifs
  · exact h.learn (Learns.rollbackOptimistic _ deviceId)
  · exact attended_enqueue h (pushControl_sources _ rfl fun _ => nofun)

/-- A queued poll pays what its device is owed; a device that takes none is owed none. -/
theorem queueRequestDeviceStatus_pays {deviceId : String}
    (h : Attended maxInterval time (some deviceId) hub) :
    Attended maxInterval time none (queueRequestDeviceStatus deviceId hub) := by
  unfold queueRequestDeviceStatus queueGuarded
  split_ifs with hrejects
  · refine h.pay fun htracked => ?_
    obtain ⟨hsupports, -⟩ := Bool.and_eq_true_iff.mp htracked
    obtain ⟨dev, hdev, hyes⟩ := (Option.any_eq_true _ _).mp hsupports
    obtain ⟨dev', hdev', hno⟩ := (Option.any_eq_true _ _).mp hrejects
    rw [hdev] at hdev'
    rw [← Option.some.inj hdev', hyes] at hno
    cases hno
  · have hqueued : Attended maxInterval time (some deviceId)
        { hub with opQueue := (hub.opQueue.enqueueRequestStatus deviceId).1 } :=
      attended_enqueue h (enqueueBackground_sources _ _ _ _)
    exact hqueued.pay fun _ => .inr (.inr (enqueueRequestStatus_mem _ deviceId))

/-- A due device whose schedule was taken is queued. -/
theorem queueDuePoll_attended (h : Attended maxInterval time none hub) (now : UInt32) :
    Attended maxInterval time none (queueDuePoll (hub.pollPolicy.popDueDevice now) hub) := by
  have htaken := h.popDueDevice now
  unfold queueDuePoll
  cases hdue : (hub.pollPolicy.popDueDevice now).2 with
  | none =>
    rw [hdue] at htaken
    exact htaken
  | some deviceId =>
    rw [hdue] at htaken
    exact queueRequestDeviceStatus_pays htaken

end

/-- The update keeps the type of a device, or learns an unknown one. -/
def KeepsKind (u : DeviceUpdate) : Prop :=
  ∀ dev, (u.apply dev).type = dev.type ∨ dev.type = .unknown

theorem KeepsKind.andThen {u v : DeviceUpdate} (hu : KeepsKind u) (hv : KeepsKind v) :
    KeepsKind (u.andThen v) := by
  intro dev
  rcases hu dev with hsame | hunknown
  · rcases hv (u.apply dev) with hsame' | hunknown'
    · exact .inl (hsame'.trans hsame)
    · exact .inr (hsame.symm.trans hunknown')
  · exact .inr hunknown

private theorem normalizeStoppedState_kept (dev : IoDevice) :
    (normalizeStoppedState dev).type = dev.type ∧
      (normalizeStoppedState dev).lastStatus = dev.lastStatus := by
  unfold normalizeStoppedState
  split_ifs <;> exact ⟨rfl, rfl⟩

private theorem decodeStatusFields_kept (frame : IoFrame) (targetOffset currentOffset : ℕ)
    (allow : Bool) (dev : IoDevice) :
    (decodeStatusFields frame targetOffset currentOffset allow dev).type = dev.type ∧
      (decodeStatusFields frame targetOffset currentOffset allow dev).lastStatus =
        dev.lastStatus := by
  have hpositions : (decodePositions frame targetOffset currentOffset dev).type = dev.type ∧
      (decodePositions frame targetOffset currentOffset dev).lastStatus = dev.lastStatus :=
    normalizeStoppedState_kept _
  cases allow with
  | false => exact hpositions
  | true =>
    have htilt : ∀ dev : IoDevice, (decodeExtendedTilt frame dev).type = dev.type ∧
        (decodeExtendedTilt frame dev).lastStatus = dev.lastStatus := by
      intro dev
      unfold decodeExtendedTilt
      split_ifs <;> exact ⟨rfl, rfl⟩
    obtain ⟨htype, hstatus⟩ := htilt (decodePositions frame targetOffset currentOffset dev)
    exact ⟨htype.trans hpositions.1, hstatus.trans hpositions.2⟩

theorem applyPrivateResponseStatus_kept (frame : IoFrame) (trustPosition : Bool) (now : UInt32)
    (dev : IoDevice) :
    ((applyPrivateResponseStatus frame trustPosition now).apply dev).type = dev.type ∧
      ((applyPrivateResponseStatus frame trustPosition now).apply dev).lastStatus = now := by
  cases trustPosition with
  | true =>
    exact decodeStatusFields_kept frame privateResponseTargetOffset privateResponseCurrentOffset
      true (stampStatus frame now dev)
  | false => exact normalizeStoppedState_kept (stampStatus frame now dev)

theorem applyUnsolicitedStatusUpdate_kept (frame : IoFrame) (now : UInt32) (dev : IoDevice) :
    ((applyUnsolicitedStatusUpdate frame now).apply dev).type = dev.type ∧
      ((applyUnsolicitedStatusUpdate frame now).apply dev).lastStatus = now :=
  decodeStatusFields_kept frame _ _ _ (stampStatus frame now dev)

theorem updateLinkHealth_keepsKind (now : UInt32) (rssi : Option Int16) :
    KeepsKind (updateLinkHealth now rssi) := by
  intro dev
  cases rssi <;> exact .inl rfl

theorem applyInfo2Response_keepsKind (frame : IoFrame) : KeepsKind (applyInfo2Response frame) := by
  intro dev
  by_cases hunknown : dev.type = .unknown
  · exact .inr hunknown
  · refine .inl ?_
    unfold applyInfo2Response
    dsimp only
    rw [if_pos hunknown]

theorem attended_updateDevice {maxInterval time : ℕ} {owed : Option String} {hub : Hub}
    (h : Attended maxInterval time owed hub) (id : String) {u : DeviceUpdate}
    (kind : KeepsKind u) : Attended maxInterval time owed (hub.updateDevice id u) :=
  h.learn (Learns.update _ id u.keepsNodeId kind)

section

variable {maxInterval endTime : ℕ}

/-- Every delay that the hub may ask for ends before the clock wraps. -/
def BeforeWrap (maxInterval endTime : ℕ) : Prop :=
  endTime + maxInterval + maxTrackedStatusPollWindowMs.toNat < clockPeriod

instance : Decidable (BeforeWrap maxInterval endTime) := inferInstanceAs (Decidable (_ < _))

variable (early : BeforeWrap maxInterval endTime)

include early

theorem settle_ne_zero {time : ℕ} (htime : time ≤ endTime) {intervalMs : UInt32}
    (hinterval : intervalMs.toNat ≤ maxInterval) (hintDelayMs : UInt32) (capForStop : Bool) :
    clockAt time + settleDelayMs intervalMs hintDelayMs capForStop ≠ 0 := by
  have hle := settleDelayMs_le intervalMs hintDelayMs capForStop
  have hdefault : defaultSettlePollDelayMs.toNat ≤ maxTrackedStatusPollWindowMs.toNat := by
    decide
  refine clockAt_add_ne_zero (settleDelayMs_ne_zero _ _ _) ?_
  unfold BeforeWrap at early
  omega

theorem backoff_ne_zero {time : ℕ} (htime : time ≤ endTime) (t : PollTracking UInt32)
    (authLike : Bool) : clockAt time + t.backoffMs authLike ≠ 0 := by
  have hle : (t.backoffMs authLike).toNat ≤ maxTrackedStatusPollWindowMs.toNat :=
    retryDelayMs_le _ _
  refine clockAt_add_ne_zero (retryDelayMs_ne_zero _ _) ?_
  unfold BeforeWrap at early
  omega

theorem pollAfterPrivateResponse_settles {time : ℕ} (htime : time ≤ endTime) (now : UInt32)
    (id : String) {dev : IoDevice} (stamped : dev.lastStatus = clockAt time) (frame : IoFrame)
    {policy : StatusPollPolicy UInt32} (hinterval : (policy.entry id).intervalMs.toNat ≤ maxInterval) :
    Settles now id policy (pollAfterPrivateResponse id dev frame policy) := by
  unfold pollAfterPrivateResponse
  split_ifs with hidle
  · exact clear_settles policy id now
  · simp only [Bool.or_eq_true, not_or, Bool.not_eq_true] at hidle
    refine setNextUpdate_settles policy id now ?_
    split_ifs with hexisting
    · exact hexisting.1
    · rw [stamped]
      unfold computePrivateResponseDelayMs
      rw [if_neg (by simp [hidle.1]), getInterval_eq]
      exact settle_ne_zero early htime hinterval _ _

theorem pollAfterStatusUpdate_settles {time : ℕ} (htime : time ≤ endTime) (now : UInt32)
    (id : String) {dev : IoDevice} (stamped : dev.lastStatus = clockAt time)
    {policy : StatusPollPolicy UInt32} (hinterval : (policy.entry id).intervalMs.toNat ≤ maxInterval) :
    Settles now id policy (pollAfterStatusUpdate id dev policy) := by
  unfold pollAfterStatusUpdate
  split_ifs with hidle
  · exact clear_settles policy id now
  · simp only [Bool.or_eq_true, not_or, Bool.not_eq_true] at hidle
    refine setNextUpdate_settles policy id now ?_
    rw [stamped]
    unfold computeStatusUpdateDelayMs
    rw [if_neg (by simp [hidle.1]), getInterval_eq]
    exact settle_ne_zero early htime hinterval _ _

end

/-- All answers will have been given at the time. -/
def EndsAt {ε : Type} (time : ℕ) (w : World Surroundings ε) : Prop := w.env.endTime = time

theorem EndsAt.next {ε : Type} {time : ℕ} (w : World Surroundings ε) (h : EndsAt time w) :
    EndsAt time (⟨w.env.next.2, w.log⟩ : World Surroundings ε) :=
  w.env.next_endTime.trans h

theorem consult_ends {ε α : Type} (f : Answer → ℕ → α) (endTime : ℕ) :
    Keeps (EndsAt endTime) (consult f : Prog Surroundings ε α) fun a =>
      ∃ answer time, time ≤ endTime ∧ a = f answer time := by
  intro w hw
  have hnext : w.env.next.2.endTime = endTime := EndsAt.next w hw
  have hle := w.env.next.2.time_le_endTime
  rw [hnext] at hle
  exact ⟨⟨w.env.next.1, w.env.next.2.time, hle, rfl⟩, hnext⟩

theorem portsReport_ends (endTime : ℕ) :
    PortsReport (EndsAt endTime) surroundingPorts.toReceivePorts :=
  surroundings_report fun s h => s.next_endTime.trans h

theorem portsKeep_ends (endTime : ℕ) :
    PortsKeep (EndsAt endTime) surroundingPorts.toReceivePorts :=
  (portsReport_ends endTime).toPortsKeep

theorem report_ends (output : HubOutput) (endTime : ℕ) :
    Keeps (EndsAt endTime) (report output) fun _ => True :=
  fun _ hw => ⟨trivial, hw⟩

/-- The clock is read before the end. -/
theorem millis_ends (endTime : ℕ) :
    Keeps (EndsAt endTime) surroundingPorts.millis fun now =>
      ∃ time, time ≤ endTime ∧ now = clockAt time := by
  have hconsult : Keeps (EndsAt endTime) surroundingPorts.millis fun now =>
      ∃ (_ : Answer) (time : ℕ), time ≤ endTime ∧ now = clockAt time :=
    consult_ends (fun _ time => clockAt time) endTime
  refine hconsult.weaken ?_
  rintro _ ⟨_, time, htime, rfl⟩
  exact ⟨time, htime, rfl⟩

/-- The hub is attended to, and if it pays, the device is owed nothing any more. -/
structure Leaves (maxInterval time : ℕ) (owed : Option String) (deviceId : String) (pays : Prop)
    (hub : Hub) : Prop where
  attended : Attended maxInterval time owed hub
  paid : pays → owed = some deviceId → Attended maxInterval time none hub

/-- A reply that says where the device is, and whether it moves. -/
def reportsStatus (frame : IoFrame) : Bool :=
  frame.cmd = cmdPrivateResp ∧ privateResponseMinDataLen ≤ frame.dataLen ∨
    frame.cmd = cmdStatusUpdate ∧ statusUpdateMinDataLen ≤ frame.dataLen

section

variable {maxInterval endTime : ℕ} {owed : Option String} {hub : Hub}

theorem Leaves.of_silent {deviceId : String} {pays : Prop}
    (h : Attended maxInterval endTime owed hub) (silent : ¬ pays) :
    Leaves maxInterval endTime owed deviceId pays hub :=
  ⟨h, fun hpays => absurd hpays silent⟩

/-- What is settled for the device is paid. -/
theorem Leaves.of_settles {deviceId : String} {pays : Prop} {policy : StatusPollPolicy UInt32}
    (h : Attended maxInterval endTime owed hub)
    (settles : Settles (clockAt endTime) deviceId hub.pollPolicy policy) :
    Leaves maxInterval endTime owed deviceId pays { hub with pollPolicy := policy } := by
  refine ⟨h.reschedule settles.keeps, fun _ howed => ?_⟩
  subst howed
  exact h.paySettled settles

variable (early : BeforeWrap maxInterval endTime)

include early

/-- A status settles the polls of its device. -/
theorem updateDeviceStatus_leaves (h : Attended maxInterval endTime owed hub) (frame : IoFrame)
    (trustPosition : Bool) :
    Keeps (EndsAt endTime)
      (updateDeviceStatus surroundingPorts.toReceivePorts frame trustPosition hub)
      (Leaves maxInterval endTime owed (nodeIdToString frame.src) (reportsStatus frame = true)) := by
  have kept := portsKeep_ends endTime
  unfold updateDeviceStatus
  dsimp only
  cases hget : hub.registry.get (nodeIdToString frame.src) with
  | none =>
    refine Keeps.pure ⟨h, fun _ howed => ?_⟩
    subst howed
    refine h.pay fun htracked => ?_
    rw [Attended.not_tracked hget] at htracked
    cases htracked
  | some dev =>
    refine kept.millis.skip fun now => kept.lastRssi.skip fun rssi => ?_
    have hseen := updateLinkHealth_keepsKind now rssi
    refine Keeps.ite (fun hcmd => Keeps.ite (fun hshort => ?_) fun hlong => ?_) fun hcmd => ?_
    · exact Keeps.pure (Leaves.of_silent (attended_updateDevice h _ hseen)
        (by simp [reportsStatus, hcmd, hshort, cmdPrivateResp, cmdStatusUpdate]))
    · refine (millis_ends endTime).bind ?_
      rintro _ ⟨time, htime, rfl⟩
      have hkept := applyPrivateResponseStatus_kept frame trustPosition (clockAt time)
      have hkind : KeepsKind (((updateLinkHealth now rssi).andThen
          (applyPrivateResponseStatus frame trustPosition (clockAt time))).andThen
            clearCommandResult) :=
        (hseen.andThen fun dev => .inl (hkept dev).1).andThen fun _ => .inl rfl
      have hhub := attended_updateDevice h (nodeIdToString frame.src) hkind
      exact Keeps.pure (Leaves.of_settles hhub (pollAfterPrivateResponse_settles early htime _ _
        (hkept _).2 frame (hhub.interval _)))
    refine Keeps.ite (fun hcmd' => Keeps.ite (fun hshort => ?_) fun hlong => ?_) fun hcmd' => ?_
    · exact Keeps.pure (Leaves.of_silent (attended_updateDevice h _ hseen)
        (by simp [reportsStatus, hcmd', hshort, cmdPrivateResp, cmdStatusUpdate]))
    · refine (millis_ends endTime).bind ?_
      rintro _ ⟨time, htime, rfl⟩
      have hkept := applyUnsolicitedStatusUpdate_kept frame (clockAt time)
      have hkind : KeepsKind (((updateLinkHealth now rssi).andThen
          (applyUnsolicitedStatusUpdate frame (clockAt time))).andThen clearCommandResult) :=
        (hseen.andThen fun dev => .inl (hkept dev).1).andThen fun _ => .inl rfl
      have hhub := attended_updateDevice h (nodeIdToString frame.src) hkind
      exact Keeps.pure (Leaves.of_settles hhub (pollAfterStatusUpdate_settles early htime _ _
        (hkept _).2 (hhub.interval _)))
    have hsilent : ¬ reportsStatus frame = true := by simp [reportsStatus, hcmd, hcmd']
    refine Keeps.ite (fun _ => ?_) fun _ => ?_
    · exact Keeps.pure (Leaves.of_silent (attended_updateDevice h _
        (hseen.andThen fun _ => .inl rfl)) hsilent)
    refine Keeps.ite (fun _ => ?_) fun _ => ?_
    · exact Keeps.pure (Leaves.of_silent (attended_updateDevice h _
        (hseen.andThen (applyInfo2Response_keepsKind frame))) hsilent)
    refine Keeps.ite (fun _ => kept.millis.skip fun now => ?_) fun _ => ?_
    · exact Keeps.pure (Leaves.of_silent (attended_updateDevice h _
        (hseen.andThen fun _ => .inl rfl)) hsilent)
    · exact Keeps.pure (Leaves.of_silent (attended_updateDevice h _ hseen) hsilent)

end

section

variable {maxInterval endTime : ℕ} {hub : Hub}

theorem beginStatusPollTracking_owes {deviceId : String}
    (h : Attended maxInterval endTime (some deviceId) hub) (delay : UInt32) :
    Keeps (EndsAt endTime)
      (beginStatusPollTracking surroundingPorts.toReceivePorts deviceId delay hub)
      (Attended maxInterval endTime (some deviceId)) := by
  refine Keeps.ite (fun _ => Keeps.pure h) fun hregistered => ?_
  refine (portsKeep_ends endTime).millis.skip fun now => Keeps.pure ?_
  refine h.beginTracking ?_ delay now
  simpa [Option.isSome_iff_ne_none] using hregistered

/-- A tracked device without a schedule has its timeout. -/
theorem scheduleDevicePolls_attended (delayMs : UInt32) (deviceIds : List String)
    (h : Attended maxInterval endTime none hub) :
    Keeps (EndsAt endTime)
      (scheduleDevicePolls surroundingPorts.toReceivePorts delayMs deviceIds hub)
      (Attended maxInterval endTime none) := by
  refine scheduleDevicePolls_rule (fun hub₁ deviceId h₁ => ?_) deviceIds h
  exact (beginStatusPollTracking_owes (h₁.relax _) 0).weaken fun _ h₂ =>
    h₂.scheduleStatusPoll delayMs

/-- What is remembered of one-way traffic concerns no device. -/
theorem attended_oneWay {owed : Option String} (h : Attended maxInterval endTime owed hub)
    (oneWay : OneWayListening) :
    Attended maxInterval endTime owed { hub with oneWay := oneWay } :=
  ⟨h.interval, h.registered, h.spelled, h.source⟩

theorem followOneWayFrame_attended (info : OneWayFrameInfo) (srcId : String)
    (h : Attended maxInterval endTime none hub) :
    Keeps (EndsAt endTime)
      (followOneWayFrame surroundingPorts.toReceivePorts info srcId hub)
      (Attended maxInterval endTime none) :=
  followOneWayFrame_rule (portsReport_ends endTime) info srcId fun _ =>
    scheduleDevicePolls_attended _ _
      (h.learn (Learns.applyOptimisticLinkedState info _ hub.registry))

theorem processOneWayFrame_attended (frame : IoFrame)
    (h : Attended maxInterval endTime none hub) :
    Keeps (EndsAt endTime)
      (processOneWayFrame surroundingPorts.toReceivePorts frame hub)
      (Attended maxInterval endTime none) := by
  rw [processOneWayFrame_eq]
  refine (portsKeep_ends endTime).millis.skip fun now => ?_
  have hover : Attended maxInterval endTime none (overhear frame now hub) := by
    rw [overhear_eq]
    exact attended_oneWay h _
  exact Keeps.ite (fun _ => Keeps.pure hover) fun _ => followOneWayFrame_attended _ _ hover

variable (early : BeforeWrap maxInterval endTime)

include early

theorem processFrame_attended (frame : IoFrame) (freqHz : UInt32)
    (h : Attended maxInterval endTime none hub) :
    Keeps (EndsAt endTime)
      (processFrame surroundingPorts.toReceivePorts frame freqHz hub)
      (Attended maxInterval endTime none) := by
  refine processFrame_rule (portsKeep_ends endTime) frame freqHz h
    (fun _ => processOneWayFrame_attended frame h) ?_
    fun _ _ => scheduleDevicePolls_attended _ _ h
  exact (updateDeviceStatus_leaves early h frame true).weaken fun _ hleft => hleft.attended

/-- The first part of a pass leaves every tracked device its source. -/
theorem receive_attended (h : Attended maxInterval endTime none hub) :
    Keeps (EndsAt endTime) (receive surroundingPorts hub)
      (Attended maxInterval endTime none) := by
  have hcheck : Keeps (EndsAt endTime) surroundingPorts.checkForPacket fun _ => True :=
    consult_keeps EndsAt.next _
  unfold receive
  refine hcheck.skip fun packet => ?_
  cases packet with
  | none => exact Keeps.pure h
  | some packet =>
    exact processReceivedPacket_rule (portsKeep_ends endTime) packet h
      (fun _ _ => ⟨h.interval, h.registered, h.spelled, h.source⟩)
      fun frame _ _ => processFrame_attended early frame packet.freqHz h

end

section

variable {maxInterval endTime : ℕ} {owed : Option String} {hub : Hub}

theorem clearStreaksIfScheduled_attended (h : Attended maxInterval endTime owed hub)
    (retryAfterFailMs : UInt32) (deviceId : String) :
    Attended maxInterval endTime owed
      (clearStreaksIfScheduled retryAfterFailMs deviceId hub) := by
  unfold clearStreaksIfScheduled
  split_ifs
  · exact h.reschedule fun id => clearFailureStreaks_keeps _ deviceId id _
  · exact h

theorem stampLinkHealth_attended (h : Attended maxInterval endTime owed hub)
    (deviceId : String) :
    Keeps (EndsAt endTime) (stampLinkHealth surroundingPorts deviceId hub)
      (Attended maxInterval endTime owed) := by
  have kept := portsKeep_ends endTime
  refine Keeps.ite (fun _ => Keeps.pure h) fun _ => ?_
  refine kept.millis.skip fun now => kept.lastRssi.skip fun rssi => Keeps.pure ?_
  exact attended_updateDevice h deviceId (updateLinkHealth_keepsKind now rssi)

theorem recordRefusal_attended (h : Attended maxInterval endTime owed hub) (deviceId : String)
    (response : IoFrame) :
    Keeps (EndsAt endTime) (recordRefusal surroundingPorts deviceId response hub)
      (Attended maxInterval endTime owed) := by
  refine Keeps.ite (fun _ => Keeps.pure h) fun _ => ?_
  refine (portsKeep_ends endTime).millis.skip fun now => Keeps.pure ?_
  exact attended_updateDevice h deviceId fun _ => .inl rfl

/-- A reply that answers a poll: a status, or a refusal, after which the poll backs off. -/
def answersPoll (reply : IoFrame) : Bool := reply.cmd = cmdErrorResp || reportsStatus reply

variable (early : BeforeWrap maxInterval endTime)

include early

/-- A failed poll is tried again, or its device is given up. -/
theorem scheduleBackgroundPollBackoff_leaves (h : Attended maxInterval endTime owed hub)
    (deviceId : String) (authLike : Bool) (pays : Prop) :
    Keeps (EndsAt endTime)
      (scheduleBackgroundPollBackoff surroundingPorts deviceId authLike hub)
      (Leaves maxInterval endTime owed deviceId pays) := by
  refine (millis_ends endTime).bind ?_
  rintro _ ⟨time, htime, rfl⟩
  exact Keeps.pure (Leaves.of_settles h
    (onExchangeFailed_settles _ _ _ (backoff_ne_zero early htime _ _)))

theorem backOffIfScheduled_leaves (h : Attended maxInterval endTime owed hub)
    (retryAfterFailMs : UInt32) (deviceId : String) (authLike : Bool) :
    Keeps (EndsAt endTime)
      (backOffIfScheduled surroundingPorts retryAfterFailMs deviceId authLike hub)
      (Leaves maxInterval endTime owed deviceId (retryAfterFailMs ≠ 0)) :=
  Keeps.ite (fun _ => scheduleBackgroundPollBackoff_leaves early h deviceId authLike _)
    fun hnone => Keeps.pure (Leaves.of_silent h hnone)

private theorem requestFailed_leaves (h : Attended maxInterval endTime owed hub)
    (deviceId : String) (retryAfterFailMs : UInt32) (report : ExchangeReport) :
    Keeps (EndsAt endTime)
      (requestFailed surroundingPorts deviceId retryAfterFailMs report hub)
      fun result => Leaves maxInterval endTime owed deviceId (retryAfterFailMs ≠ 0) result.hub := by
  have hrecorded := attended_updateDevice h deviceId (u := recordExchangeTimeout report.tries)
    fun _ => .inl rfl
  exact (backOffIfScheduled_leaves early hrecorded _ _ _).bind fun hub₁ h₁ => Keeps.pure h₁

private theorem handleErrorResponse_leaves (h : Attended maxInterval endTime owed hub)
    (deviceId : String) (retryAfterFailMs : UInt32) (report : ExchangeReport) :
    Keeps (EndsAt endTime)
      (handleErrorResponse surroundingPorts deviceId retryAfterFailMs report hub)
      fun result => Leaves maxInterval endTime owed deviceId (retryAfterFailMs ≠ 0) result.hub := by
  refine (stampLinkHealth_attended h deviceId).bind fun hub₁ h₁ => ?_
  refine (recordRefusal_attended h₁ deviceId report.response).bind fun hub₂ h₂ => ?_
  exact (backOffIfScheduled_leaves early h₂ _ _ _).bind fun hub₃ h₃ => Keeps.pure h₃

private theorem requestAnswered_leaves (h : Attended maxInterval endTime owed hub)
    (deviceId : String) (request : IoFrame) (retryAfterFailMs : UInt32)
    (report : ExchangeReport) :
    Keeps (EndsAt endTime)
      (requestAnswered surroundingPorts deviceId request retryAfterFailMs report hub)
      fun result => Leaves maxInterval endTime owed (nodeIdToString report.response.src)
        (reportsStatus report.response = true) result.hub :=
  (updateDeviceStatus_leaves early
    (clearStreaksIfScheduled_attended h retryAfterFailMs deviceId) report.response _).bind
      fun _ h₁ => Keeps.pure h₁

/-- A poll that backs off when it fails pays for its device, unless a reply of the device says
nothing of its status. -/
theorem finishRequest_leaves (h : Attended maxInterval endTime owed hub) (deviceId : String)
    (request : IoFrame) (retryAfterFailMs : UInt32) (report : ExchangeReport) :
    Keeps (EndsAt endTime)
      (finishRequest surroundingPorts deviceId request retryAfterFailMs report hub)
      fun result => Leaves maxInterval endTime owed deviceId
        (retryAfterFailMs ≠ 0 ∧ request.cmd ≠ cmdExecute ∧
          nodeIdToString report.response.src = deviceId ∧
          (report.outcome = .successWithResponse → answersPoll report.response = true))
        result.hub := by
  unfold finishRequest
  cases houtcome : report.outcome with
  | failed =>
    refine (requestFailed_leaves early h deviceId retryAfterFailMs report).weaken fun _ hleft => ?_
    exact ⟨hleft.attended, fun hpays => hleft.paid hpays.1⟩
  | successUnconfirmed =>
    refine Keeps.ite (fun hexecute => ?_) fun _ => ?_
    · have hstamped := stampLinkHealth_attended
        (clearStreaksIfScheduled_attended h retryAfterFailMs deviceId) deviceId
      exact hstamped.bind fun hub₁ h₁ =>
        Keeps.pure (Leaves.of_silent h₁ fun hpays => hpays.2.1 hexecute)
    · refine (requestFailed_leaves early h deviceId retryAfterFailMs report).weaken
        fun _ hleft => ?_
      exact ⟨hleft.attended, fun hpays => hleft.paid hpays.1⟩
  | successWithResponse =>
    refine Keeps.ite (fun _ => ?_) fun hanswer => ?_
    · refine (handleErrorResponse_leaves early h deviceId retryAfterFailMs report).weaken
        fun _ hleft => ?_
      exact ⟨hleft.attended, fun hpays => hleft.paid hpays.1⟩
    · refine (requestAnswered_leaves early h deviceId request retryAfterFailMs report).weaken
        fun _ hleft => ⟨hleft.attended, fun hpays howed => ?_⟩
      obtain ⟨-, -, hsrc, hreply⟩ := hpays
      have hstatus : reportsStatus report.response = true := by
        have hanswers := hreply rfl
        unfold answersPoll at hanswers
        simpa [hanswer] using hanswers
      exact hleft.paid hstatus (by rw [hsrc]; exact howed)

theorem executeRequestAndUpdate_attended (h : Attended maxInterval endTime owed hub)
    (deviceId : String) (request : IoFrame) (retryAfterFailMs : UInt32) (maxTries : UInt8) :
    Keeps (EndsAt endTime)
      (executeRequestAndUpdate surroundingPorts deviceId request retryAfterFailMs maxTries hub)
      fun result => Attended maxInterval endTime owed result.hub := by
  have hexchange : Keeps (EndsAt endTime)
      (surroundingPorts.sendAndReceive request freqCh2 maxTries) fun _ => True :=
    (report_ends _ endTime).skip fun _ => consult_keeps EndsAt.next _
  rw [executeRequestAndUpdate_eq]
  refine hexchange.skip fun report => ?_
  exact (finishRequest_leaves early h deviceId request retryAfterFailMs report).weaken
    fun _ hleft => hleft.attended

end

section

variable {maxInterval endTime : ℕ} {hub : Hub} {deviceId : String}

/-- A device that is not registered is not tracked. -/
theorem pay_of_not_registered (h : Attended maxInterval endTime (some deviceId) hub)
    (hnone : hub.registry.get deviceId = none) : Attended maxInterval endTime none hub := by
  refine h.pay fun htracked => ?_
  rw [Attended.not_tracked hnone] at htracked
  cases htracked

variable (early : BeforeWrap maxInterval endTime)

include early

/-- An accepted command arms a poll. -/
theorem armExecuteConfirmationPoll_pays (h : Attended maxInterval endTime (some deviceId) hub)
    (forStop : Bool) :
    Keeps (EndsAt endTime)
      (armExecuteConfirmationPoll surroundingPorts deviceId forStop hub)
      (Attended maxInterval endTime none) := by
  have hdelay : (hub.pollPolicy.getInterval deviceId).toNat ≤ maxInterval := by
    rw [getInterval_eq]
    exact h.interval deviceId
  have hbegun : Keeps (EndsAt endTime)
      (beginStatusPollTracking surroundingPorts.toReceivePorts deviceId
        (settleDelayMs (hub.pollPolicy.getInterval deviceId) 0 forStop) hub)
      (Attended maxInterval endTime none) := by
    refine Keeps.ite (fun hnone => Keeps.pure ?_) fun hregistered => ?_
    · exact pay_of_not_registered h (Option.isNone_iff_eq_none.mp hnone)
    · refine (millis_ends endTime).bind ?_
      rintro _ ⟨time, htime, rfl⟩
      have hsome : (hub.registry.get deviceId).isSome = true := by
        simpa [Option.isSome_iff_ne_none] using hregistered
      refine Keeps.pure ((h.beginTracking hsome _ _).payScheduled ?_)
      dsimp only
      rw [entry_beginTracking, if_pos rfl]
      exact begun_scheduled _ _ (settleDelayMs_ne_zero _ _ _)
        (settle_ne_zero early htime hdelay 0 forStop)
  unfold armExecuteConfirmationPoll
  refine hbegun.bind fun hub₁ h₁ => ?_
  refine Keeps.ite (fun _ => Keeps.pure h₁) fun hexisting => ?_
  refine (portsKeep_ends endTime).millis.skip fun now => Keeps.pure ?_
  split_ifs
  · exact h₁.reschedule (setNextUpdate_settles _ deviceId _ hexisting).keeps
  · exact h₁

private theorem sendCommand_pays (h : Attended maxInterval endTime (some deviceId) hub)
    (settleAsStop : Bool) (request : IoFrame) :
    Keeps (EndsAt endTime)
      (sendCommand surroundingPorts deviceId settleAsStop request hub)
      fun result => Attended maxInterval endTime none result.2 := by
  refine (executeRequestAndUpdate_attended early h deviceId request 0 _).bind
    fun result hresult => ?_
  refine Keeps.ite (fun _ => ?_) fun _ => ?_
  · exact (armExecuteConfirmationPoll_pays early hresult settleAsStop).bind
      fun hub₁ h₁ => Keeps.pure h₁
  · exact (scheduleBackgroundPollBackoff_leaves early hresult deviceId _ True).bind
      fun hub₁ h₁ => Keeps.pure (h₁.paid trivial rfl)

/-- A command that its guard lets pass pays for its device; any other leaves all as it is. -/
theorem tryExecuteOperation_pays (h : Attended maxInterval endTime (some deviceId) hub)
    (spec : ExecuteSpec)
    (spared : Attended maxInterval endTime none hub ∨ hub.initialized = true ∧
      ∀ dev, hub.registry.get deviceId = some dev → spec.accepts dev = true) :
    Keeps (EndsAt endTime) (tryExecuteOperation surroundingPorts deviceId spec hub)
      fun result => Attended maxInterval endTime none result.2 := by
  unfold tryExecuteOperation
  cases hget : hub.registry.get deviceId with
  | none => exact Keeps.pure (pay_of_not_registered h hget)
  | some dev =>
    refine Keeps.ite (fun hturnedAway => Keeps.pure ?_) fun _ => ?_
    · rcases spared with hnone | ⟨hinit, haccepts⟩
      · exact hnone
      · rw [hinit, haccepts dev hget] at hturnedAway
        rcases hturnedAway with hfalse | hfalse <;> cases hfalse
    · refine (beginStatusPollTracking_owes h _).bind fun hub₁ h₁ => ?_
      cases spec.build hub₁.nodeId dev with
      | none => exact Keeps.pure (h₁.paySettled (clear_settles _ deviceId _))
      | some request => exact sendCommand_pays early h₁ spec.settleAsStop request

theorem runExecuteOperation_pays (h : Attended maxInterval endTime (some deviceId) hub)
    (spec : ExecuteSpec)
    (spared : Attended maxInterval endTime none hub ∨ hub.initialized = true ∧
      ∀ dev, hub.registry.get deviceId = some dev → spec.accepts dev = true) :
    Keeps (EndsAt endTime) (runExecuteOperation surroundingPorts deviceId spec hub)
      fun result => Attended maxInterval endTime none result.2 := by
  refine (tryExecuteOperation_pays early h spec spared).bind fun result hresult =>
    Keeps.pure ?_
  split_ifs
  · exact hresult
  · exact hresult.learn (Learns.rollbackOptimistic _ deviceId)

theorem setDevicePosition_pays (h : Attended maxInterval endTime (some deviceId) hub)
    (position : UInt8)
    (spared : Attended maxInterval endTime none hub ∨ hub.initialized = true ∧
      ∀ dev, hub.registry.get deviceId = some dev →
        knownDeviceAcceptsExecutePosition position dev = true) :
    Keeps (EndsAt endTime) (setDevicePosition surroundingPorts deviceId position hub)
      fun result => Attended maxInterval endTime none result.2 := by
  refine Keeps.ite (fun hnone => Keeps.pure ?_) fun _ => ?_
  · exact pay_of_not_registered h (Option.isNone_iff_eq_none.mp hnone)
  · exact runExecuteOperation_pays early h (positionSpec position) spared

theorem setEntityPosition_pays (h : Attended maxInterval endTime (some deviceId) hub)
    (expected : DeviceCapabilityClass) (position : UInt8)
    (spared : Attended maxInterval endTime none hub ∨ hub.initialized = true ∧
      ∀ dev, hub.registry.get deviceId = some dev →
        (knownDeviceMatchesEntityClass expected dev &&
          knownDeviceAcceptsExecutePosition position dev) = true) :
    Keeps (EndsAt endTime)
      (setEntityPosition surroundingPorts expected deviceId position hub)
      fun result => Attended maxInterval endTime none result.2 := by
  unfold setEntityPosition
  cases hget : hub.registry.get deviceId with
  | none => exact Keeps.pure (pay_of_not_registered h hget)
  | some dev =>
    refine Keeps.ite (fun hturnedAway => Keeps.pure ?_) fun _ => ?_
    · rcases spared with hnone | ⟨hinit, haccepts⟩
      · exact hnone
      · rw [hinit, (Bool.and_eq_true_iff.mp (haccepts dev hget)).1] at hturnedAway
        rcases hturnedAway with hfalse | hfalse <;> cases hfalse
    · refine setDevicePosition_pays early h position (spared.imp_right fun hgo => ?_)
      exact ⟨hgo.1, fun dev hdev => (Bool.and_eq_true_iff.mp (hgo.2 dev hdev)).2⟩

end

/-- Every device can be asked for its status. -/
theorem statusRequest_isRequest (own : NodeId) (dev : IoDevice) :
    ∃ request, statusRequest own dev = some request ∧
      IsRequest own dev.nodeId cmdPrivate request := by
  have hbuilt : ∀ payload : List UInt8, payload.length ≤ frameMaxDataSize →
      ∃ request, createRequest own dev.nodeId dev.lowPower cmdPrivate payload = some request ∧
        IsRequest own dev.nodeId cmdPrivate request := by
    intro payload hlen
    have hsome : (createRequest own dev.nodeId dev.lowPower cmdPrivate payload).isSome = true :=
      buildFrame_isSome hlen
    obtain ⟨request, hrequest⟩ := Option.isSome_iff_exists.mp hsome
    exact ⟨request, hrequest, createRequest_isRequest hrequest⟩
  unfold statusRequest
  split_ifs
  · exact hbuilt _ (by decide)
  · exact hbuilt _ (by decide)

section

variable {maxInterval endTime : ℕ} {hub : Hub} {deviceId : String}
  (early : BeforeWrap maxInterval endTime)

include early

theorem requestDeviceStatus_attended (h : Attended maxInterval endTime none hub)
    (deviceId : String) :
    Keeps (EndsAt endTime) (requestDeviceStatus surroundingPorts deviceId hub)
      fun result => Attended maxInterval endTime none result.2 :=
  requestDeviceStatus_rule (portsKeep_ends endTime) deviceId h fun request _ _ =>
    executeRequestAndUpdate_attended early h deviceId request _ _

/-- A poll pays for its device if the answer to it, the second one asked for, is not a reply
that says nothing of a status. -/
theorem requestDeviceStatus_pays (h : Attended maxInterval endTime (some deviceId) hub)
    (initialized : hub.initialized = true) {w : World Surroundings HubReport}
    (hw : EndsAt endTime w)
    (answered : w.env.next.2.next.1.outcome = .successWithResponse →
      answersPoll w.env.next.2.next.1.reply = true) :
    Attended maxInterval endTime none
        (requestDeviceStatus surroundingPorts deviceId hub w).1.2 ∧
      EndsAt endTime (requestDeviceStatus surroundingPorts deviceId hub w).2 := by
  by_cases htracked : pollTracked hub deviceId endTime = true
  swap
  · exact requestDeviceStatus_attended early (h.pay fun hyes => absurd hyes htracked) deviceId w hw
  obtain ⟨hsupports, hactive⟩ := Bool.and_eq_true_iff.mp htracked
  obtain ⟨dev, hget, hsupported⟩ := (Option.any_eq_true _ _).mp hsupports
  obtain ⟨request, hrequest, hdst, -, hcmd⟩ := statusRequest_isRequest hub.nodeId dev
  have hwrap : endTime < clockPeriod := by
    unfold BeforeWrap at early
    omega
  -- the clock is read before the end, so the poll is one of the scheduler's
  obtain ⟨⟨time, htime, hnow⟩, hw₁⟩ := millis_ends endTime w hw
  have hmanaged : hub.pollPolicy.isTrackingActive deviceId
      (surroundingPorts.millis w).1 = true := by
    rw [hnow, isTrackingActive_eq]
    rw [isTrackingActive_eq] at hactive
    exact isActive_earlier (clockAt_le htime hwrap) hactive
  let report := exchangeReport request w.env.next.2.next.1
  have hrun : requestDeviceStatus surroundingPorts deviceId hub w =
      (finishRequest surroundingPorts deviceId request statusRetryAfterFailMs report hub >>=
        fun result => pure (result.accepted, result.hub)) ⟨w.env.next.2.next.2,
          w.log ++ [⟨w.env.next.2.time, .exchange request⟩]⟩ := by
    unfold requestDeviceStatus
    rw [hget]
    dsimp only
    rw [if_neg (by simp [initialized, hsupported]), hrequest]
    dsimp only
    rw [bind_apply, hmanaged]
    rfl
  -- the reply comes from the device itself
  have hsrc : nodeIdToString report.response.src = deviceId := by
    change nodeIdToString request.dst = deviceId
    rw [hdst]
    exact h.spelled deviceId dev hget
  have hfinish := finishRequest_leaves early h deviceId request statusRetryAfterFailMs
    report
  rw [hrun]
  refine (hfinish.bind fun result hleft => Keeps.pure ?_) _ ?_
  · refine hleft.paid ⟨by decide, ?_, hsrc, answered⟩ rfl
    rw [hcmd]
    decide
  · unfold EndsAt at hw ⊢
    rw [w.env.next.2.next_endTime, w.env.next_endTime]
    exact hw

theorem requestDeviceName_attended (h : Attended maxInterval endTime none hub)
    (deviceId : String) :
    Keeps (EndsAt endTime) (requestDeviceName surroundingPorts deviceId hub)
      fun result => Attended maxInterval endTime none result.2 :=
  requestDeviceName_rule deviceId h fun request _ _ =>
    executeRequestAndUpdate_attended early h deviceId request _ _

end

end HomeIoControl.TrackedDevices
