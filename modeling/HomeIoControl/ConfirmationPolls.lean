import HomeIoControl.HubLoop
import HomeIoControl.PollEntries

/-!
# The poll after a command

A command that was carried out is confirmed by a poll. Four writers touch the schedule on the
way: the tracking that begins before the exchange, the reply, the backoff of a failure, and the
arming at the end, which has the last word whatever the others left. What it arms is due in time;
the window in which it is due is an absolute time, and is open unless that time is past the end of
the clock's turn.
-/

namespace HomeIoControl.ConfirmationPolls

open TracedPrograms ProtocolFrames DeviceModels DeviceRegistries DeviceRequests StatusPolls
  StatusPolls.StatusPollPolicy PollEntries Exchanges HubStatus HubOperations HubLoop

/-- The same intervals are configured, and the same devices registered. -/
structure SameConfig (hub hub' : Hub) : Prop where
  interval : ∀ id, hub'.pollPolicy.getInterval id = hub.pollPolicy.getInterval id
  registered : ∀ id, (hub'.registry.get id).isSome = (hub.registry.get id).isSome

namespace SameConfig

variable {hub hub₁ hub₂ : Hub}

theorem refl (hub : Hub) : SameConfig hub hub := ⟨fun _ => rfl, fun _ => rfl⟩

theorem trans (h : SameConfig hub hub₁) (h' : SameConfig hub₁ hub₂) : SameConfig hub hub₂ where
  interval id := (h'.interval id).trans (h.interval id)
  registered id := (h'.registered id).trans (h.registered id)

/-- An operation on the entry of one device that keeps its interval. -/
theorem of_entry {policy : StatusPollPolicy UInt32} {deviceId : String}
    {t : PollTracking UInt32}
    (h : ∀ id, policy.entry id = if id = deviceId then t else hub.pollPolicy.entry id)
    (hinterval : t.intervalMs = (hub.pollPolicy.entry deviceId).intervalMs) :
    SameConfig hub { hub with pollPolicy := policy } where
  interval id := by
    rw [getInterval_eq, getInterval_eq, h]
    split_ifs with hid
    · rw [hid, hinterval]
    · rfl
  registered _ := rfl

theorem clear (hub : Hub) (deviceId : String) :
    SameConfig hub { hub with pollPolicy := hub.pollPolicy.clear deviceId } :=
  of_entry (entry_clear hub.pollPolicy deviceId) rfl

theorem setNextUpdate (hub : Hub) (deviceId : String) (absTime : UInt32) :
    SameConfig hub { hub with pollPolicy := hub.pollPolicy.setNextUpdate deviceId absTime } :=
  of_entry (fun id => entry_insert hub.pollPolicy deviceId id _) rfl

theorem beginTracking (hub : Hub) (deviceId : String) (delayMs now : UInt32) :
    SameConfig hub { hub with pollPolicy := hub.pollPolicy.beginTracking deviceId delayMs now } :=
  of_entry (fun id => entry_beginTracking hub.pollPolicy deviceId id delayMs now) rfl

theorem clearStreaks (hub : Hub) (retryAfterFailMs : UInt32) (deviceId : String) :
    SameConfig hub (clearStreaksIfScheduled retryAfterFailMs deviceId hub) := by
  unfold clearStreaksIfScheduled
  split_ifs
  · exact of_entry (entry_clearFailureStreaks hub.pollPolicy deviceId) rfl
  · exact refl hub

theorem updateDevice (hub : Hub) (id : String) (u : DeviceUpdate) :
    SameConfig hub (hub.updateDevice id u) where
  interval _ := rfl
  registered id' := by
    rw [Hub.updateDevice, DeviceRegistry.get_update]
    split_ifs with hid
    · rw [Option.isSome_map, hid]
    · rfl

theorem pollAfterPrivateResponse (hub : Hub) (id : String) (dev : IoDevice) (frame : IoFrame) :
    SameConfig hub { hub with
      pollPolicy := HubStatus.pollAfterPrivateResponse id dev frame hub.pollPolicy } := by
  unfold HubStatus.pollAfterPrivateResponse
  split_ifs
  · exact clear hub id
  · exact setNextUpdate hub id _

theorem pollAfterStatusUpdate (hub : Hub) (id : String) (dev : IoDevice) :
    SameConfig hub { hub with
      pollPolicy := HubStatus.pollAfterStatusUpdate id dev hub.pollPolicy } := by
  unfold HubStatus.pollAfterStatusUpdate
  split_ifs
  · exact clear hub id
  · exact setNextUpdate hub id _

end SameConfig

section

variable {σ ε : Type}

theorem updateDeviceStatus_sameConfig (ports : ReceivePorts σ ε) (frame : IoFrame)
    (trustPosition : Bool) (hub : Hub) :
    Returns (updateDeviceStatus ports frame trustPosition hub) (SameConfig hub) := by
  have hupdate := SameConfig.updateDevice hub (nodeIdToString frame.src)
  unfold updateDeviceStatus
  dsimp only
  split
  · exact Returns.pure (SameConfig.refl hub)
  · refine Returns.skip fun now => Returns.skip fun rssi => ?_
    refine Returns.ite (fun _ => Returns.ite (fun _ => ?_) fun _ => ?_) fun _ => ?_
    · exact Returns.pure (hupdate _)
    · refine Returns.skip fun now => Returns.pure ?_
      exact (hupdate _).trans (SameConfig.pollAfterPrivateResponse (hub.updateDevice _ _) _ _ _)
    refine Returns.ite (fun _ => Returns.ite (fun _ => ?_) fun _ => ?_) fun _ => ?_
    · exact Returns.pure (hupdate _)
    · refine Returns.skip fun now => Returns.pure ?_
      exact (hupdate _).trans (SameConfig.pollAfterStatusUpdate (hub.updateDevice _ _) _ _)
    refine Returns.ite (fun _ => Returns.pure (hupdate _)) fun _ => ?_
    refine Returns.ite (fun _ => Returns.pure (hupdate _)) fun _ => ?_
    refine Returns.ite (fun _ => Returns.skip fun now => ?_) fun _ => ?_
    · exact Returns.pure (hupdate _)
    · exact Returns.pure (hupdate _)

variable (ports : HubPorts σ ε)

theorem stampLinkHealth_sameConfig (deviceId : String) (hub : Hub) :
    Returns (stampLinkHealth ports deviceId hub) (SameConfig hub) := by
  refine Returns.ite (fun _ => Returns.pure (SameConfig.refl hub)) fun _ => ?_
  exact Returns.skip fun _ => Returns.skip fun _ => Returns.pure (SameConfig.updateDevice hub _ _)

/-- Whatever the answer, an exchange that was accepted leaves the configuration. -/
theorem executeRequestAndUpdate_sameConfig (deviceId : String) (request : IoFrame)
    (retryAfterFailMs : UInt32) (maxTries : UInt8) (hub : Hub) :
    Returns (executeRequestAndUpdate ports deviceId request retryAfterFailMs maxTries hub)
      fun result => result.accepted = true → SameConfig hub result.hub := by
  have hfailed (p : Prog σ ε Hub) (sawChallenge : Bool) :
      Returns (do let hub ← p; pure (⟨false, sawChallenge, hub⟩ : RequestResult))
        fun result => result.accepted = true → SameConfig hub result.hub :=
    Returns.skip fun _ => Returns.pure fun h => absurd h Bool.false_ne_true
  refine Returns.skip fun report => ?_
  cases report.outcome with
  | failed => exact hfailed _ _
  | successUnconfirmed =>
    refine Returns.ite (fun _ => ?_) fun _ => hfailed _ _
    refine Returns.bind (stampLinkHealth_sameConfig ports deviceId _) fun hub₁ h =>
      Returns.pure fun _ => ?_
    exact (SameConfig.clearStreaks hub retryAfterFailMs deviceId).trans h
  | successWithResponse =>
    refine Returns.ite (fun _ => ?_) fun _ => ?_
    · exact Returns.skip fun _ => Returns.skip fun _ => hfailed _ _
    · refine Returns.bind (updateDeviceStatus_sameConfig ports.toReceivePorts report.response _ _)
        fun hub₁ h => Returns.pure fun _ => ?_
      exact (SameConfig.clearStreaks hub retryAfterFailMs deviceId).trans h

/-- What `try_execute_operation_` does before it arms the poll; `none` without an exchange. -/
def commandExchange (deviceId : String) (spec : ExecuteSpec) (hub : Hub) :
    Prog σ ε (Option RequestResult) :=
  match hub.registry.get deviceId with
  | none => pure none
  | some dev =>
    if hub.initialized = false ∨ spec.accepts dev = false then pure none
    else do
      let hub ← beginStatusPollTracking ports.toReceivePorts deviceId
        (hub.pollPolicy.getInterval deviceId) hub
      match spec.build hub.nodeId dev with
      | none => pure none
      | some request => do
        let result ← executeRequestAndUpdate ports deviceId request 0
          (UInt8.ofNat exchangeRetryCount) hub
        pure (some result)

theorem beginStatusPollTracking_sameConfig (deviceId : String) (delayMs : UInt32) (hub : Hub) :
    Returns (beginStatusPollTracking ports.toReceivePorts deviceId delayMs hub)
      (SameConfig hub) := by
  refine Returns.ite (fun _ => Returns.pure (SameConfig.refl hub)) fun _ => ?_
  exact Returns.skip fun now => Returns.pure (SameConfig.beginTracking hub deviceId delayMs now)

/-- An exchange that was accepted, and the arming of the poll after it. -/
theorem sendCommand_arms (deviceId : String) (settleAsStop : Bool) (request : IoFrame) (hub : Hub)
    (w : World σ ε) (h : (sendCommand ports deviceId settleAsStop request hub w).1.1 = true) :
    let exchanged := executeRequestAndUpdate ports deviceId request 0
      (UInt8.ofNat exchangeRetryCount) hub w
    let armed := armExecuteConfirmationPoll ports deviceId settleAsStop exchanged.1.hub exchanged.2
    exchanged.1.accepted = true ∧
      sendCommand ports deviceId settleAsStop request hub w = ((true, armed.1), armed.2) := by
  intro exchanged armed
  have hsend : sendCommand ports deviceId settleAsStop request hub w =
      (if exchanged.1.accepted then do
        let hub ← armExecuteConfirmationPoll ports deviceId settleAsStop exchanged.1.hub
        pure (true, hub)
      else do
        let hub ← scheduleBackgroundPollBackoff ports deviceId exchanged.1.sawChallenge
          exchanged.1.hub
        pure (false, hub) : Prog σ ε (Bool × Hub)) exchanged.2 := rfl
  rw [hsend] at h ⊢
  by_cases haccepted : exchanged.1.accepted = true
  · rw [if_pos haccepted]
    exact ⟨haccepted, rfl⟩
  · rw [if_neg haccepted] at h
    exact absurd h Bool.false_ne_true

theorem tryExecuteOperation_arms (deviceId : String) (spec : ExecuteSpec) (hub : Hub)
    (w : World σ ε) (h : (tryExecuteOperation ports deviceId spec hub w).1.1 = true) :
    ∃ result, (commandExchange ports deviceId spec hub w).1 = some result ∧
      SameConfig hub result.hub ∧ (result.hub.registry.get deviceId).isSome ∧
      tryExecuteOperation ports deviceId spec hub w =
        ((true, (armExecuteConfirmationPoll ports deviceId spec.settleAsStop result.hub
            (commandExchange ports deviceId spec hub w).2).1),
          (armExecuteConfirmationPoll ports deviceId spec.settleAsStop result.hub
            (commandExchange ports deviceId spec hub w).2).2) := by
  unfold tryExecuteOperation at h ⊢
  unfold commandExchange
  cases hget : hub.registry.get deviceId with
  | none =>
    rw [hget] at h
    exact absurd h Bool.false_ne_true
  | some dev =>
    rw [hget] at h
    dsimp only at h ⊢
    by_cases hguard : hub.initialized = false ∨ spec.accepts dev = false
    · rw [if_pos hguard] at h
      exact absurd h Bool.false_ne_true
    · rw [if_neg hguard] at h ⊢
      rw [if_neg hguard, bind_apply]
      rw [bind_apply] at h ⊢
      have hbegun := beginStatusPollTracking_sameConfig ports deviceId
        (hub.pollPolicy.getInterval deviceId) hub w
      generalize beginStatusPollTracking ports.toReceivePorts deviceId
        (hub.pollPolicy.getInterval deviceId) hub w = begun at h hbegun ⊢
      cases hbuild : spec.build begun.1.nodeId dev with
      | none =>
        rw [hbuild] at h
        exact absurd h Bool.false_ne_true
      | some request =>
        rw [hbuild] at h
        obtain ⟨haccepted, hsend⟩ := sendCommand_arms ports deviceId _ request begun.1 begun.2 h
        have hsame := hbegun.trans (executeRequestAndUpdate_sameConfig ports deviceId request 0
          (UInt8.ofNat exchangeRetryCount) begun.1 begun.2 haccepted)
        have hregistered : ((executeRequestAndUpdate ports deviceId request 0
            (UInt8.ofNat exchangeRetryCount) begun.1 begun.2).1.hub.registry.get
              deviceId).isSome := by
          rw [hsame.registered, hget]
          rfl
        exact ⟨_, rfl, hsame, hregistered, hsend⟩

/-- A command that succeeds ends with the arming, after an exchange that was accepted. -/
theorem runExecuteOperation_arms (deviceId : String) (spec : ExecuteSpec) (hub : Hub)
    (w : World σ ε) (h : (runExecuteOperation ports deviceId spec hub w).1.1 = true) :
    ∃ result, (commandExchange ports deviceId spec hub w).1 = some result ∧
      SameConfig hub result.hub ∧ (result.hub.registry.get deviceId).isSome ∧
      runExecuteOperation ports deviceId spec hub w =
        ((true, (armExecuteConfirmationPoll ports deviceId spec.settleAsStop result.hub
            (commandExchange ports deviceId spec hub w).2).1),
          (armExecuteConfirmationPoll ports deviceId spec.settleAsStop result.hub
            (commandExchange ports deviceId spec hub w).2).2) := by
  have hrun : runExecuteOperation ports deviceId spec hub w =
      (if (tryExecuteOperation ports deviceId spec hub w).1.1 then
          (tryExecuteOperation ports deviceId spec hub w).1
        else (false, { (tryExecuteOperation ports deviceId spec hub w).1.2 with
          registry := (tryExecuteOperation ports deviceId spec hub w).1.2.registry.rollbackOptimistic
            deviceId }),
        (tryExecuteOperation ports deviceId spec hub w).2) := rfl
  rw [hrun] at h ⊢
  by_cases htry : (tryExecuteOperation ports deviceId spec hub w).1.1 = true
  · obtain ⟨result, hexchange, hsame, hregistered, harms⟩ :=
      tryExecuteOperation_arms ports deviceId spec hub w htry
    refine ⟨result, hexchange, hsame, hregistered, ?_⟩
    rw [if_pos htry]
    exact harms
  · rw [if_neg htry] at h
    exact absurd h Bool.false_ne_true

end

section

/-- The schedule that the arming leaves, from what the exchange left and the two readings of the
clock. -/
def armed (policy : StatusPollPolicy UInt32) (deviceId : String) (delayMs : UInt32)
    (begun now : ℕ) : StatusPollPolicy UInt32 :=
  let left := policy.getNextUpdate deviceId
  let policy := policy.beginTracking deviceId delayMs (clockAt begun)
  if left ≠ 0 ∧ left < clockAt now + delayMs then policy.setNextUpdate deviceId left else policy

/-- The arming of a registered device reads the clock once, and again if a poll was due. -/
theorem armExecuteConfirmationPoll_apply {deviceId : String} (forStop : Bool) {hub : Hub}
    (hregistered : (hub.registry.get deviceId).isSome) (w : World Surroundings HubReport) :
    ∃ now, w.env.next.2.time ≤ now ∧
      (armExecuteConfirmationPoll surroundingPorts deviceId forStop hub w).2.env.time = now ∧
      (armExecuteConfirmationPoll surroundingPorts deviceId forStop hub w).1 =
        { hub with
          pollPolicy := armed hub.pollPolicy deviceId
            (settleDelayMs (hub.pollPolicy.getInterval deviceId) 0 forStop) w.env.next.2.time
            now } := by
  have hbegin (delayMs : UInt32) : beginStatusPollTracking surroundingPorts.toReceivePorts
      deviceId delayMs hub w =
        ({ hub with
          pollPolicy := hub.pollPolicy.beginTracking deviceId delayMs
            (clockAt w.env.next.2.time) }, ⟨w.env.next.2, w.log⟩) := by
    have hsome : ¬ (hub.registry.get deviceId).isNone = true := by
      rw [Option.isNone_iff_eq_none]
      exact Option.isSome_iff_ne_none.mp hregistered
    rw [beginStatusPollTracking, if_neg hsome]
    rfl
  rw [armExecuteConfirmationPoll, bind_apply, hbegin]
  by_cases hleft : hub.pollPolicy.getNextUpdate deviceId = 0
  · refine ⟨_, Nat.le_refl _, ?_, ?_⟩
    · rw [if_pos hleft]
      rfl
    · rw [if_pos hleft, armed, if_neg (not_and.mpr fun h => absurd hleft h)]
      rfl
  · refine ⟨w.env.next.2.next.2.time, Surroundings.time_le_next _, ?_, ?_⟩
    · rw [if_neg hleft]
      rfl
    · rw [if_neg hleft, armed]
      by_cases hsooner : hub.pollPolicy.getNextUpdate deviceId <
          clockAt w.env.next.2.next.2.time +
            settleDelayMs (hub.pollPolicy.getInterval deviceId) 0 forStop
      · rw [if_pos ⟨hleft, hsooner⟩]
        exact if_pos hsooner
      · rw [if_neg fun h => hsooner h.2]
        exact if_neg hsooner

end

variable {policy : StatusPollPolicy UInt32} {deviceId : String} {delayMs : UInt32} {begun now : ℕ}

theorem armed_getNextUpdate (hdelay : delayMs ≠ 0) :
    (armed policy deviceId delayMs begun now).getNextUpdate deviceId =
      if policy.getNextUpdate deviceId ≠ 0 ∧
        policy.getNextUpdate deviceId < clockAt now + delayMs then policy.getNextUpdate deviceId
      else clockAt begun + delayMs := by
  rw [armed]
  split_ifs with hleft
  · rw [getNextUpdate_eq, setNextUpdate, entry_insert, if_pos rfl]
  · rw [getNextUpdate_eq, entry_beginTracking, if_pos rfl, PollEntries.begun, if_neg hdelay]
    rfl

theorem armed_isTrackingActive (time : UInt32) :
    (armed policy deviceId delayMs begun now).isTrackingActive deviceId time = true ↔
      clockAt begun + maxTrackedStatusPollWindowMs ≠ 0 ∧
        time ≤ clockAt begun + maxTrackedStatusPollWindowMs := by
  have hdeadline : ((armed policy deviceId delayMs begun now).entry deviceId).pollDeadline =
      clockAt begun + maxTrackedStatusPollWindowMs := by
    rw [armed]
    split_ifs
    · rw [setNextUpdate, entry_insert, if_pos rfl, entry_beginTracking, if_pos rfl]
      rfl
    · rw [entry_beginTracking, if_pos rfl]
      rfl
  rw [isTrackingActive_eq, PollTracking.isActive, hdeadline]
  simp [Clock.isIdle, Clock.notAfter]

/-- The device is tracked, and its next update comes no later than the settle delay; a sooner one
that the exchange left is kept. -/
structure Confirmed (policy : StatusPollPolicy UInt32) (deviceId : String) (now : ℕ)
    (delayMs left : UInt32) : Prop where
  active : policy.isTrackingActive deviceId (clockAt now) = true
  scheduled : policy.getNextUpdate deviceId ≠ 0
  inTime : (policy.getNextUpdate deviceId).toNat ≤ (clockAt now).toNat + delayMs.toNat
  sooner : left ≠ 0 → left < clockAt now + delayMs → policy.getNextUpdate deviceId = left

/-- From the arming until the delay has passed, the clock does not start over. -/
def NoOverflow (begun now : ℕ) (delayMs : UInt32) : Prop :=
  begun / clockPeriod = (now + delayMs.toNat) / clockPeriod

instance : Decidable (NoOverflow begun now delayMs) := inferInstanceAs (Decidable (_ = _))

/-- The end of the poll window is still on the clock, and not past. -/
def WindowOnClock (begun now : ℕ) : Prop :=
  (clockAt begun).toNat + maxTrackedStatusPollWindowMs.toNat < clockPeriod ∧
    now ≤ begun + maxTrackedStatusPollWindowMs.toNat

instance : Decidable (WindowOnClock begun now) := inferInstanceAs (Decidable (_ ∧ _))

/-- On a clock that does not start over the readings are as far apart as the times. -/
theorem NoOverflow.clock (hbegun : begun ≤ now) (hclock : NoOverflow begun now delayMs) :
    (clockAt now).toNat = (clockAt begun).toNat + (now - begun) ∧
      (clockAt now).toNat + delayMs.toNat < clockPeriod := by
  rw [clockAt_toNat, clockAt_toNat]
  have hperiod : clockPeriod = 4294967296 := rfl
  rw [NoOverflow, hperiod] at hclock
  rw [hperiod]
  omega

theorem clockAt_add_toNat {time : ℕ} {delay : UInt32}
    (h : (clockAt time).toNat + delay.toNat < clockPeriod) :
    (clockAt time + delay).toNat = (clockAt time).toNat + delay.toNat := by
  rw [UInt32.toNat_add]
  exact Nat.mod_eq_of_lt h

/-- The window is active exactly when its end is on the clock. -/
theorem active_iff (hbegun : begun ≤ now) (hclock : NoOverflow begun now delayMs) :
    (armed policy deviceId delayMs begun now).isTrackingActive deviceId (clockAt now) = true ↔
      WindowOnClock begun now := by
  obtain ⟨hnow, hdelay⟩ := hclock.clock hbegun
  have hwindow : maxTrackedStatusPollWindowMs.toNat = 600000 := rfl
  have hperiod : clockPeriod = 4294967296 := rfl
  have hend : (clockAt begun + maxTrackedStatusPollWindowMs).toNat =
      ((clockAt begun).toNat + 600000) % 4294967296 := UInt32.toNat_add _ _
  have hzero : clockAt begun + maxTrackedStatusPollWindowMs ≠ 0 ↔
      ((clockAt begun).toNat + 600000) % 4294967296 ≠ 0 := by
    rw [← hend, not_iff_not, ← UInt32.toNat_inj]
    rfl
  rw [armed_isTrackingActive, hzero, UInt32.le_iff_toNat_le, hend, WindowOnClock, hwindow]
  rw [hperiod] at hdelay ⊢
  omega

theorem confirmed_iff (hdelay : delayMs ≠ 0) (hbegun : begun ≤ now)
    (hclock : NoOverflow begun now delayMs) :
    Confirmed (armed policy deviceId delayMs begun now) deviceId now delayMs
        (policy.getNextUpdate deviceId) ↔
      WindowOnClock begun now := by
  obtain ⟨hnow, hlt⟩ := hclock.clock hbegun
  have hpos : delayMs.toNat ≠ 0 := fun h => hdelay (UInt32.toNat_inj.mp h)
  have hnowDelay : (clockAt now + delayMs).toNat = (clockAt now).toNat + delayMs.toNat :=
    clockAt_add_toNat hlt
  have hbegunDelay : (clockAt begun + delayMs).toNat = (clockAt begun).toNat + delayMs.toNat :=
    clockAt_add_toNat (by omega)
  constructor
  · intro h
    exact (active_iff hbegun hclock).mp h.active
  · intro h
    refine ⟨(active_iff hbegun hclock).mpr h, ?_, ?_, ?_⟩
    · rw [armed_getNextUpdate hdelay]
      split_ifs with hleft
      · exact hleft.1
      · intro hzero
        rw [hzero] at hbegunDelay
        exact hpos (Nat.eq_zero_of_add_eq_zero_left hbegunDelay.symm)
    · rw [armed_getNextUpdate hdelay]
      split_ifs with hleft
      · rw [← hnowDelay]
        exact Nat.le_of_lt (UInt32.lt_iff_toNat_lt.mp hleft.2)
      · omega
    · intro hne hsooner
      rw [armed_getNextUpdate hdelay, if_pos ⟨hne, hsooner⟩]

section

variable (deviceId : String) (spec : ExecuteSpec) (hub : Hub) (w : World Surroundings HubReport)

/-- The poll that the exchange of a command left for its device. -/
def leftByExchange : UInt32 :=
  match (commandExchange surroundingPorts deviceId spec hub w).1 with
  | some result => result.hub.pollPolicy.getNextUpdate deviceId
  | none => 0

/-- The time at which the clock is read after the exchange. -/
def armedAt : ℕ :=
  (commandExchange surroundingPorts deviceId spec hub w).2.env.next.2.time

/-- The settle delay of the configured interval. -/
def confirmationDelayMs : UInt32 :=
  settleDelayMs (hub.pollPolicy.getInterval deviceId) 0 spec.settleAsStop

/-- A command that succeeds gets its confirmation, unless the end of the poll window is no time on
the clock any more. -/
theorem confirmation_iff
    (haccepted : (runExecuteOperation surroundingPorts deviceId spec hub w).1.1 = true)
    (hclock : NoOverflow (armedAt deviceId spec hub w)
      (runExecuteOperation surroundingPorts deviceId spec hub w).2.env.time
      (confirmationDelayMs deviceId spec hub)) :
    Confirmed (runExecuteOperation surroundingPorts deviceId spec hub w).1.2.pollPolicy deviceId
        (runExecuteOperation surroundingPorts deviceId spec hub w).2.env.time
        (confirmationDelayMs deviceId spec hub) (leftByExchange deviceId spec hub w) ↔
      WindowOnClock (armedAt deviceId spec hub w)
        (runExecuteOperation surroundingPorts deviceId spec hub w).2.env.time := by
  obtain ⟨result, hexchange, hsame, hregistered, hrun⟩ :=
    runExecuteOperation_arms surroundingPorts deviceId spec hub w haccepted
  obtain ⟨now, hbegun, htime, hhub⟩ := armExecuteConfirmationPoll_apply spec.settleAsStop hregistered
    (commandExchange surroundingPorts deviceId spec hub w).2
  have hdelay : settleDelayMs (result.hub.pollPolicy.getInterval deviceId) 0 spec.settleAsStop =
      confirmationDelayMs deviceId spec hub := by
    rw [hsame.interval]
    rfl
  have hleft : leftByExchange deviceId spec hub w =
      result.hub.pollPolicy.getNextUpdate deviceId := by
    rw [leftByExchange, hexchange]
  rw [hrun, htime] at hclock
  rw [hrun, htime, hhub, hdelay, hleft]
  exact confirmed_iff (settleDelayMs_ne_zero _ _ _) hbegun hclock

end

private def awningId : String := "0A0B0C"

private def awningHub : Hub where
  nodeId := ⟨0xAA, 0x00, 0x01⟩
  registry := (∅ : DeviceRegistry).add awningId { type := .awning }

/-- A reply that says that the awning has stopped, to a command at a time. -/
private def stoppedReply (time : ℕ) : World Surroundings HubReport :=
  ⟨⟨time, [{}, { outcome := .successWithResponse
                 reply := { initFrame true false true false with
                   cmd := cmdPrivateResp, data := [1, 0, 0, 0, 0, 0], data_le := by decide } }]⟩,
    []⟩

/-- The awning is sent half-way. -/
private def awningRun (time : ℕ) : (Bool × Hub) × World Surroundings HubReport :=
  runExecuteOperation surroundingPorts awningId (positionSpec 50) awningHub
    (stoppedReply time)

theorem stopped_awning_confirmed :
    (awningRun 1000).1.1 = true ∧ (awningRun 1000).2.env.time = 1000 ∧
      Confirmed (awningRun 1000).1.2.pollPolicy awningId 1000 3000 0 :=
  ⟨by decide, by decide,
    (confirmation_iff awningId (positionSpec 50) awningHub (stoppedReply 1000) (by decide)
      (by decide)).mpr (by decide)⟩

/-- A hundred seconds before the clock starts over, the window of the awning ends after that, and
is not active. -/
theorem awning_unconfirmed_before_wrap :
    (awningRun 4294867296).1.1 = true ∧
      NoOverflow (armedAt awningId (positionSpec 50) awningHub (stoppedReply 4294867296))
        (awningRun 4294867296).2.env.time
        (confirmationDelayMs awningId (positionSpec 50) awningHub) ∧
      (awningRun 4294867296).1.2.pollPolicy.isTrackingActive awningId
        (clockAt (awningRun 4294867296).2.env.time) = false ∧
      ¬ Confirmed (awningRun 4294867296).1.2.pollPolicy awningId
        (awningRun 4294867296).2.env.time
        (confirmationDelayMs awningId (positionSpec 50) awningHub)
        (leftByExchange awningId (positionSpec 50) awningHub (stoppedReply 4294867296)) := by
  have hinactive : (awningRun 4294867296).1.2.pollPolicy.isTrackingActive awningId
      (clockAt (awningRun 4294867296).2.env.time) = false := by decide
  refine ⟨by decide, by decide, hinactive, fun h => ?_⟩
  rw [h.active] at hinactive
  cases hinactive

end HomeIoControl.ConfirmationPolls
