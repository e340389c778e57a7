import HomeIoControl.PollEntries
import HomeIoControl.HubFrames

/-!
# Where a device's next status comes from

The next status of a tracked device comes from its schedule, from a pending timeout, or from a
queued operation. The hub attends to its devices if every tracked one has such a source, and each
change of the hub's parts either leaves the sources or owes one device a new source.
-/

namespace HomeIoControl.StatusSources

open QueueEdits OrderedMaps ProtocolFrames ProtocolCodecs DeviceModels DeviceRegistries
  PendingOperations StatusPolls PollEntries HubStatus HubOperations HubLoop

/-- The operation polls the device, or moves it, which ends with a poll. -/
def IsSource (deviceId : String) (op : PendingOperation) : Prop :=
  op.deviceId = deviceId ∧ (op.type = .requestStatus ∨
    addressesADevice op.type = true ∧ op.isBackground = false ∧ op.type ≠ .discoverAndPair)

instance (deviceId : String) (op : PendingOperation) : Decidable (IsSource deviceId op) :=
  inferInstanceAs (Decidable (_ ∧ _))

/-- The device has a source of its next status when these are the queued operations. -/
def HasSource (hub : Hub) (ops : List PendingOperation) (deviceId : String) : Prop :=
  hub.pollPolicy.getNextUpdate deviceId ≠ 0 ∨ (hub.remotePolls.find deviceId).isSome = true ∨
    ∃ op ∈ ops, IsSource deviceId op

instance (hub : Hub) (ops : List PendingOperation) (deviceId : String) :
    Decidable (HasSource hub ops deviceId) :=
  inferInstanceAs (Decidable (_ ∨ _))

/-- A registered device that answers status requests, while its poll window is active. -/
def pollTracked (hub : Hub) (deviceId : String) (time : ℕ) : Bool :=
  (hub.registry.get deviceId).any knownDeviceSupportsStatusRequests &&
    hub.pollPolicy.isTrackingActive deviceId (clockAt time)

/-- The hub attends to its devices: every tracked device has a source, except the one that is owed
one. Poll intervals are bounded, only registered devices have windows, and identifiers spell the
addresses of their devices. -/
structure Attended (maxInterval time : ℕ) (owed : Option String) (hub : Hub) : Prop where
  interval : ∀ id, (hub.pollPolicy.entry id).intervalMs.toNat ≤ maxInterval
  registered : ∀ id, (hub.pollPolicy.entry id).pollDeadline ≠ 0 →
    (hub.registry.get id).isSome = true
  spelled : ∀ id dev, hub.registry.get id = some dev → nodeIdToString dev.nodeId = id
  source : ∀ id, owed ≠ some id → pollTracked hub id time = true →
    HasSource hub hub.opQueue.ops id

/-- The second registry has the devices of the first, and learns at most unknown types. -/
structure Learns (reg reg' : DeviceRegistry) : Prop where
  registered : ∀ id, (reg.get id).isSome = true → (reg'.get id).isSome = true
  kind : ∀ id dev', reg'.get id = some dev' → ∃ dev, reg.get id = some dev ∧
    dev'.nodeId = dev.nodeId ∧ (dev'.type = dev.type ∨ dev.type = .unknown)

namespace Learns

variable {reg reg₁ reg₂ : DeviceRegistry}

theorem refl (reg : DeviceRegistry) : Learns reg reg :=
  ⟨fun _ h => h, fun _ dev h => ⟨dev, h, rfl, .inl rfl⟩⟩

theorem trans (h : Learns reg reg₁) (h' : Learns reg₁ reg₂) : Learns reg reg₂ where
  registered id hid := h'.registered id (h.registered id hid)
  kind id dev₂ hdev₂ := by
    obtain ⟨dev₁, hdev₁, hnode₁, htype₁⟩ := h'.kind id dev₂ hdev₂
    obtain ⟨dev, hdev, hnode, htype⟩ := h.kind id dev₁ hdev₁
    refine ⟨dev, hdev, hnode₁.trans hnode, ?_⟩
    rcases htype₁ with heq₁ | hunknown₁
    · rw [heq₁]
      exact htype
    · rcases htype with heq | hunknown
      · exact .inr (heq.symm.trans hunknown₁)
      · exact .inr hunknown

/-- A record whose type is kept, or was unknown, may change in place. -/
theorem update (reg : DeviceRegistry) (id : String) {f : IoDevice → IoDevice}
    (hf : ∀ dev, (f dev).nodeId = dev.nodeId)
    (kind : ∀ dev, (f dev).type = dev.type ∨ dev.type = .unknown) :
    Learns reg (reg.update id f hf) where
  registered id' h := by
    rw [reg.get_update]
    split_ifs with heq
    · rw [heq] at h
      rwa [Option.isSome_map]
    · exact h
  kind id' dev' h := by
    rw [reg.get_update] at h
    split_ifs at h with heq
    · obtain ⟨dev, hdev, rfl⟩ := Option.map_eq_some_iff.mp h
      exact ⟨dev, heq ▸ hdev, hf dev, kind dev⟩
    · exact ⟨dev', h, rfl, .inl rfl⟩

theorem applyOptimisticTarget (reg : DeviceRegistry) (id : String) (target : Position) :
    Learns reg (reg.applyOptimisticTarget id target).1 := by
  unfold DeviceRegistry.applyOptimisticTarget
  split_ifs
  · dsimp only
    exact update reg id _ fun _ => .inl rfl
  · exact refl reg

theorem applyOptimisticStop (reg : DeviceRegistry) (id : String) :
    Learns reg (reg.applyOptimisticStop id).1 := by
  unfold DeviceRegistry.applyOptimisticStop
  split_ifs
  · dsimp only
    exact update reg id _ fun _ => .inl rfl
  · exact refl reg

theorem applyOptimisticTilt (reg : DeviceRegistry) (id : String) (tilt : Position) :
    Learns reg (reg.applyOptimisticTilt id tilt).1 := by
  unfold DeviceRegistry.applyOptimisticTilt
  split_ifs
  · dsimp only
    exact update reg id _ fun _ => .inl rfl
  · exact refl reg

theorem rollbackOptimistic (reg : DeviceRegistry) (id : String) :
    Learns reg (reg.rollbackOptimistic id) :=
  update reg id _ fun _ => .inl rfl

theorem applyOptimisticLinkedState (info : OneWayFrameInfo) (deviceIds : List String)
    (reg : DeviceRegistry) :
    Learns reg (HubStatus.applyOptimisticLinkedState info deviceIds reg).1 := by
  have hdevice : ∀ (reg : DeviceRegistry) id,
      Learns reg (applyOptimisticLinkedDevice info reg id) := by
    intro reg id
    unfold applyOptimisticLinkedDevice
    split_ifs
    · exact refl reg
    · exact applyOptimisticStop reg id
    · split
      · exact applyOptimisticTarget reg id _
      · exact refl reg
  unfold HubStatus.applyOptimisticLinkedState
  split_ifs
  · exact refl reg
  · induction deviceIds generalizing reg with
    | nil => exact refl reg
    | cons id deviceIds ih => exact (hdevice reg id).trans (ih _)

/-- A device that takes status requests took them before. -/
theorem supports (h : Learns reg reg₁) {id : String}
    (supported : (reg₁.get id).any knownDeviceSupportsStatusRequests = true) :
    (reg.get id).any knownDeviceSupportsStatusRequests = true := by
  obtain ⟨dev', hdev', hsupports⟩ := (Option.any_eq_true _ _).mp supported
  obtain ⟨dev, hdev, -, htype⟩ := h.kind id dev' hdev'
  rw [hdev, Option.any_some]
  unfold knownDeviceSupportsStatusRequests at hsupports ⊢
  rcases htype with heq | hunknown
  · rwa [heq] at hsupports
  · simp [hunknown]

end Learns

theorem clockAt_add_ne_zero {time : ℕ} {delay : UInt32} (hdelay : delay ≠ 0)
    (h : time + delay.toNat < clockPeriod) : clockAt time + delay ≠ 0 := by
  intro hzero
  have hsum := congrArg UInt32.toNat hzero
  have hpos : delay.toNat ≠ 0 := fun h0 => hdelay (UInt32.toNat_inj.mp h0)
  have hzero' : (0 : UInt32).toNat = 0 := rfl
  rw [UInt32.toNat_add, clockAt_toNat, hzero'] at hsum
  unfold clockPeriod at h hsum
  omega

theorem clockAt_le {earlier time : ℕ} (h : earlier ≤ time) (hwrap : time < clockPeriod) :
    clockAt earlier ≤ clockAt time := by
  rw [UInt32.le_iff_toNat_le, clockAt_toNat, clockAt_toNat,
    Nat.mod_eq_of_lt (Nat.lt_of_le_of_lt h hwrap), Nat.mod_eq_of_lt hwrap]
  exact h

namespace Attended

variable {maxInterval time : ℕ} {owed : Option String} {hub : Hub}

theorem relax (h : Attended maxInterval time none hub) (owed : Option String) :
    Attended maxInterval time owed hub :=
  ⟨h.interval, h.registered, h.spelled, fun id _ => h.source id nofun⟩

/-- A device that has a source, or is not tracked, is owed nothing. -/
theorem pay {deviceId : String} (h : Attended maxInterval time (some deviceId) hub)
    (paid : pollTracked hub deviceId time = true → HasSource hub hub.opQueue.ops deviceId) :
    Attended maxInterval time none hub := by
  refine ⟨h.interval, h.registered, h.spelled, fun id _ htracked => ?_⟩
  by_cases hid : deviceId = id
  · subst hid
    exact paid htracked
  · exact h.source id (fun heq => hid (Option.some.inj heq)) htracked

/-- What is tracked later is tracked now, so time takes no source. -/
theorem later (h : Attended maxInterval time owed hub) {endTime : ℕ} (hle : time ≤ endTime)
    (hwrap : endTime < clockPeriod) : Attended maxInterval endTime owed hub := by
  refine ⟨h.interval, h.registered, h.spelled, fun id hid htracked => h.source id hid ?_⟩
  obtain ⟨hsupports, hactive⟩ := Bool.and_eq_true_iff.mp htracked
  refine Bool.and_eq_true_iff.mpr ⟨hsupports, ?_⟩
  rw [isTrackingActive_eq] at hactive ⊢
  exact isActive_earlier (clockAt_le hle hwrap) hactive

theorem not_tracked {deviceId : String} (h : hub.registry.get deviceId = none) :
    pollTracked hub deviceId time = false := by
  rw [pollTracked, h]
  rfl

/-- The registry may learn. -/
theorem learn (h : Attended maxInterval time owed hub) {reg : DeviceRegistry}
    (learns : Learns hub.registry reg) :
    Attended maxInterval time owed { hub with registry := reg } where
  interval := h.interval
  registered id hid := learns.registered id (h.registered id hid)
  spelled id dev' hdev' := by
    obtain ⟨dev, hdev, hnode, -⟩ := learns.kind id dev' hdev'
    rw [hnode]
    exact h.spelled id dev hdev
  source id hid htracked := by
    obtain ⟨hsupports, hactive⟩ := Bool.and_eq_true_iff.mp htracked
    exact h.source id hid (Bool.and_eq_true_iff.mpr ⟨learns.supports hsupports, hactive⟩)

/-- The schedules may change where every device keeps its own, but for one that is then owed. -/
theorem rescheduleBut (h : Attended maxInterval time owed hub) {owed' : Option String}
    {policy : StatusPollPolicy UInt32} (owes : ∀ id, owed' ≠ some id → owed ≠ some id)
    (interval : ∀ id, (policy.entry id).intervalMs = (hub.pollPolicy.entry id).intervalMs)
    (registered : ∀ id, (policy.entry id).pollDeadline ≠ 0 →
      (hub.registry.get id).isSome = true)
    (keeps : ∀ id, owed' ≠ some id →
      KeepsSchedule (clockAt time) (hub.pollPolicy.entry id) (policy.entry id)) :
    Attended maxInterval time owed' { hub with pollPolicy := policy } where
  interval id := by
    rw [interval]
    exact h.interval id
  registered := registered
  spelled := h.spelled
  source id hid htracked := by
    obtain ⟨hsupports, hactive⟩ := Bool.and_eq_true_iff.mp htracked
    rw [isTrackingActive_eq] at hactive
    have hbefore : pollTracked hub id time = true := by
      refine Bool.and_eq_true_iff.mpr ⟨hsupports, ?_⟩
      rw [isTrackingActive_eq]
      exact (keeps id hid).isActive hactive
    by_cases hidle : (policy.entry id).nextUpdate = 0
    · rcases h.source id (owes id hid) hbefore with hnext | hother
      · rw [getNextUpdate_eq] at hnext
        exact absurd ((keeps id hid).nextUpdate hactive hidle) hnext
      · exact .inr hother
    · refine .inl ?_
      rw [getNextUpdate_eq]
      exact hidle

theorem reschedule (h : Attended maxInterval time owed hub) {policy : StatusPollPolicy UInt32}
    (keeps : ∀ id, KeepsSchedule (clockAt time) (hub.pollPolicy.entry id) (policy.entry id)) :
    Attended maxInterval time owed { hub with pollPolicy := policy } := by
  refine h.rescheduleBut (fun _ hid => hid) (fun id => (keeps id).intervalMs) ?_
    fun id _ => keeps id
  intro id hid
  rcases (keeps id).pollDeadline with hsame | hnone
  · rw [hsame] at hid
    exact h.registered id hid
  · exact absurd hnone hid

/-- Tracking of a registered device begins, and it is owed a source. -/
theorem beginTracking {deviceId : String} (h : Attended maxInterval time (some deviceId) hub)
    (registered : (hub.registry.get deviceId).isSome = true) (delay now : UInt32) :
    Attended maxInterval time (some deviceId)
      { hub with pollPolicy := hub.pollPolicy.beginTracking deviceId delay now } := by
  have hentry := fun id => entry_beginTracking hub.pollPolicy deviceId id delay now
  refine h.rescheduleBut (fun _ hid => hid) (fun id => ?_) (fun id hdeadline => ?_)
    fun id hid => ?_
  · rw [hentry]
    split_ifs with heq
    · rw [heq]
      rfl
    · rfl
  · rw [hentry] at hdeadline
    split_ifs at hdeadline with heq
    · rw [heq]
      exact registered
    · exact h.registered id hdeadline
  · rw [hentry, if_neg fun heq => hid (congrArg some heq.symm)]
    exact KeepsSchedule.refl _

/-- When the schedule of a due device is taken, it is owed a source. -/
theorem popDueDevice (h : Attended maxInterval time none hub) (now : UInt32) :
    Attended maxInterval time (hub.pollPolicy.popDueDevice now).2
      { hub with pollPolicy := (hub.pollPolicy.popDueDevice now).1 } := by
  have hentry := fun id => entry_popDueDevice hub.pollPolicy id now
  refine h.rescheduleBut (fun _ _ => nofun) (fun id => ?_) (fun id hdeadline => ?_)
    fun id hid => ?_
  · rcases hentry id with hsame | hcleared | ⟨-, htaken⟩
    · rw [hsame]
    · rw [hcleared]
      rfl
    · rw [htaken]
  · rcases hentry id with hsame | hcleared | ⟨-, htaken⟩
    · rw [hsame] at hdeadline
      exact h.registered id hdeadline
    · rw [hcleared] at hdeadline
      exact absurd rfl hdeadline
    · rw [htaken] at hdeadline
      exact h.registered id hdeadline
  · rcases hentry id with hsame | hcleared | ⟨hdue, -⟩
    · rw [hsame]
      exact KeepsSchedule.refl _
    · rw [hcleared]
      exact keepsSchedule_cleared _
    · exact absurd hdue hid

/-- A device is owed nothing once it is scheduled or given up. -/
theorem payScheduled {deviceId : String} (h : Attended maxInterval time (some deviceId) hub)
    (scheduled : Scheduled (clockAt time) (hub.pollPolicy.entry deviceId)) :
    Attended maxInterval time none hub := by
  refine h.pay fun htracked => .inl ?_
  obtain ⟨-, hactive⟩ := Bool.and_eq_true_iff.mp htracked
  rw [isTrackingActive_eq] at hactive
  rw [getNextUpdate_eq]
  exact scheduled hactive

/-- A device whose schedule is settled is owed nothing. -/
theorem paySettled {deviceId : String} (h : Attended maxInterval time (some deviceId) hub)
    {policy : StatusPollPolicy UInt32}
    (settles : Settles (clockAt time) deviceId hub.pollPolicy policy) :
    Attended maxInterval time none { hub with pollPolicy := policy } :=
  (h.reschedule settles.keeps).payScheduled settles.scheduled

/-- Sources may come to the queue. -/
theorem requeue (h : Attended maxInterval time owed hub) {q : OperationQueue}
    (stay : ∀ id, owed ≠ some id → pollTracked hub id time = true →
      HasSource hub hub.opQueue.ops id → HasSource hub q.ops id) :
    Attended maxInterval time owed { hub with opQueue := q } where
  interval := h.interval
  registered := h.registered
  spelled := h.spelled
  source id hid htracked := stay id hid htracked (h.source id hid htracked)

/-- A timeout is a source of its device. -/
theorem scheduleStatusPoll {deviceId : String}
    (h : Attended maxInterval time (some deviceId) hub) (delayMs : UInt32) :
    Attended maxInterval time none (hub.scheduleStatusPoll deviceId delayMs) := by
  have hfind : ∀ id, (hub.remotePolls.insert deviceId delayMs).find id =
      if id = deviceId then some delayMs else hub.remotePolls.find id :=
    fun id => hub.remotePolls.find_insert deviceId id delayMs
  refine ⟨h.interval, h.registered, h.spelled, fun id _ htracked => ?_⟩
  by_cases hid : id = deviceId
  · refine .inr (.inl ?_)
    change ((hub.remotePolls.insert deviceId delayMs).find id).isSome = true
    rw [hfind, if_pos hid]
    rfl
  · have hne : some deviceId ≠ some id := fun heq => hid (Option.some.inj heq).symm
    refine (h.source id hne htracked).imp_right (Or.imp_left fun hpending => ?_)
    change ((hub.remotePolls.insert deviceId delayMs).find id).isSome = true
    rwa [hfind, if_neg hid]

/-- When a timeout ends, its device is owed a source. -/
theorem eraseTimeout (h : Attended maxInterval time none hub) (deviceId : String) :
    Attended maxInterval time (some deviceId)
      { hub with remotePolls := hub.remotePolls.erase deviceId } where
  interval := h.interval
  registered := h.registered
  spelled := h.spelled
  source id hid htracked := by
    refine (h.source id nofun htracked).imp_right (Or.imp_left fun hpending => ?_)
    have hne : ¬ id = deviceId := fun heq => hid (congrArg some heq.symm)
    change ((hub.remotePolls.erase deviceId).find id).isSome = true
    rwa [OrderedMap.find_erase, if_neg hne]

/-- When an operation leaves the queue, the device it was a source of is owed one. -/
theorem popOperation (h : Attended maxInterval time none hub) {op : PendingOperation}
    (front : hub.opQueue.pop.2 = some op) (owes : ∀ id, IsSource id op → owed = some id) :
    Attended maxInterval time owed { hub with opQueue := hub.opQueue.pop.1 } := by
  refine (h.relax _).requeue fun id hid _ hsource => ?_
  refine hsource.imp_right (Or.imp_right ?_)
  rintro ⟨other, hmem, hother⟩
  refine ⟨other, ?_, hother⟩
  have hsplit := hub.opQueue.pop_ops
  rw [front] at hsplit
  rw [← hsplit] at hmem
  rcases List.mem_append.mp hmem with hfirst | hrest
  · rw [List.mem_singleton.mp hfirst] at hother
    exact absurd (owes id hother) hid
  · exact hrest

/-- A device that pairing registers anew is owed nothing if it took status requests before, was
not registered, or has a source. -/
theorem register (h : Attended maxInterval time none hub) {id : String} {device : IoDevice}
    (spelled : hexToNodeId id = some device.nodeId) (spells : nodeIdToString device.nodeId = id)
    (spared : pollTracked { hub with registry := hub.registry.put id device spelled } id time =
      true → (hub.registry.get id).all knownDeviceSupportsStatusRequests = true ∨
        HasSource hub hub.opQueue.ops id) :
    Attended maxInterval time none
      { hub with registry := hub.registry.put id device spelled } where
  interval := h.interval
  registered other hother := by
    by_cases heq : other = id
    · subst heq
      rw [hub.registry.get_put_self]
      rfl
    · rw [hub.registry.get_put_of_ne heq]
      exact h.registered other hother
  spelled other dev hdev := by
    by_cases heq : other = id
    · subst heq
      rw [hub.registry.get_put_self] at hdev
      rw [← Option.some.inj hdev]
      exact spells
    · rw [hub.registry.get_put_of_ne heq] at hdev
      exact h.spelled other dev hdev
  source other _ htracked := by
    by_cases heq : other = id
    · subst heq
      rcases spared htracked with hbefore | hsource
      · obtain ⟨-, hactive⟩ := Bool.and_eq_true_iff.mp htracked
        refine h.source other nofun (Bool.and_eq_true_iff.mpr ⟨?_, hactive⟩)
        rw [isTrackingActive_eq] at hactive
        have hset : (hub.pollPolicy.entry other).pollDeadline ≠ 0 := by
          intro hnone
          unfold PollTracking.isActive at hactive
          rw [hnone] at hactive
          exact Bool.false_ne_true hactive
        obtain ⟨dev, hdev⟩ := Option.isSome_iff_exists.mp (h.registered other hset)
        rw [hdev] at hbefore ⊢
        exact hbefore
      · exact hsource
    · unfold pollTracked at htracked
      rw [hub.registry.get_put_of_ne heq] at htracked
      exact h.source other nofun htracked

end Attended

end HomeIoControl.StatusSources
