import HomeIoControl.PendingOperationRuns

/-!
# Stale status polls

A control operation for a device makes a queued status poll of it stale. The drop lives in
`push_control_`; a request that is coalesced into a pending entry does not come there.
-/

namespace HomeIoControl.StalePolls

open MachineRuns PendingOperations PendingOperationRuns QueueEdits

/-- The device that a control request addresses. -/
def controlledDevice : Call → Option String
  | .setPosition deviceId _ | .setTilt deviceId _ | .setPositionAndTilt deviceId _ _ => some deviceId
  | .deviceCommand deviceId _ => some deviceId
  | .setLightPosition deviceId _ | .setLightState deviceId _ => some deviceId
  | .setLockState deviceId _ => some deviceId
  | .setSwitchState deviceId _ => some deviceId
  | _ => none

/-- The request is for a 1W controller identity. -/
def isOneway : Call → Bool
  | .onewayCommand .. | .onewayPosition .. | .onewayEnroll .. | .onewayUnenroll .. => true
  | _ => false

/-- The queued polls, in order. -/
def polls (ops : List PendingOperation) : List PendingOperation :=
  ops.filter PendingOperation.isBackground

/-- The polls that a control operation for the device leaves queued. -/
def otherPolls (deviceId : String) (ops : List PendingOperation) : List PendingOperation :=
  (polls ops).filter fun op => !op.isFor .requestStatus deviceId

/-- After a control request for a device no status poll of the device is queued, and every other
poll is where it was; a 1W request touches no poll. -/
structure DropsStalePoll (q : OperationQueue) (c : Call) : Prop where
  dropped : ∀ deviceId ∈ controlledDevice c, ∀ op ∈ (call q c).1.ops,
    ¬(op.type = .requestStatus ∧ op.deviceId = deviceId)
  untouched : ∀ deviceId ∈ controlledDevice c,
    otherPolls deviceId (call q c).1.ops = otherPolls deviceId q.ops
  oneway : isOneway c = true → polls (call q c).1.ops = polls q.ops

/-- A queue holds an operation of the type for the device. -/
def Holds (type : PendingOperationType) (deviceId : String) (q : OperationQueue) : Prop :=
  ∃ op ∈ q.ops, op.isFor type deviceId = true

/-- The request finds an entry to be coalesced into while a status poll of its device is queued. -/
def CoalescesBesidePoll (q : OperationQueue) : Call → Prop
  | .setPosition deviceId _ => Holds .setTilt deviceId q ∧ Holds .requestStatus deviceId q
  | .setTilt deviceId _ => Holds .setPosition deviceId q ∧ Holds .requestStatus deviceId q
  | _ => False

theorem pushControl_polls (q : OperationQueue) {op : PendingOperation}
    (control : op.isBackground = false) :
    polls (q.pushControl op control).ops = polls (OperationQueue.dropStalePoll op q.ops) :=
  filter_insertBefore control _

/-- A pushed control operation leaves the other polls. -/
theorem pushControl_drops (q : OperationQueue) {op : PendingOperation}
    (control : op.isBackground = false) (haddresses : addressesADevice op.type = true) :
    polls (q.pushControl op control).ops = otherPolls op.deviceId q.ops := by
  rw [pushControl_polls, OperationQueue.dropStalePoll, if_pos haddresses, polls, otherPolls, polls,
    List.filter_filter, List.filter_filter]
  simp only [Bool.and_comm]

/-- A pushed 1W operation leaves all polls, whatever its handle is. -/
theorem pushControl_oneway (q : OperationQueue) {op : PendingOperation}
    (control : op.isBackground = false) (haddresses : addressesADevice op.type = false) :
    polls (q.pushControl op control).ops = polls q.ops := by
  rw [pushControl_polls, OperationQueue.dropStalePoll, haddresses]
  rfl

/-- A coalesced request leaves all polls. -/
theorem coalesce_polls {q q' : OperationQueue} {type : PendingOperationType} {deviceId : String}
    {combine : PendingOperation → PendingOperation} {control : isBackgroundOp type = false}
    {combined : ∀ op, (combine op).isBackground = false}
    (h : q.coalesce type deviceId combine control combined = some q') :
    polls q'.ops = polls q.ops := by
  have hedit := q.coalesce_ops type deviceId combine control combined
  rw [h, Option.map_some, eq_comm] at hedit
  refine filter_of_editFirst ?_ (fun op _ => combined op) hedit
  intro op hop
  rw [PendingOperation.isBackground, (PendingOperation.isFor_iff.mp hop).1, control]

theorem coalesce_eq_none_iff {q : OperationQueue} {type : PendingOperationType} {deviceId : String}
    {combine : PendingOperation → PendingOperation} {control : isBackgroundOp type = false}
    {combined : ∀ op, (combine op).isBackground = false} :
    q.coalesce type deviceId combine control combined = none ↔ ¬Holds type deviceId q := by
  rw [← Option.map_eq_none_iff (f := OperationQueue.ops), OperationQueue.coalesce_ops,
    editFirst_eq_none_iff]
  simp [Holds]

theorem holds_of_coalesce {q q' : OperationQueue} {type : PendingOperationType} {deviceId : String}
    {combine : PendingOperation → PendingOperation} {control : isBackgroundOp type = false}
    {combined : ∀ op, (combine op).isBackground = false}
    (h : q.coalesce type deviceId combine control combined = some q') : Holds type deviceId q := by
  by_contra hnone
  rw [coalesce_eq_none_iff.mpr hnone] at h
  cases h

theorem mem_polls_of_requestStatus {ops : List PendingOperation}
    {op : PendingOperation} (hop : op ∈ ops) (htype : op.type = .requestStatus) :
    op ∈ polls ops := by
  refine List.mem_filter.mpr ⟨hop, ?_⟩
  rw [PendingOperation.isBackground, htype, isBackgroundOp]

section

variable {q : OperationQueue} {c : Call} {deviceId : String}
  (hdevice : controlledDevice c = some deviceId)
include hdevice

theorem not_oneway_of_controlledDevice : isOneway c = false := by
  cases c <;> first | rfl | cases hdevice

/-- A request that leaves the other polls of its device drops the stale one. -/
theorem drops_of_polls (h : polls (call q c).1.ops = otherPolls deviceId q.ops) :
    DropsStalePoll q c := by
  refine ⟨?_, ?_, fun honeway => ?_⟩
  · intro d hd op hop hstatus
    obtain rfl : deviceId = d := Option.some.inj (hdevice.symm.trans hd)
    have hpoll := mem_polls_of_requestStatus hop hstatus.1
    rw [h] at hpoll
    have hother := (List.mem_filter.mp hpoll).2
    rw [PendingOperation.isFor_iff.mpr hstatus] at hother
    cases hother
  · intro d hd
    obtain rfl : deviceId = d := Option.some.inj (hdevice.symm.trans hd)
    rw [otherPolls, h, otherPolls, List.filter_filter]
    simp only [Bool.and_self]
  · rw [not_oneway_of_controlledDevice hdevice] at honeway
    cases honeway

/-- A request that leaves all polls is right about them exactly when none was stale. -/
theorem drops_iff_of_polls (h : polls (call q c).1.ops = polls q.ops) :
    DropsStalePoll q c ↔ ¬Holds .requestStatus deviceId q := by
  constructor
  · rintro hdrops ⟨op, hop, hstatus⟩
    rw [PendingOperation.isFor_iff] at hstatus
    have hpoll := mem_polls_of_requestStatus hop hstatus.1
    rw [← h] at hpoll
    exact hdrops.dropped deviceId hdevice op (List.mem_of_mem_filter hpoll) hstatus
  · intro hnone
    refine drops_of_polls hdevice (h.trans (List.filter_eq_self.mpr fun op hop => ?_).symm)
    rw [Bool.not_eq_true', Bool.eq_false_iff]
    intro hstatus
    exact hnone ⟨op, List.mem_of_mem_filter hop, hstatus⟩

end

/-- A 1W request is right about the polls when it leaves them all. -/
theorem drops_of_oneway {q : OperationQueue} {c : Call} (honeway : isOneway c = true)
    (h : polls (call q c).1.ops = polls q.ops) : DropsStalePoll q c := by
  have hnone : controlledDevice c = none := by cases c <;> first | rfl | cases honeway
  refine ⟨?_, ?_, fun _ => h⟩ <;>
  · intro d hd
    rw [hnone] at hd
    cases hd

/-- A request that is coalesced if it finds an entry, and pushed otherwise. -/
theorem coalescing_drops_iff {q : OperationQueue} {c : Call} (op : PendingOperation)
    {into : PendingOperationType} {combine : PendingOperation → PendingOperation}
    {into_control : isBackgroundOp into = false}
    {combined : ∀ op, (combine op).isBackground = false} {control : op.isBackground = false}
    (hdevice : controlledDevice c = some op.deviceId) (haddresses : addressesADevice op.type = true)
    (hcall : (call q c).1 = (q.coalesce into op.deviceId combine into_control combined).getD
      (q.pushControl op control)) :
    DropsStalePoll q c ↔ ¬(Holds into op.deviceId q ∧ Holds .requestStatus op.deviceId q) := by
  rw [not_and]
  cases hq : q.coalesce into op.deviceId combine into_control combined with
  | none =>
    refine iff_of_true (drops_of_polls hdevice ?_) fun hheld =>
      absurd hheld (coalesce_eq_none_iff.mp hq)
    rw [hcall, hq]
    exact pushControl_drops q control haddresses
  | some q' =>
    rw [imp_iff_right (holds_of_coalesce hq)]
    refine drops_iff_of_polls hdevice ?_
    rw [hcall, hq]
    exact coalesce_polls hq

/-- A call is right about the polls unless it coalesces beside a status poll of its device. -/
theorem call_drops_iff (q : OperationQueue) (c : Call) :
    DropsStalePoll q c ↔ ¬CoalescesBesidePoll q c := by
  have hpush : ∀ {c : Call} {op : PendingOperation} (control : op.isBackground = false),
      controlledDevice c = some op.deviceId → addressesADevice op.type = true →
      (call q c).1 = q.pushControl op control → (DropsStalePoll q c ↔ ¬False) := by
    intro c op control hdevice haddresses hcall
    refine iff_of_true (drops_of_polls hdevice ?_) not_false
    rw [hcall]
    exact pushControl_drops q control haddresses
  have honeway : ∀ {c : Call} {op : PendingOperation} (control : op.isBackground = false),
      isOneway c = true → addressesADevice op.type = false →
      (call q c).1 = q.pushControl op control → (DropsStalePoll q c ↔ ¬False) := by
    intro c op control hc haddresses hcall
    refine iff_of_true (drops_of_oneway hc ?_) not_false
    rw [hcall]
    exact pushControl_oneway q control haddresses
  have hother : ∀ {c : Call}, controlledDevice c = none → isOneway c = false →
      (DropsStalePoll q c ↔ ¬False) := by
    intro c hdevice hc
    refine iff_of_true ⟨?_, ?_, ?_⟩ not_false <;> simp [hdevice, hc]
  cases c with
  | setPosition deviceId position =>
    exact coalescing_drops_iff { type := .setPosition, deviceId, position } rfl rfl
      (enqueueSetPosition_eq q deviceId position)
  | setTilt deviceId tiltPercent =>
    exact coalescing_drops_iff { type := .setTilt, deviceId, position := tiltPercent } rfl rfl
      (enqueueSetTilt_eq q deviceId tiltPercent)
  | setPositionAndTilt | deviceCommand | setLightPosition | setLightState | setLockState
  | setSwitchState => exact hpush rfl rfl rfl rfl
  | onewayCommand | onewayPosition | onewayEnroll | onewayUnenroll => exact honeway rfl rfl rfl rfl
  | requestStatus | requestName | discoverAndPair | pop => exact hother rfl rfl

/-- Along every run the calls are right about the polls exactly as long as none coalesces beside a
status poll of its device. -/
theorem drops_stale_polls_iff (calls : List Call) :
    queueMachine.Along DropsStalePoll .empty calls ↔
      queueMachine.Along (fun q c => ¬CoalescesBesidePoll q c) .empty calls :=
  ⟨fun h => h.weaken queueMachine fun q c => (call_drops_iff q c).mp,
    fun h => h.weaken queueMachine fun q c => (call_drops_iff q c).mpr⟩

/-- A position coalesced into a pending tilt leaves the status poll of its device queued. -/
theorem coalescing_keeps_stale_poll :
    ¬ ∀ calls : List Call, queueMachine.Along DropsStalePoll .empty calls := by
  intro h
  have hpoll := (h [.setTilt "A1B2C3" 50, .requestStatus "A1B2C3", .setPosition "A1B2C3" 30]).2.2.1
  exact absurd (hpoll.dropped "A1B2C3" rfl) (by decide)

end HomeIoControl.StalePolls
