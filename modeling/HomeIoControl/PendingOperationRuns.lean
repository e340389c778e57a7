import HomeIoControl.MachineRuns
import HomeIoControl.PendingOperations

/-!
# What a queue commands its devices

The operations that a device receives leave behind a motion and a tilt. In-place coalescing moves
a request ahead of everything queued behind the edited entry, which is harmless exactly when
nothing behind it commands something else.
-/

namespace HomeIoControl.PendingOperationRuns

open MachineRuns PendingOperations QueueEdits

/-- The calls on the queue. -/
inductive Call where
  | setPosition (deviceId : String) (position : UInt8)
  | setTilt (deviceId : String) (tiltPercent : UInt8)
  | setPositionAndTilt (deviceId : String) (position tiltPercent : UInt8)
  | deviceCommand (deviceId : String) (command : CoverCommand)
  | setLightPosition (deviceId : String) (position : UInt8)
  | setLightState (deviceId : String) (on : Bool)
  | setLockState (deviceId : String) (locked : Bool)
  | setSwitchState (deviceId : String) (on : Bool)
  | onewayCommand (controllerId : String) (command : CoverCommand)
  | onewayPosition (controllerId : String) (position : UInt8)
  | onewayEnroll (controllerId : String)
  | onewayUnenroll (controllerId : String)
  | requestStatus (deviceId : String)
  | requestName (deviceId : String)
  | discoverAndPair
  | pop
  deriving DecidableEq

/-- One call on the queue, with what it pops. -/
def call (q : OperationQueue) : Call → OperationQueue × List PendingOperation
  | .setPosition deviceId position => ((q.enqueueSetPosition deviceId position).1, [])
  | .setTilt deviceId tiltPercent => ((q.enqueueSetTilt deviceId tiltPercent).1, [])
  | .setPositionAndTilt deviceId position tiltPercent =>
    (q.enqueueSetPositionAndTilt deviceId position tiltPercent, [])
  | .deviceCommand deviceId command => (q.enqueueDeviceCommand deviceId command, [])
  | .setLightPosition deviceId position => (q.enqueueSetLightPosition deviceId position, [])
  | .setLightState deviceId on => (q.enqueueSetLightState deviceId on, [])
  | .setLockState deviceId locked => (q.enqueueSetLockState deviceId locked, [])
  | .setSwitchState deviceId on => (q.enqueueSetSwitchState deviceId on, [])
  | .onewayCommand controllerId command => (q.enqueueOnewayCommand controllerId command, [])
  | .onewayPosition controllerId position => (q.enqueueOnewayPosition controllerId position, [])
  | .onewayEnroll controllerId => (q.enqueueOnewayEnroll controllerId, [])
  | .onewayUnenroll controllerId => (q.enqueueOnewayUnenroll controllerId, [])
  | .requestStatus deviceId => ((q.enqueueRequestStatus deviceId).1, [])
  | .requestName deviceId => ((q.enqueueRequestName deviceId).1, [])
  | .discoverAndPair => ((q.enqueueDiscoverAndPair).1, [])
  | .pop => (q.pop.1, q.pop.2.toList)

def queueMachine : Machine OperationQueue Call PendingOperation := ⟨call⟩

/-- A motion that a device is commanded: a position, or a named command. -/
inductive Motion where
  | position (position : UInt8)
  | command (command : CoverCommand)
  deriving DecidableEq

/-- The motion in effect and the last tilt, as far as any was commanded. -/
structure Commanded where
  motion : Option Motion
  tilt : Option UInt8
  deriving DecidableEq

/-- The motion that an operation commands. -/
def motionOf (deviceId : String) (op : PendingOperation) : Option Motion :=
  if op.deviceId = deviceId then
    match op.type with
    | .setPosition | .setPositionAndTilt | .setLightState | .setLockState | .setSwitchState =>
      some (.position op.position)
    | .deviceCommand => some (.command op.command)
    | _ => none
  else none

/-- The tilt that an operation commands; a standalone SET_TILT stores it as its position. -/
def tiltOf (deviceId : String) (op : PendingOperation) : Option UInt8 :=
  if op.deviceId = deviceId then
    match op.type with
    | .setTilt => some op.position
    | .setPositionAndTilt => some op.tilt
    | _ => none
  else none

/-- What a device is commanded once it has received the operations in order. -/
def commandedBy (deviceId : String) (ops : List PendingOperation) : Commanded :=
  ⟨lastAssigned (motionOf deviceId) ops, lastAssigned (tiltOf deviceId) ops⟩

/-- The operation that the user asked for. -/
def requested : Call → Option PendingOperation
  | .setPosition deviceId position => some { type := .setPosition, deviceId, position }
  | .setTilt deviceId tiltPercent => some { type := .setTilt, deviceId, position := tiltPercent }
  | .setPositionAndTilt deviceId position tiltPercent =>
    some { type := .setPositionAndTilt, deviceId, position, tilt := tiltPercent }
  | .deviceCommand deviceId command => some { type := .deviceCommand, deviceId, command }
  | .setLightPosition deviceId position => some { type := .setLightState, deviceId, position }
  | .setLightState deviceId on =>
    let position := if on then binaryEntityOnPosition else binaryEntityOffPosition
    some { type := .setLightState, deviceId, position }
  | .setLockState deviceId locked =>
    let position := if locked then binaryEntityOffPosition else binaryEntityOnPosition
    some { type := .setLockState, deviceId, position }
  | .setSwitchState deviceId on =>
    let position := if on then binaryEntityOnPosition else binaryEntityOffPosition
    some { type := .setSwitchState, deviceId, position }
  | _ => none

/-- What the device is commanded by the requests in the order of their arrival. -/
def arrivalState (deviceId : String) (calls : List Call) : Commanded :=
  commandedBy deviceId (calls.filterMap requested)

/-- What the device is commanded by the operations as they are popped, the queue drained. -/
def drainedState (deviceId : String) (calls : List Call) : Commanded :=
  commandedBy deviceId (queueMachine.outputs .empty calls ++ (queueMachine.run .empty calls).ops)

/-- A request that would be coalesced finds nothing behind the edited entry that commands the
device otherwise. -/
def CoalescesSafely (deviceId : String) (q : OperationQueue) : Call → Prop
  | .setPosition d position => d = deviceId →
    ∀ motion ∈ lastAssigned (motionOf deviceId)
      (behindFirst (PendingOperation.isFor .setTilt deviceId) q.ops), motion = .position position
  | .setTilt d tiltPercent => d = deviceId →
    ∀ tilt ∈ lastAssigned (tiltOf deviceId)
      (behindFirst (PendingOperation.isFor .setPosition deviceId) q.ops), tilt = tiltPercent
  | _ => True

theorem enqueueSetPosition_eq (q : OperationQueue) (deviceId : String) (position : UInt8) :
    (q.enqueueSetPosition deviceId position).1 =
      (q.coalesce .setTilt deviceId (OperationQueue.withPosition position) rfl fun _ => rfl).getD
        (q.pushControl { type := .setPosition, deviceId, position } rfl) := by
  unfold OperationQueue.enqueueSetPosition
  split <;> next hq => rw [hq]; rfl

theorem enqueueSetTilt_eq (q : OperationQueue) (deviceId : String) (tiltPercent : UInt8) :
    (q.enqueueSetTilt deviceId tiltPercent).1 =
      (q.coalesce .setPosition deviceId (OperationQueue.withTilt tiltPercent) rfl fun _ => rfl).getD
        (q.pushControl { type := .setTilt, deviceId, position := tiltPercent } rfl) := by
  unfold OperationQueue.enqueueSetTilt
  split <;> next hq => rw [hq]; rfl

/-- An assignment that background polls never make. -/
def Foreground {β : Type} (f : PendingOperation → Option β) : Prop :=
  ∀ op, op.isBackground = true → f op = none

theorem motionOf_foreground (deviceId : String) : Foreground (motionOf deviceId) := by
  rintro ⟨type, d, position, tilt, command⟩ h
  cases type <;> simp_all [motionOf, PendingOperation.isBackground, isBackgroundOp]

theorem tiltOf_foreground (deviceId : String) : Foreground (tiltOf deviceId) := by
  rintro ⟨type, d, position, tilt, command⟩ h
  cases type <;> simp_all [tiltOf, PendingOperation.isBackground, isBackgroundOp]

variable {β : Type} {f : PendingOperation → Option β} (hf : Foreground f)
include hf

theorem lastAssigned_dropStalePoll (op : PendingOperation) (ops : List PendingOperation) :
    lastAssigned f (OperationQueue.dropStalePoll op ops) = lastAssigned f ops := by
  unfold OperationQueue.dropStalePoll
  split
  · refine lastAssigned_filter (fun existing h => hf existing ?_) ops
    rw [Bool.not_eq_false', PendingOperation.isFor_iff] at h
    rw [PendingOperation.isBackground, h.1, isBackgroundOp]
  · rfl

theorem lastAssigned_pushControl (q : OperationQueue) {op : PendingOperation}
    (control : op.isBackground = false) :
    lastAssigned f (q.pushControl op control).ops = (f op).or (lastAssigned f q.ops) := by
  rw [OperationQueue.pushControl, lastAssigned_insertBefore
    (OperationQueue.dropStalePoll_banded op q.banded) hf, lastAssigned_dropStalePoll hf]

theorem lastAssigned_enqueueBackground (q : OperationQueue) {type : PendingOperationType}
    {deviceId : String} (background : isBackgroundOp type = true) :
    lastAssigned f (q.enqueueBackground type deviceId background).1.ops =
      lastAssigned f q.ops := by
  unfold OperationQueue.enqueueBackground
  split
  · rfl
  · simp [OperationQueue.pushBack, hf { type, deviceId } background]

theorem lastAssigned_enqueueDiscoverAndPair (q : OperationQueue)
    (hpair : f { type := .discoverAndPair, deviceId := "" } = none) :
    lastAssigned f q.enqueueDiscoverAndPair.1.ops = lastAssigned f q.ops := by
  unfold OperationQueue.enqueueDiscoverAndPair
  split
  · rfl
  · rw [lastAssigned_cons, hpair, Option.or_none]
    exact lastAssigned_filter (fun op h => hf op (by simpa using h)) q.ops

omit hf

variable {deviceId : String}

theorem commandedBy_append (xs ys : List PendingOperation) : commandedBy deviceId (xs ++ ys) =
    ⟨(commandedBy deviceId ys).motion.or (commandedBy deviceId xs).motion,
      (commandedBy deviceId ys).tilt.or (commandedBy deviceId xs).tilt⟩ := by
  simp [commandedBy]

theorem commandedBy_pushControl (q : OperationQueue) {op : PendingOperation}
    (control : op.isBackground = false) :
    commandedBy deviceId (q.pushControl op control).ops =
      commandedBy deviceId (q.ops ++ [op]) := by
  simp [commandedBy, lastAssigned_pushControl (motionOf_foreground deviceId),
    lastAssigned_pushControl (tiltOf_foreground deviceId)]

theorem commandedBy_enqueueBackground (q : OperationQueue) {type : PendingOperationType}
    {x : String} (background : isBackgroundOp type = true) :
    commandedBy deviceId (q.enqueueBackground type x background).1.ops =
      commandedBy deviceId q.ops := by
  simp only [commandedBy, lastAssigned_enqueueBackground (motionOf_foreground deviceId),
    lastAssigned_enqueueBackground (tiltOf_foreground deviceId)]

theorem commandedBy_enqueueDiscoverAndPair (q : OperationQueue) :
    commandedBy deviceId q.enqueueDiscoverAndPair.1.ops = commandedBy deviceId q.ops := by
  rw [commandedBy, commandedBy,
    lastAssigned_enqueueDiscoverAndPair (motionOf_foreground deviceId) q (by simp [motionOf]),
    lastAssigned_enqueueDiscoverAndPair (tiltOf_foreground deviceId) q (by simp [tiltOf])]

/-- Coalescing edits one entry of the type in place. -/
theorem exists_of_coalesce {q q' : OperationQueue} {type : PendingOperationType} {x : String}
    {combine : PendingOperation → PendingOperation} {control : isBackgroundOp type = false}
    {combined : ∀ op, (combine op).isBackground = false}
    (h : q.coalesce type x combine control combined = some q') :
    ∃ pre op, op.type = type ∧ op.deviceId = x ∧
      q.ops = pre ++ op :: behindFirst (PendingOperation.isFor type x) q.ops ∧
      q'.ops = pre ++ combine op :: behindFirst (PendingOperation.isFor type x) q.ops := by
  have hedit := q.coalesce_ops type x combine control combined
  rw [h, Option.map_some, eq_comm] at hedit
  obtain ⟨pre, op, hop, hq, hq'⟩ := editFirst_eq_some hedit
  obtain ⟨htype, hdevice⟩ := PendingOperation.isFor_iff.mp hop
  exact ⟨pre, op, htype, hdevice, hq, hq'⟩

theorem lastAssigned_edited {f : PendingOperation → Option β} {pre behind : List PendingOperation}
    {op op' : PendingOperation} (h : f op' = f op) :
    lastAssigned f (pre ++ op' :: behind) = lastAssigned f (pre ++ op :: behind) := by
  simp [h]

/-- A coalesced position keeps the tilt and comes before the motions behind the edited entry. -/
theorem commandedBy_withPosition {q q' : OperationQueue} {position : UInt8}
    (h : q.coalesce .setTilt deviceId (OperationQueue.withPosition position) rfl (fun _ => rfl) =
      some q') :
    commandedBy deviceId q'.ops =
      ⟨(lastAssigned (motionOf deviceId) (behindFirst (PendingOperation.isFor .setTilt deviceId)
        q.ops)).or (some (.position position)), (commandedBy deviceId q.ops).tilt⟩ := by
  obtain ⟨pre, op, htype, hdevice, hq, hq'⟩ := exists_of_coalesce h
  have hmotion : motionOf deviceId (OperationQueue.withPosition position op) =
      some (.position position) := by simp [motionOf, OperationQueue.withPosition, hdevice]
  have htilt : tiltOf deviceId (OperationQueue.withPosition position op) = tiltOf deviceId op := by
    simp [tiltOf, OperationQueue.withPosition, hdevice, htype]
  simp only [commandedBy, hq', lastAssigned_edited htilt, ← hq]
  simp [hmotion]

/-- A coalesced tilt keeps the motion and comes before the tilts behind the edited entry. -/
theorem commandedBy_withTilt {q q' : OperationQueue} {tiltPercent : UInt8}
    (h : q.coalesce .setPosition deviceId (OperationQueue.withTilt tiltPercent) rfl
      (fun _ => rfl) = some q') :
    commandedBy deviceId q'.ops =
      ⟨(commandedBy deviceId q.ops).motion, (lastAssigned (tiltOf deviceId)
        (behindFirst (PendingOperation.isFor .setPosition deviceId) q.ops)).or
          (some tiltPercent)⟩ := by
  obtain ⟨pre, op, htype, hdevice, hq, hq'⟩ := exists_of_coalesce h
  have htilt : tiltOf deviceId (OperationQueue.withTilt tiltPercent op) = some tiltPercent := by
    simp [tiltOf, OperationQueue.withTilt, hdevice]
  have hmotion : motionOf deviceId (OperationQueue.withTilt tiltPercent op) =
      motionOf deviceId op := by simp [motionOf, OperationQueue.withTilt, hdevice, htype]
  simp only [commandedBy, hq', lastAssigned_edited hmotion, ← hq]
  simp [htilt]

/-- Coalescing for one device is not seen by another. -/
theorem commandedBy_coalesce_other {q q' : OperationQueue} {type : PendingOperationType}
    {x : String} (hx : x ≠ deviceId) (combine : PendingOperation → PendingOperation)
    {control : isBackgroundOp type = false} {combined : ∀ op, (combine op).isBackground = false}
    (hcombine : ∀ op, (combine op).deviceId = op.deviceId)
    (h : q.coalesce type x combine control combined = some q') :
    commandedBy deviceId q'.ops = commandedBy deviceId q.ops := by
  obtain ⟨pre, op, -, hdevice, hq, hq'⟩ := exists_of_coalesce h
  have hmotion : motionOf deviceId (combine op) = motionOf deviceId op := by
    simp [motionOf, hcombine, hdevice, hx]
  have htilt : tiltOf deviceId (combine op) = tiltOf deviceId op := by
    simp [tiltOf, hcombine, hdevice, hx]
  rw [commandedBy, hq', lastAssigned_edited hmotion, lastAssigned_edited htilt, ← hq]
  rfl

/-- What the queue commands alone decides what it commands behind popped operations. -/
theorem commandedBy_behind (popped : List PendingOperation) {ops ops' : List PendingOperation}
    (h : commandedBy deviceId ops' = commandedBy deviceId ops) :
    commandedBy deviceId (popped ++ ops') = commandedBy deviceId (popped ++ ops) := by
  rw [commandedBy_append, commandedBy_append, h]

theorem behindFirst_of_coalesce_eq_none {q : OperationQueue} {type : PendingOperationType}
    {x : String} {combine : PendingOperation → PendingOperation}
    {control : isBackgroundOp type = false} {combined : ∀ op, (combine op).isBackground = false}
    (h : q.coalesce type x combine control combined = none) :
    behindFirst (PendingOperation.isFor type x) q.ops = [] := by
  have hedit := q.coalesce_ops type x combine control combined
  rw [h, Option.map_none, eq_comm] at hedit
  exact behindFirst_of_editFirst_eq_none hedit

private theorem setPosition_call (popped : List PendingOperation) (q : OperationQueue)
    (x : String) (position : UInt8) :
    commandedBy deviceId (popped ++ (q.enqueueSetPosition x position).1.ops) =
      commandedBy deviceId (popped ++ (q.ops ++
        [{ type := .setPosition, deviceId := x, position }])) ↔
    CoalescesSafely deviceId q (.setPosition x position) := by
  unfold OperationQueue.enqueueSetPosition
  split
  · next q' hq' =>
    by_cases hx : x = deviceId
    · subst hx
      rw [commandedBy_append, commandedBy_append, commandedBy_append, commandedBy_withPosition hq']
      cases hlast : lastAssigned (motionOf x) (behindFirst (PendingOperation.isFor .setTilt x)
          q.ops) <;>
        simp [CoalescesSafely, hlast, commandedBy, motionOf, tiltOf]
    · refine iff_of_true (commandedBy_behind popped ?_) fun h => absurd h hx
      rw [commandedBy_coalesce_other hx (OperationQueue.withPosition position)
        (fun _ => rfl) hq', commandedBy_append]
      simp [commandedBy, motionOf, tiltOf, hx]
  · next hnone =>
    refine iff_of_true (commandedBy_behind popped (commandedBy_pushControl q rfl)) ?_
    rintro rfl
    simp [behindFirst_of_coalesce_eq_none hnone]

private theorem setTilt_call (popped : List PendingOperation) (q : OperationQueue)
    (x : String) (tiltPercent : UInt8) :
    commandedBy deviceId (popped ++ (q.enqueueSetTilt x tiltPercent).1.ops) =
      commandedBy deviceId (popped ++ (q.ops ++
        [{ type := .setTilt, deviceId := x, position := tiltPercent }])) ↔
    CoalescesSafely deviceId q (.setTilt x tiltPercent) := by
  unfold OperationQueue.enqueueSetTilt
  split
  · next q' hq' =>
    by_cases hx : x = deviceId
    · subst hx
      rw [commandedBy_append, commandedBy_append, commandedBy_append, commandedBy_withTilt hq']
      cases hlast : lastAssigned (tiltOf x) (behindFirst (PendingOperation.isFor .setPosition x)
          q.ops) <;>
        simp [CoalescesSafely, hlast, commandedBy, motionOf, tiltOf]
    · refine iff_of_true (commandedBy_behind popped ?_) fun h => absurd h hx
      rw [commandedBy_coalesce_other hx (OperationQueue.withTilt tiltPercent)
        (fun _ => rfl) hq', commandedBy_append]
      simp [commandedBy, motionOf, tiltOf, hx]
  · next hnone =>
    refine iff_of_true (commandedBy_behind popped (commandedBy_pushControl q rfl)) ?_
    rintro rfl
    simp [behindFirst_of_coalesce_eq_none hnone]

/-- Operations of a controller identity command no device. -/
private theorem commandedBy_oneway (q : OperationQueue) {op : PendingOperation}
    (control : op.isBackground = false) (hmotion : motionOf deviceId op = none)
    (htilt : tiltOf deviceId op = none) :
    commandedBy deviceId (q.pushControl op control).ops = commandedBy deviceId q.ops := by
  rw [commandedBy_pushControl, commandedBy_append]
  simp [commandedBy, hmotion, htilt]

/-- Behind what was popped before, one call commands what the request adds exactly when it does
not coalesce past something else. -/
theorem commandedBy_call (popped : List PendingOperation) (q : OperationQueue) (c : Call) :
    commandedBy deviceId (popped ++ (call q c).2 ++ (call q c).1.ops) =
      commandedBy deviceId (popped ++ q.ops ++ (requested c).toList) ↔
    CoalescesSafely deviceId q c := by
  rw [List.append_assoc, List.append_assoc]
  have hpush : ∀ {op : PendingOperation} (control : op.isBackground = false),
      commandedBy deviceId (popped ++ ([] ++ (q.pushControl op control).ops)) =
        commandedBy deviceId (popped ++ (q.ops ++ [op])) :=
    fun control => commandedBy_behind popped (commandedBy_pushControl q control)
  have hkeep : ∀ {ops : List PendingOperation}, commandedBy deviceId ops =
      commandedBy deviceId q.ops → commandedBy deviceId (popped ++ ([] ++ ops)) =
        commandedBy deviceId (popped ++ (q.ops ++ [])) := by
    intro ops h
    rw [List.append_nil]
    exact commandedBy_behind popped h
  have honeway : ∀ {op : PendingOperation} (control : op.isBackground = false),
      motionOf deviceId op = none → tiltOf deviceId op = none →
      commandedBy deviceId (popped ++ ([] ++ (q.pushControl op control).ops)) =
        commandedBy deviceId (popped ++ (q.ops ++ [])) :=
    fun control hmotion htilt => hkeep (commandedBy_oneway q control hmotion htilt)
  cases c with
  | setPosition x position => exact setPosition_call popped q x position
  | setTilt x tiltPercent => exact setTilt_call popped q x tiltPercent
  | setPositionAndTilt x position tiltPercent => exact iff_of_true (hpush rfl) trivial
  | deviceCommand x command => exact iff_of_true (hpush rfl) trivial
  | setLightPosition x position => exact iff_of_true (hpush rfl) trivial
  | setLightState x on => exact iff_of_true (hpush rfl) trivial
  | setLockState x locked => exact iff_of_true (hpush rfl) trivial
  | setSwitchState x on => exact iff_of_true (hpush rfl) trivial
  | onewayCommand x command =>
    exact iff_of_true (honeway rfl (by simp [motionOf]) (by simp [tiltOf])) trivial
  | onewayPosition x position =>
    exact iff_of_true (honeway rfl (by simp [motionOf]) (by simp [tiltOf])) trivial
  | onewayEnroll x =>
    exact iff_of_true (honeway rfl (by simp [motionOf]) (by simp [tiltOf])) trivial
  | onewayUnenroll x =>
    exact iff_of_true (honeway rfl (by simp [motionOf]) (by simp [tiltOf])) trivial
  | requestStatus x => exact iff_of_true (hkeep (commandedBy_enqueueBackground q rfl)) trivial
  | requestName x => exact iff_of_true (hkeep (commandedBy_enqueueBackground q rfl)) trivial
  | discoverAndPair => exact iff_of_true (hkeep (commandedBy_enqueueDiscoverAndPair q)) trivial
  | pop =>
    refine iff_of_true ?_ trivial
    simp only [call, requested, Option.toList_none, List.append_nil, q.pop_ops]

theorem commandedBy_congr_left {xs ys : List PendingOperation}
    (h : commandedBy deviceId xs = commandedBy deviceId ys) (zs : List PendingOperation) :
    commandedBy deviceId (xs ++ zs) = commandedBy deviceId (ys ++ zs) := by
  rw [commandedBy_append, commandedBy_append, h]

/-- From a state in which the popped and queued operations command what was requested so far. -/
theorem drained_iff_from (popped arrived : List PendingOperation) (q : OperationQueue)
    (h : commandedBy deviceId (popped ++ q.ops) = commandedBy deviceId arrived)
    (calls : List Call) :
    (∀ before after, calls = before ++ after →
      commandedBy deviceId (popped ++ queueMachine.outputs q before ++
        (queueMachine.run q before).ops) =
          commandedBy deviceId (arrived ++ before.filterMap requested)) ↔
    queueMachine.Along (CoalescesSafely deviceId) q calls := by
  induction calls generalizing popped arrived q with
  | nil =>
    refine iff_of_true ?_ trivial
    intro before after heq
    obtain ⟨rfl, -⟩ := List.append_eq_nil_iff.mp heq.symm
    simpa using h
  | cons c calls ih =>
    have hstep : commandedBy deviceId (popped ++ (call q c).2 ++ (call q c).1.ops) =
        commandedBy deviceId (arrived ++ (requested c).toList) ↔ CoalescesSafely deviceId q c := by
      rw [← commandedBy_congr_left h, commandedBy_call]
    have hrequested : ∀ before, (c :: before).filterMap requested =
        (requested c).toList ++ before.filterMap requested := by
      intro before
      cases hc : requested c <;> simp [hc]
    constructor
    · intro hall
      have hsafe := hstep.mp (by simpa [queueMachine, hrequested] using hall [c] calls rfl)
      refine ⟨hsafe, (ih _ _ _ (hstep.mpr hsafe)).mp ?_⟩
      rintro before after rfl
      simpa [queueMachine, hrequested] using hall (c :: before) after rfl
    · rintro ⟨hsafe, halong⟩ before after heq
      cases before with
      | nil => simpa using h
      | cons c' before =>
        obtain ⟨rfl, hcalls⟩ := List.cons.inj heq
        simpa [queueMachine, hrequested] using
          (ih _ _ _ (hstep.mpr hsafe)).mpr halong before after hcalls

/-- At every point of a run the drained queue leaves the device in the state of the requests in
arrival order exactly when no request of the run is coalesced past an operation that commands
the device otherwise. -/
theorem drainedState_eq_arrivalState_iff (deviceId : String) (calls : List Call) :
    (∀ before after, calls = before ++ after →
      drainedState deviceId before = arrivalState deviceId before) ↔
    queueMachine.Along (CoalescesSafely deviceId) .empty calls := by
  have hfrom := @drained_iff_from deviceId [] [] .empty rfl calls
  simpa [drainedState, arrivalState] using hfrom

/-- A position coalesced into the tilt in front of a STOP runs before the STOP. -/
theorem coalescing_reorders_stop : ¬ ∀ (deviceId : String) (calls : List Call),
    drainedState deviceId calls = arrivalState deviceId calls := by
  intro h
  have hstop := h "A1B2C3" [.setTilt "A1B2C3" 50, .deviceCommand "A1B2C3" .stop,
    .setPosition "A1B2C3" 30]
  exact absurd hstop (by decide)

end HomeIoControl.PendingOperationRuns
