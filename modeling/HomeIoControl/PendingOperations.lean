import HomeIoControl.QueueEdits

/-!
# The pending-operation queue

Control operations run before background polls; a control operation for a device drops its queued
status poll; positions and tilts for one device are coalesced in place.
-/

namespace HomeIoControl.PendingOperations

open QueueEdits

def binaryEntityOnPosition : UInt8 := 0
def binaryEntityOffPosition : UInt8 := 100

inductive CoverCommand where
  | stop
  | favorite
  | vent
  | forceOpen
  deriving DecidableEq, Repr

inductive PendingOperationType where
  | setPosition
  | setTilt
  | setPositionAndTilt
  | deviceCommand
  | setLightState
  | setLockState
  | setSwitchState
  | onewayCommand
  | onewayPosition
  | onewayEnroll
  | onewayUnenroll
  | requestStatus
  | requestName
  | discoverAndPair
  deriving DecidableEq, Repr

/-- One queue entry. For the 1W types `deviceId` holds the handle of a controller identity. -/
structure PendingOperation where
  type : PendingOperationType
  deviceId : String
  position : UInt8 := 0
  tilt : UInt8 := 0
  command : CoverCommand := .stop
  deriving DecidableEq, Repr

def isBackgroundOp : PendingOperationType → Bool
  | .requestStatus => true
  | .requestName => true
  | _ => false

/-- The types whose `deviceId` names a device, so that its reply supersedes a status poll. -/
def addressesADevice : PendingOperationType → Bool
  | .onewayCommand => false
  | .onewayPosition => false
  | .onewayEnroll => false
  | .onewayUnenroll => false
  | _ => true

namespace PendingOperation

def isBackground (op : PendingOperation) : Bool := isBackgroundOp op.type

/-- The entry has the given type and device. -/
def isFor (type : PendingOperationType) (deviceId : String) (op : PendingOperation) : Bool :=
  op.type = type && op.deviceId = deviceId

theorem isFor_iff {type : PendingOperationType} {deviceId : String} {op : PendingOperation} :
    op.isFor type deviceId = true ↔ op.type = type ∧ op.deviceId = deviceId := by
  simp [isFor]

end PendingOperation

/-- Once a background poll is queued, only background polls are queued behind it. -/
def Banded (ops : List PendingOperation) : Prop :=
  ops.Pairwise fun a b => a.isBackground = true → b.isBackground = true

/-- The queue, from its front, with its two bands. -/
structure OperationQueue where
  ops : List PendingOperation
  banded : Banded ops

namespace OperationQueue

def empty : OperationQueue := ⟨[], .nil⟩

/-- The stale-poll drop of `push_control_`. -/
def dropStalePoll (op : PendingOperation) (ops : List PendingOperation) : List PendingOperation :=
  if addressesADevice op.type then
    ops.filter fun existing => !existing.isFor .requestStatus op.deviceId
  else ops

theorem dropStalePoll_banded (op : PendingOperation) {ops : List PendingOperation}
    (h : Banded ops) : Banded (dropStalePoll op ops) := by
  unfold dropStalePoll
  split
  · exact h.filter _
  · exact h

/-- `push_control_`: before the first background entry. -/
def pushControl (q : OperationQueue) (op : PendingOperation) (control : op.isBackground = false) :
    OperationQueue :=
  ⟨insertBefore PendingOperation.isBackground op (dropStalePoll op q.ops),
    insertBefore_banded control (dropStalePoll_banded op q.banded)⟩

/-- A background entry goes to the back. -/
def pushBack (q : OperationQueue) (op : PendingOperation) (background : op.isBackground = true) :
    OperationQueue :=
  ⟨q.ops ++ [op], by
    refine List.pairwise_append.mpr ⟨q.banded, List.pairwise_singleton _ _, ?_⟩
    intro a _ b hb _
    rw [List.mem_singleton.mp hb]
    exact background⟩

/-- Edit the first entry of a control type for the device into the combined operation. -/
def coalesce (q : OperationQueue) (type : PendingOperationType) (deviceId : String)
    (combine : PendingOperation → PendingOperation)
    (control : isBackgroundOp type = false)
    (combined : ∀ op, (combine op).isBackground = false) : Option OperationQueue :=
  match h : editFirst (PendingOperation.isFor type deviceId) combine q.ops with
  | none => none
  | some ops => some ⟨ops, editFirst_pairwise
      (fun op b _ _ hb => by simp [combined op] at hb)
      (fun a op hop hab ha => by
        have hback := hab ha
        rw [PendingOperation.isBackground, (PendingOperation.isFor_iff.mp hop).1, control] at hback
        cases hback) h q.banded⟩

/-- The pending tilt, which SET_TILT stores as its position, becomes a combined operation. -/
def withPosition (position : UInt8) (op : PendingOperation) : PendingOperation :=
  { op with type := .setPositionAndTilt, position := position, tilt := op.position }

def withTilt (tiltPercent : UInt8) (op : PendingOperation) : PendingOperation :=
  { op with type := .setPositionAndTilt, tilt := tiltPercent }

/-- `enqueue_set_position`, and whether it was coalesced. -/
def enqueueSetPosition (q : OperationQueue) (deviceId : String) (position : UInt8) :
    OperationQueue × Bool :=
  match q.coalesce .setTilt deviceId (withPosition position) rfl fun _ => rfl with
  | some q => (q, true)
  | none => (q.pushControl { type := .setPosition, deviceId, position } rfl, false)

/-- `enqueue_set_tilt`, and whether it was coalesced. -/
def enqueueSetTilt (q : OperationQueue) (deviceId : String) (tiltPercent : UInt8) :
    OperationQueue × Bool :=
  match q.coalesce .setPosition deviceId (withTilt tiltPercent) rfl fun _ => rfl with
  | some q => (q, true)
  | none => (q.pushControl { type := .setTilt, deviceId, position := tiltPercent } rfl, false)

def enqueueSetPositionAndTilt (q : OperationQueue) (deviceId : String)
    (position tiltPercent : UInt8) : OperationQueue :=
  q.pushControl { type := .setPositionAndTilt, deviceId, position, tilt := tiltPercent } rfl

def enqueueDeviceCommand (q : OperationQueue) (deviceId : String) (command : CoverCommand) :
    OperationQueue :=
  q.pushControl { type := .deviceCommand, deviceId, command } rfl

def enqueueOnewayCommand (q : OperationQueue) (controllerId : String) (command : CoverCommand) :
    OperationQueue :=
  q.pushControl { type := .onewayCommand, deviceId := controllerId, command } rfl

def enqueueOnewayPosition (q : OperationQueue) (controllerId : String) (position : UInt8) :
    OperationQueue :=
  q.pushControl { type := .onewayPosition, deviceId := controllerId, position } rfl

def enqueueOnewayEnroll (q : OperationQueue) (controllerId : String) : OperationQueue :=
  q.pushControl { type := .onewayEnroll, deviceId := controllerId } rfl

def enqueueOnewayUnenroll (q : OperationQueue) (controllerId : String) : OperationQueue :=
  q.pushControl { type := .onewayUnenroll, deviceId := controllerId } rfl

def enqueueSetLightPosition (q : OperationQueue) (deviceId : String) (position : UInt8) :
    OperationQueue :=
  q.pushControl { type := .setLightState, deviceId, position } rfl

def enqueueSetLightState (q : OperationQueue) (deviceId : String) (on : Bool) : OperationQueue :=
  q.enqueueSetLightPosition deviceId (if on then binaryEntityOnPosition else binaryEntityOffPosition)

def enqueueSetLockState (q : OperationQueue) (deviceId : String) (locked : Bool) :
    OperationQueue :=
  q.pushControl
    { type := .setLockState
      deviceId := deviceId
      position := if locked then binaryEntityOffPosition else binaryEntityOnPosition } rfl

def enqueueSetSwitchState (q : OperationQueue) (deviceId : String) (on : Bool) : OperationQueue :=
  q.pushControl
    { type := .setSwitchState
      deviceId := deviceId
      position := if on then binaryEntityOnPosition else binaryEntityOffPosition } rfl

/-- A background poll, unless one of its type is queued for the device. -/
def enqueueBackground (q : OperationQueue) (type : PendingOperationType) (deviceId : String)
    (background : isBackgroundOp type = true) : OperationQueue × Bool :=
  if q.ops.any (PendingOperation.isFor type deviceId) then (q, false)
  else (q.pushBack { type, deviceId } background, true)

def enqueueRequestStatus (q : OperationQueue) (deviceId : String) : OperationQueue × Bool :=
  q.enqueueBackground .requestStatus deviceId rfl

def enqueueRequestName (q : OperationQueue) (deviceId : String) : OperationQueue × Bool :=
  q.enqueueBackground .requestName deviceId rfl

/-- `enqueue_discover_and_pair`: flushes the background polls and goes to the front. -/
def enqueueDiscoverAndPair (q : OperationQueue) : OperationQueue × Bool :=
  if q.ops.any (fun op => op.type = .discoverAndPair) then (q, false)
  else (⟨{ type := .discoverAndPair, deviceId := "" } :: q.ops.filter (fun op => !op.isBackground),
    List.pairwise_cons.mpr ⟨fun _ _ h => (nomatch h), q.banded.filter _⟩⟩, true)

def pop (q : OperationQueue) : OperationQueue × Option PendingOperation :=
  (⟨q.ops.tail, q.banded.sublist (List.tail_sublist _)⟩, q.ops.head?)

theorem pop_ops (q : OperationQueue) : q.pop.2.toList ++ q.pop.1.ops = q.ops := by
  obtain ⟨ops, h⟩ := q
  cases ops <;> rfl

theorem coalesce_ops (q : OperationQueue) (type : PendingOperationType) (deviceId : String)
    (combine : PendingOperation → PendingOperation) (control : isBackgroundOp type = false)
    (combined : ∀ op, (combine op).isBackground = false) :
    (q.coalesce type deviceId combine control combined).map ops =
      editFirst (PendingOperation.isFor type deviceId) combine q.ops := by
  unfold coalesce
  split <;> next h => exact h.symm

end OperationQueue

end HomeIoControl.PendingOperations
