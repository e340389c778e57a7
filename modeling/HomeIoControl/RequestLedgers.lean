import HomeIoControl.PendingOperationRuns
import Mathlib.Data.List.Perm.Basic

/-!
# A ledger of the requests in the queue

A ledger numbers the requests in the order of their arrival and keeps, beside every operation, the
requests that it carries out. It is the queue of pending operations with that bookkeeping added:
erasing the requests leaves exactly the queue and what it popped.
-/

namespace HomeIoControl.RequestLedgers

open MachineRuns PendingOperations PendingOperationRuns QueueEdits

/-- An operation that a user's request waits for: a control or a 1W operation. -/
def isControlOp : PendingOperationType → Bool
  | .requestStatus => false
  | .requestName => false
  | .discoverAndPair => false
  | _ => true

/-- A type whose pending entry a later request may be combined into. -/
def isCombinable : PendingOperationType → Bool
  | .setPosition => true
  | .setTilt => true
  | _ => false

/-- What a call does to the queue. -/
inductive Edit where
  | push (op : PendingOperation) (control : isControlOp op.type = true)
      (own : isCombinable op.type = false)
  | combine (into : PendingOperationType) (combined : PendingOperation → PendingOperation)
      (op : PendingOperation) (control : isControlOp op.type = true)
      (combinable : isCombinable into = true)
      (combines : ∀ entry, (combined entry).type = .setPositionAndTilt)
  | poll (type : PendingOperationType) (deviceId : String)
      (background : isBackgroundOp type = true)
  | pair
  | pop

private theorem requestStatus_background : isBackgroundOp .requestStatus = true := rfl

private theorem requestName_background : isBackgroundOp .requestName = true := rfl

def editOf : Call → Edit
  | .setPosition deviceId position =>
    .combine .setTilt (OperationQueue.withPosition position)
      { type := .setPosition, deviceId, position } rfl rfl fun _ => rfl
  | .setTilt deviceId tiltPercent =>
    .combine .setPosition (OperationQueue.withTilt tiltPercent)
      { type := .setTilt, deviceId, position := tiltPercent } rfl rfl fun _ => rfl
  | .setPositionAndTilt deviceId position tiltPercent =>
    .push { type := .setPositionAndTilt, deviceId, position, tilt := tiltPercent } rfl rfl
  | .deviceCommand deviceId command => .push { type := .deviceCommand, deviceId, command } rfl rfl
  | .setLightPosition deviceId position =>
    .push { type := .setLightState, deviceId, position } rfl rfl
  | .setLightState deviceId on =>
    let position := if on then binaryEntityOnPosition else binaryEntityOffPosition
    .push { type := .setLightState, deviceId, position } rfl rfl
  | .setLockState deviceId locked =>
    let position := if locked then binaryEntityOffPosition else binaryEntityOnPosition
    .push { type := .setLockState, deviceId, position } rfl rfl
  | .setSwitchState deviceId on =>
    let position := if on then binaryEntityOnPosition else binaryEntityOffPosition
    .push { type := .setSwitchState, deviceId, position } rfl rfl
  | .onewayCommand controllerId command =>
    .push { type := .onewayCommand, deviceId := controllerId, command } rfl rfl
  | .onewayPosition controllerId position =>
    .push { type := .onewayPosition, deviceId := controllerId, position } rfl rfl
  | .onewayEnroll controllerId => .push { type := .onewayEnroll, deviceId := controllerId } rfl rfl
  | .onewayUnenroll controllerId =>
    .push { type := .onewayUnenroll, deviceId := controllerId } rfl rfl
  | .requestStatus deviceId => .poll .requestStatus deviceId requestStatus_background
  | .requestName deviceId => .poll .requestName deviceId requestName_background
  | .discoverAndPair => .pair
  | .pop => .pop

/-- The request asks for a control operation. -/
def isControl (c : Call) : Bool :=
  match editOf c with
  | .push .. | .combine .. => true
  | _ => false

/-- The operation of a request that never shares an entry: ONEWAY_*, DEVICE_COMMAND, light, lock,
switch and SET_POSITION_AND_TILT. -/
def ownOperation (c : Call) : Option PendingOperation :=
  match editOf c with
  | .push op .. => some op
  | _ => none

/-- A queued operation and the numbered requests that it carries out. -/
structure Entry where
  op : PendingOperation
  requests : List (Call × ℕ)
  deriving DecidableEq

namespace Entry

/-- The entry of a request that shares it with no other. -/
def IsOwn (e : Entry) : Prop := ∃ r ∈ e.requests, (ownOperation r.1).isSome = true

instance (e : Entry) : Decidable e.IsOwn :=
  inferInstanceAs (Decidable (∃ r ∈ e.requests, (ownOperation r.1).isSome = true))

/-- Every request of the one entry arrived before every request of the other, if one of the two
entries is not shared. -/
def Before (a b : Entry) : Prop :=
  a.IsOwn ∨ b.IsOwn → ∀ r ∈ a.requests, ∀ r' ∈ b.requests, r.2 < r'.2

instance (a b : Entry) : Decidable (a.Before b) :=
  inferInstanceAs (Decidable (a.IsOwn ∨ b.IsOwn → ∀ r ∈ a.requests, ∀ r' ∈ b.requests, r.2 < r'.2))

end Entry

/-- What was popped, what is queued, and how many calls were made. -/
structure Ledger where
  popped : List Entry
  queued : List Entry
  arrived : ℕ
  deriving DecidableEq

namespace Ledger

def empty : Ledger := ⟨[], [], 0⟩

/-- Every entry that was ever left to be popped, in the order of the queue. -/
def entries (l : Ledger) : List Entry := l.popped ++ l.queued

/-- The stale poll of a device goes when a control operation for it is pushed. -/
def dropStalePoll (op : PendingOperation) (es : List Entry) : List Entry :=
  if addressesADevice op.type then
    es.filter fun existing => !existing.op.isFor .requestStatus op.deviceId
  else es

def push (l : Ledger) (c : Call) (op : PendingOperation) : List Entry :=
  insertBefore (fun e => e.op.isBackground) ⟨op, [(c, l.arrived)]⟩ (dropStalePoll op l.queued)

/-- The first entry that a request may be combined into takes the request up. -/
def combine (l : Ledger) (c : Call) (into : PendingOperationType)
    (combined : PendingOperation → PendingOperation) (deviceId : String) : Option (List Entry) :=
  editFirst (fun e => e.op.isFor into deviceId)
    (fun e => ⟨combined e.op, e.requests ++ [(c, l.arrived)]⟩) l.queued

def poll (l : Ledger) (type : PendingOperationType) (deviceId : String) : List Entry :=
  if l.queued.any (fun e => e.op.isFor type deviceId) then l.queued
  else l.queued ++ [⟨{ type, deviceId }, []⟩]

def pair (l : Ledger) : List Entry :=
  if l.queued.any (fun e => e.op.type = .discoverAndPair) then l.queued
  else ⟨{ type := .discoverAndPair, deviceId := "" }, []⟩ ::
    l.queued.filter fun e => !e.op.isBackground

/-- The queue after a call that pops nothing. -/
def requeue (l : Ledger) (c : Call) : Edit → List Entry
  | .push op .. => l.push c op
  | .combine into combined op .. => (l.combine c into combined op.deviceId).getD (l.push c op)
  | .poll type deviceId _ => l.poll type deviceId
  | .pair => l.pair
  | .pop => l.queued

def call (l : Ledger) (c : Call) : Ledger :=
  match editOf c with
  | .pop => ⟨l.popped ++ l.queued.head?.toList, l.queued.tail, l.arrived + 1⟩
  | edit => ⟨l.popped, l.requeue c edit, l.arrived + 1⟩

end Ledger

/-- The ledger's machine writes nothing: what was popped is in the ledger. -/
def ledgerMachine : Machine Ledger Call PendingOperation := ⟨fun l c => (l.call c, [])⟩

theorem dropStalePoll_map (op : PendingOperation) (es : List Entry) :
    (Ledger.dropStalePoll op es).map Entry.op =
      OperationQueue.dropStalePoll op (es.map Entry.op) := by
  unfold Ledger.dropStalePoll OperationQueue.dropStalePoll
  split
  · rw [List.filter_map]
    rfl
  · rfl

variable {l : Ledger} {q : OperationQueue} (h : l.queued.map Entry.op = q.ops)
include h

theorem push_map (c : Call) {op : PendingOperation} (control : op.isBackground = false) :
    (l.push c op).map Entry.op = (q.pushControl op control).ops := by
  rw [Ledger.push, map_insertBefore Entry.op, dropStalePoll_map, h]
  rfl

theorem combine_map (c : Call) (into : PendingOperationType) (deviceId : String)
    (combined : PendingOperation → PendingOperation) (control : isBackgroundOp into = false)
    (background : ∀ op, (combined op).isBackground = false) :
    (l.combine c into combined deviceId).map (List.map Entry.op) =
      (q.coalesce into deviceId combined control background).map OperationQueue.ops := by
  rw [OperationQueue.coalesce_ops, ← h, Ledger.combine]
  exact map_editFirst Entry.op (p := PendingOperation.isFor into deviceId) (fun _ => rfl) l.queued

/-- A request that may be combined is combined in the ledger exactly when it is in the queue. -/
theorem combine_getD_map (c : Call) (into : PendingOperationType) (op : PendingOperation)
    (combined : PendingOperation → PendingOperation) (into_control : isBackgroundOp into = false)
    (background : ∀ op, (combined op).isBackground = false) (control : op.isBackground = false) :
    ((l.combine c into combined op.deviceId).getD (l.push c op)).map Entry.op =
      ((q.coalesce into op.deviceId combined into_control background).getD
        (q.pushControl op control)).ops := by
  have hcombine := combine_map h c into op.deviceId combined into_control background
  cases hl : l.combine c into combined op.deviceId <;>
    cases hq : q.coalesce into op.deviceId combined into_control background <;>
    simp only [hl, hq, Option.map_none, Option.map_some, reduceCtorEq, Option.some.injEq]
      at hcombine
  · exact push_map h c control
  · exact hcombine

theorem poll_map (type : PendingOperationType) (deviceId : String)
    (background : isBackgroundOp type = true) :
    (l.poll type deviceId).map Entry.op =
      (q.enqueueBackground type deviceId background).1.ops := by
  have hany : l.queued.any (fun e => e.op.isFor type deviceId) =
      q.ops.any (PendingOperation.isFor type deviceId) := by
    rw [← h, List.any_map]
    rfl
  unfold Ledger.poll OperationQueue.enqueueBackground
  rw [hany]
  split
  · exact h
  · simp [OperationQueue.pushBack, h]

theorem pair_map : l.pair.map Entry.op = q.enqueueDiscoverAndPair.1.ops := by
  have hany : l.queued.any (fun e => e.op.type = .discoverAndPair) =
      q.ops.any fun op => op.type = .discoverAndPair := by
    rw [← h, List.any_map]
    rfl
  unfold Ledger.pair OperationQueue.enqueueDiscoverAndPair
  rw [hany]
  split
  · exact h
  · simp only [← h, List.filter_map, List.map_cons]
    rfl

/-- Without the requests the ledger is the queue, and it popped what the queue popped. -/
theorem call_erases (c : Call) : (l.call c).queued.map Entry.op = (call q c).1.ops ∧
    (l.call c).popped.map Entry.op = l.popped.map Entry.op ++ (call q c).2 := by
  have hkept : l.popped.map Entry.op = l.popped.map Entry.op ++ [] := (List.append_nil _).symm
  cases c with
  | setPosition deviceId position =>
    refine ⟨?_, hkept⟩
    refine (combine_getD_map h _ .setTilt { type := .setPosition, deviceId, position }
      (OperationQueue.withPosition position) rfl (fun _ => rfl) rfl).trans ?_
    exact congrArg OperationQueue.ops (enqueueSetPosition_eq q deviceId position).symm
  | setTilt deviceId tiltPercent =>
    refine ⟨?_, hkept⟩
    refine (combine_getD_map h _ .setPosition { type := .setTilt, deviceId, position := tiltPercent }
      (OperationQueue.withTilt tiltPercent) rfl (fun _ => rfl) rfl).trans ?_
    exact congrArg OperationQueue.ops (enqueueSetTilt_eq q deviceId tiltPercent).symm
  | setPositionAndTilt | deviceCommand | setLightPosition | setLightState | setLockState
  | setSwitchState | onewayCommand | onewayPosition | onewayEnroll | onewayUnenroll =>
    exact ⟨push_map h _ rfl, hkept⟩
  | requestStatus deviceId => exact ⟨poll_map h .requestStatus deviceId rfl, hkept⟩
  | requestName deviceId => exact ⟨poll_map h .requestName deviceId rfl, hkept⟩
  | discoverAndPair => exact ⟨pair_map h, hkept⟩
  | pop =>
    refine ⟨by simp [Ledger.call, editOf, PendingOperationRuns.call, OperationQueue.pop, ← h], ?_⟩
    cases hqueue : l.queued <;>
      simp [Ledger.call, editOf, PendingOperationRuns.call, OperationQueue.pop, ← h, hqueue]

/-- The ledger refines the queue over whole runs. -/
theorem run_erases (calls : List Call) :
    (ledgerMachine.run l calls).queued.map Entry.op = (queueMachine.run q calls).ops ∧
      (ledgerMachine.run l calls).popped.map Entry.op =
        l.popped.map Entry.op ++ queueMachine.outputs q calls := by
  induction calls generalizing l q with
  | nil => exact ⟨h, (List.append_nil _).symm⟩
  | cons c calls ih =>
    obtain ⟨hqueued, hpopped⟩ := call_erases h c
    obtain ⟨hqueued', hpopped'⟩ := ih hqueued
    refine ⟨hqueued', hpopped'.trans ?_⟩
    rw [hpopped, Machine.outputs_cons, List.append_assoc]
    rfl

omit h

/-- At most one DISCOVER_AND_PAIR, then the control operations, then the polls, with no two polls
of one type for one device. -/
def Shaped (ops : List PendingOperation) : Prop :=
  ∃ pairing control polls, ops = pairing ++ control ++ polls ∧ pairing.length ≤ 1 ∧
    (∀ op ∈ pairing, op.type = .discoverAndPair) ∧
    (∀ op ∈ control, isControlOp op.type = true) ∧
    (∀ op ∈ polls, op.isBackground = true) ∧
    polls.Pairwise fun a b => ¬(a.type = b.type ∧ a.deviceId = b.deviceId)

/-- One operation may stand behind another. -/
structure Follows (a b : PendingOperation) : Prop where
  background : a.isBackground = true → b.isBackground = true
  unpaired : b.type ≠ .discoverAndPair
  single : a.isBackground = true → ¬(a.type = b.type ∧ a.deviceId = b.deviceId)

theorem isControlOp_of_foreground {op : PendingOperation} (hop : op.isBackground = false)
    (htype : op.type ≠ .discoverAndPair) : isControlOp op.type = true := by
  obtain ⟨type, deviceId, position, tilt, command⟩ := op
  cases type <;> first | rfl | exact absurd rfl htype | cases hop

theorem isBackground_of_isControlOp {op : PendingOperation} (hop : isControlOp op.type = true) :
    op.isBackground = false := by
  obtain ⟨type, deviceId, position, tilt, command⟩ := op
  cases type <;> first | rfl | cases hop

theorem ne_discoverAndPair_of_isControlOp {op : PendingOperation}
    (hop : isControlOp op.type = true) : op.type ≠ .discoverAndPair := by
  intro htype
  rw [htype] at hop
  cases hop

theorem isControlOp_of_isCombinable {type : PendingOperationType}
    (htype : isCombinable type = true) : isControlOp type = true := by
  cases type <;> first | rfl | cases htype

/-- Behind a control operation anything but a pairing request may stand. -/
theorem Follows.of_control {a b : PendingOperation} (ha : isControlOp a.type = true)
    (hb : b.type ≠ .discoverAndPair) : Follows a b := by
  have hforeground := isBackground_of_isControlOp ha
  exact ⟨by simp [hforeground], hb, by simp [hforeground]⟩

theorem banded_of_follows {ops : List PendingOperation} (hops : ops.Pairwise Follows) :
    Banded ops := hops.imp Follows.background

/-- Operations that may stand behind each other are a queue in shape. -/
theorem shaped_of_follows {ops : List PendingOperation} (hops : ops.Pairwise Follows) :
    Shaped ops := by
  have hsplit := List.takeWhile_append_dropWhile (p := fun op => !op.isBackground) (l := ops)
  have hpolls : ∀ op ∈ ops.dropWhile (fun op => !op.isBackground), op.isBackground = true :=
    fun op hop => mem_dropWhile_of_banded (banded_of_follows hops) hop
  have hsingle : (ops.dropWhile fun op => !op.isBackground).Pairwise
      fun a b => ¬(a.type = b.type ∧ a.deviceId = b.deviceId) :=
    (hops.sublist (List.dropWhile_sublist _)).imp_of_mem
      fun ha _ hab => hab.single (hpolls _ ha)
  have hfront : ∀ op ∈ ops.takeWhile (fun op => !op.isBackground), op.isBackground = false := by
    intro op hop
    simpa using List.mem_takeWhile_imp hop
  have hpairs := hops.sublist (List.takeWhile_sublist fun op => !op.isBackground)
  cases hcontrol : ops.takeWhile fun op => !op.isBackground with
  | nil =>
    rw [hcontrol] at hsplit
    exact ⟨[], [], _, hsplit.symm, by simp, by simp, by simp, hpolls, hsingle⟩
  | cons first rest =>
    rw [hcontrol] at hsplit hpairs hfront
    have hrest : ∀ op ∈ rest, isControlOp op.type = true := by
      intro op hop
      exact isControlOp_of_foreground (hfront op (List.mem_cons_of_mem _ hop))
        ((List.pairwise_cons.mp hpairs).1 op hop).unpaired
    by_cases hfirst : first.type = .discoverAndPair
    · exact ⟨[first], rest, _, hsplit.symm, by simp, by simpa using hfirst, hrest, hpolls,
        hsingle⟩
    · refine ⟨[], first :: rest, _, hsplit.symm, by simp, by simp, ?_, hpolls, hsingle⟩
      intro op hop
      rcases List.mem_cons.mp hop with rfl | hop
      · exact isControlOp_of_foreground (hfront op List.mem_cons_self) hfirst
      · exact hrest op hop

end HomeIoControl.RequestLedgers
