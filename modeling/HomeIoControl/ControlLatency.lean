import HomeIoControl.PendingOperationRuns
import HomeIoControl.PollDeferral

/-!
# How long a control operation waits

Background polls yield to one-way traffic, control operations do not: each pass of the loop takes
one from the queue, and only a pairing may go in front of one that waits.
-/

namespace HomeIoControl.ControlLatency

open MachineRuns TracedPrograms DeviceModels QueueEdits PendingOperations PendingOperationRuns
  RadioLinks HubStatus HubOperations HubLoop HubFrames CarriedOperations PollDeferral

/-- The second operation is the first, or the first with a later tilt or position coalesced into
it. -/
inductive Continues (op : PendingOperation) : PendingOperation → Prop
  | same : Continues op op
  | withPosition (position : UInt8) (tilts : op.type = .setTilt) :
      Continues op (OperationQueue.withPosition position op)
  | withTilt (tiltPercent : UInt8) (moves : op.type = .setPosition) :
      Continues op (OperationQueue.withTilt tiltPercent op)

/-- The operation waits behind at most so many others. -/
def Waits (ahead : ℕ) (op : PendingOperation) (ops : List PendingOperation) : Prop :=
  ∃ front op' rest, ops = front ++ op' :: rest ∧ front.length ≤ ahead ∧ Continues op op'

/-- A coalesced operation is of neither kind that may be edited. -/
theorem Continues.trans_edit {op op' : PendingOperation} (h : Continues op op')
    {type : PendingOperationType} {combine : PendingOperation → PendingOperation}
    (edited : op'.type = type) (kind : type = .setTilt ∨ type = .setPosition)
    (edit : ∀ a : PendingOperation, a.type = type → Continues a (combine a)) :
    Continues op (combine op') := by
  cases h with
  | same => exact edit op edited
  | withPosition position tilts => rcases kind with rfl | rfl <;> cases edited
  | withTilt tiltPercent moves => rcases kind with rfl | rfl <;> cases edited

theorem Continues.isBackground {op op' : PendingOperation} (h : Continues op op')
    (control : op.isBackground = false) : op'.isBackground = false := by
  cases h with
  | same => exact control
  | withPosition position tilts => rfl
  | withTilt tiltPercent moves => rfl

section

variable {ahead : ℕ} {op : PendingOperation} (control : op.isBackground = false)
include control

/-- Control operations stay when polls are dropped. -/
theorem Waits.filter {ops : List PendingOperation} (h : Waits ahead op ops)
    {keep : PendingOperation → Bool} (keeps : ∀ a, a.isBackground = false → keep a = true) :
    Waits ahead op (ops.filter keep) := by
  obtain ⟨front, op', rest, rfl, hfront, hop⟩ := h
  have hkept : keep op' = true := keeps op' (hop.isBackground control)
  refine ⟨front.filter keep, op', rest.filter keep, ?_, ?_, hop⟩
  · rw [List.filter_append, List.filter_cons_of_pos hkept]
  · exact (List.length_filter_le _ _).trans hfront

theorem Waits.dropStalePoll {ops : List PendingOperation} (h : Waits ahead op ops)
    (pushed : PendingOperation) : Waits ahead op (OperationQueue.dropStalePoll pushed ops) := by
  unfold OperationQueue.dropStalePoll
  split
  · refine h.filter control fun a ha => ?_
    rw [Bool.not_eq_true', Bool.eq_false_iff]
    intro hstatus
    rw [PendingOperation.isBackground, (PendingOperation.isFor_iff.mp hstatus).1] at ha
    cases ha
  · exact h

/-- What waits in front of a control operation is no poll. -/
theorem front_control {front rest : List PendingOperation} {op' : PendingOperation}
    (banded : Banded (front ++ op' :: rest)) (hop : Continues op op') :
    ∀ a ∈ front, a.isBackground = false := by
  intro a ha
  have hcross := (List.pairwise_append.mp banded).2.2 a ha op' List.mem_cons_self
  rw [Bool.eq_false_iff]
  intro hbackground
  rw [hop.isBackground control] at hcross
  cases hcross hbackground

/-- A pushed operation goes behind the control operations. -/
theorem Waits.pushControl {q : OperationQueue} (h : Waits ahead op q.ops)
    {pushed : PendingOperation} (pushedControl : pushed.isBackground = false) :
    Waits ahead op (q.pushControl pushed pushedControl).ops := by
  have hbanded := OperationQueue.dropStalePoll_banded pushed q.banded
  have hdropped := h.dropStalePoll control pushed
  change Waits ahead op (insertBefore PendingOperation.isBackground pushed _)
  generalize OperationQueue.dropStalePoll pushed q.ops = ops at hbanded hdropped ⊢
  obtain ⟨front, op', rest, rfl, hfront, hop⟩ := hdropped
  have hcontrol : ∀ a ∈ front ++ [op'], a.isBackground = false := by
    intro a ha
    rcases List.mem_append.mp ha with ha | ha
    · exact front_control control hbanded hop a ha
    · rw [List.mem_singleton.mp ha]
      exact hop.isBackground control
  refine ⟨front, op', insertBefore PendingOperation.isBackground pushed rest, ?_, hfront, hop⟩
  have hinsert := insertBefore_append hcontrol pushed rest
  rw [List.append_assoc, List.append_assoc] at hinsert
  exact hinsert

end

section

variable {ahead : ℕ} {op : PendingOperation}

/-- A coalesced operation stays in its place. -/
theorem Waits.coalesce {q q' : OperationQueue} (h : Waits ahead op q.ops)
    {type : PendingOperationType} {deviceId : String}
    {combine : PendingOperation → PendingOperation} {typeControl : isBackgroundOp type = false}
    {combined : ∀ op, (combine op).isBackground = false}
    (kind : type = .setTilt ∨ type = .setPosition)
    (edit : ∀ a : PendingOperation, a.type = type → Continues a (combine a))
    (coalesced : q.coalesce type deviceId combine typeControl combined = some q') :
    Waits ahead op q'.ops := by
  have hedit := q.coalesce_ops type deviceId combine typeControl combined
  rw [coalesced, Option.map_some, eq_comm] at hedit
  obtain ⟨front, op', rest, hops, hfront, hop⟩ := h
  rw [hops] at hedit
  obtain ⟨front', op'', rest', hops', hlength, hop'⟩ := editFirst_place hedit
  refine ⟨front', op'', rest', hops', hlength.trans_le hfront, ?_⟩
  rcases hop' with rfl | ⟨hedited, rfl⟩
  · exact hop
  · exact hop.trans_edit (PendingOperation.isFor_iff.mp hedited).1 kind edit

/-- A request that is coalesced if it can be, and pushed otherwise. -/
theorem Waits.coalesce_getD {q : OperationQueue} (h : Waits ahead op q.ops)
    (control : op.isBackground = false) {type : PendingOperationType} {deviceId : String}
    {combine : PendingOperation → PendingOperation} {typeControl : isBackgroundOp type = false}
    {combined : ∀ op, (combine op).isBackground = false}
    (kind : type = .setTilt ∨ type = .setPosition)
    (edit : ∀ a : PendingOperation, a.type = type → Continues a (combine a))
    {pushed : PendingOperation} (pushedControl : pushed.isBackground = false) :
    Waits ahead op ((q.coalesce type deviceId combine typeControl combined).getD
      (q.pushControl pushed pushedControl)).ops := by
  cases hq : q.coalesce type deviceId combine typeControl combined with
  | none => exact h.pushControl control pushedControl
  | some q' => exact h.coalesce kind edit hq

theorem Waits.enqueueBackground {q : OperationQueue} (h : Waits ahead op q.ops)
    (type : PendingOperationType) (deviceId : String) (background : isBackgroundOp type = true) :
    Waits ahead op (q.enqueueBackground type deviceId background).1.ops := by
  unfold OperationQueue.enqueueBackground
  split
  · exact h
  · obtain ⟨front, op', rest, hops, hfront, hop⟩ := h
    refine ⟨front, op', rest ++ [⟨type, deviceId, 0, 0, .stop⟩], ?_, hfront, hop⟩
    change q.ops ++ _ = _
    rw [hops, List.append_assoc, List.cons_append]

/-- A pairing goes in front of everything. -/
theorem Waits.enqueueDiscoverAndPair {q : OperationQueue} (h : Waits ahead op q.ops)
    (control : op.isBackground = false) :
    Waits (ahead + 1) op q.enqueueDiscoverAndPair.1.ops := by
  unfold OperationQueue.enqueueDiscoverAndPair
  split
  · obtain ⟨front, op', rest, hops, hfront, hop⟩ := h
    exact ⟨front, op', rest, hops, Nat.le_succ_of_le hfront, hop⟩
  · have hkeeps (a : PendingOperation) (ha : a.isBackground = false) :
        (!a.isBackground) = true := by
      rw [ha]
      rfl
    obtain ⟨front, op', rest, hops, hfront, hop⟩ := h.filter control hkeeps
    exact ⟨{ type := .discoverAndPair, deviceId := "" } :: front, op', rest,
      congrArg (_ :: ·) hops, Nat.succ_le_succ hfront, hop⟩

/-- A pop takes the operation or what waits in front of it. -/
theorem Waits.pop {q : OperationQueue} (h : Waits ahead op q.ops)
    (control : op.isBackground = false) :
    ∃ a, q.pop.2 = some a ∧ a.isBackground = false ∧
      (Continues op a ∨ ∃ ahead', ahead = ahead' + 1 ∧ Waits ahead' op q.pop.1.ops) := by
  obtain ⟨front, op', rest, hops, hfront, hop⟩ := h
  have hbanded := q.banded
  rw [hops] at hbanded
  have hfrontControl := front_control control hbanded hop
  change ∃ a, q.ops.head? = some a ∧ _ ∧ (_ ∨ ∃ ahead', _ ∧ Waits ahead' op q.ops.tail)
  rw [hops]
  cases front with
  | nil => exact ⟨op', rfl, hop.isBackground control, Or.inl hop⟩
  | cons a front =>
    obtain ⟨ahead', rfl⟩ := Nat.exists_eq_add_of_lt (Nat.lt_of_lt_of_le (Nat.succ_pos _) hfront)
    refine ⟨a, rfl, hfrontControl a List.mem_cons_self, Or.inr ⟨ahead', by omega, ?_⟩⟩
    exact ⟨front, op', rest, rfl, by simpa using hfront, hop⟩

end

section

variable {ahead : ℕ} {op : PendingOperation} {hub : Hub}

theorem waits_queueGuarded {accepts : IoDevice → Bool} {deviceId : String}
    {enqueue : OperationQueue → OperationQueue}
    (keeps : ∀ q : OperationQueue, Waits ahead op q.ops → Waits ahead op (enqueue q).ops)
    (h : Waits ahead op hub.opQueue.ops) :
    Waits ahead op (queueGuarded accepts deviceId enqueue hub).opQueue.ops := by
  unfold queueGuarded
  split_ifs
  · exact h
  · exact keeps hub.opQueue h

theorem waits_queueMovement {accepts : IoDevice → Bool} {deviceId : String}
    {enqueue : OperationQueue → OperationQueue}
    (keeps : ∀ q : OperationQueue, Waits ahead op q.ops → Waits ahead op (enqueue q).ops)
    (h : Waits ahead op hub.opQueue.ops) :
    Waits ahead op (queueMovement accepts deviceId enqueue hub).opQueue.ops := by
  unfold queueMovement
  split_ifs
  · exact h
  · exact keeps hub.opQueue h

theorem waits_queueRequestDeviceStatus (deviceId : String) (h : Waits ahead op hub.opQueue.ops) :
    Waits ahead op (queueRequestDeviceStatus deviceId hub).opQueue.ops := by
  refine waits_queueGuarded (fun q hq => ?_) h
  exact hq.enqueueBackground _ deviceId rfl

theorem waits_queueDeviceCommand (control : op.isBackground = false) (deviceId : String)
    (cmd : CoverCommand) (h : Waits ahead op hub.opQueue.ops) :
    Waits ahead op (queueDeviceCommand deviceId cmd hub).opQueue.ops := by
  unfold queueDeviceCommand
  split_ifs
  · exact h
  · exact h.pushControl control rfl

end

/-- No command but a pairing goes in front of a waiting operation. -/
theorem waits_obey {ahead : ℕ} {op : PendingOperation} (control : op.isBackground = false)
    {hub : Hub} (h : Waits ahead op hub.opQueue.ops) (cmd : EntityCommand) :
    Waits (ahead + (asksPairing (.command cmd)).toNat) op (obey hub cmd).opQueue.ops := by
  cases cmd with
  | coverStop deviceId => exact waits_queueDeviceCommand control deviceId .stop h
  | coverPosition deviceId position =>
    refine waits_queueMovement (fun q hq => ?_) h
    rw [enqueueSetPosition_eq]
    exact hq.coalesce_getD control (Or.inl rfl) (fun a => .withPosition position) rfl
  | coverTilt deviceId tiltPercent =>
    refine waits_queueMovement (fun q hq => ?_) h
    rw [enqueueSetTilt_eq]
    exact hq.coalesce_getD control (Or.inr rfl) (fun a => .withTilt tiltPercent) rfl
  | coverPositionAndTilt deviceId position tiltPercent =>
    refine waits_queueMovement (fun q hq => ?_) h
    exact hq.pushControl control rfl
  | device deviceId cmd => exact waits_queueDeviceCommand control deviceId cmd h
  | lightPosition deviceId position =>
    refine waits_queueGuarded (fun q hq => ?_) h
    exact hq.pushControl control rfl
  | lightState deviceId on =>
    refine waits_queueGuarded (fun q hq => ?_) h
    exact hq.pushControl control rfl
  | lockState deviceId locked =>
    refine waits_queueGuarded (fun q hq => ?_) h
    exact hq.pushControl control rfl
  | switchState deviceId on =>
    refine waits_queueGuarded (fun q hq => ?_) h
    exact hq.pushControl control rfl
  | requestStatus deviceId =>
    exact waits_queueRequestDeviceStatus deviceId h
  | requestName deviceId =>
    dsimp only [obey, queueRequestDeviceName]
    split_ifs
    · exact h
    · exact h.enqueueBackground _ deviceId rfl
  | onewayCommand controllerId cmd => exact h.pushControl control rfl
  | onewayPosition controllerId position => exact h.pushControl control rfl
  | onewayEnroll controllerId => exact h.pushControl control rfl
  | onewayUnenroll controllerId => exact h.pushControl control rfl
  | discoverAndPair => exact h.enqueueDiscoverAndPair control
  | armKeyExtraction throwawayId => exact h
  | disarmKeyExtraction => exact h
  | armOnewayKeyAdoption armed => exact h

theorem waits_remotePollFires {ahead : ℕ} {op : PendingOperation} {hub : Hub}
    (h : Waits ahead op hub.opQueue.ops) (deviceId : String) :
    Waits ahead op (remotePollFires deviceId hub).opQueue.ops := by
  unfold remotePollFires
  split_ifs
  · exact h
  · exact waits_queueRequestDeviceStatus deviceId h

/-- A due poll is queued behind what waits. -/
theorem waits_pollDue {ahead : ℕ} {op : PendingOperation} {hub : Hub}
    (h : Waits ahead op hub.opQueue.ops) :
    Returns (pollDue surroundingPorts hub) fun hub' => Waits ahead op hub'.opQueue.ops := by
  refine Returns.skip fun now => Returns.pure ?_
  unfold queueDuePoll
  split
  · exact h
  · next deviceId _ =>
    exact waits_queueRequestDeviceStatus deviceId h

section

variable {s : HubState} {e : HubEvent} {ahead : ℕ} {op : PendingOperation}

/-- The gate only holds polls back. -/
theorem heldBack_control {a : PendingOperation} (front : s.hub.opQueue.ops.head? = some a)
    (control : a.isBackground = false) : heldBack s e = false := by
  have hnext : nextOpIsBackground (atGate s e).1 = false := by
    unfold nextOpIsBackground
    rw [atGate_opQueue, front]
    exact control
  have hidle : responderHolds s e = false := by
    unfold responderHolds responderHoldsPoll
    rw [hnext]
    rfl
  rw [heldBack_eq hidle, hnext]
  exact if_pos (Or.inl rfl)

/-- A pass carries out the waiting operation, or what is in front of it. -/
theorem pass_waits (control : op.isBackground = false) (hpass : e.action = .pass)
    (hrunning : Running s.hub) (h : Waits ahead op s.hub.opQueue.ops) :
    (∃ op', CarriesOut op' s e ∧ Continues op op') ∨
      ∃ ahead', ahead = ahead' + 1 ∧ Waits ahead' op (hubStep s e).hub.opQueue.ops := by
  obtain ⟨a, hpop, ha, hwaits⟩ := h.pop control
  have hopen : heldBack s e = false := heldBack_control hpop ha
  have hcarried : CarriesOut a s e := by
    have hisPass : e.action.isPass = true := by rw [hpass]; rfl
    apply carriesOut_of_letThrough
    rw [letThrough, if_pos ⟨hisPass, hrunning, hopen⟩, atGate_opQueue]
    exact hpop
  rcases hwaits with hop | ⟨ahead', rfl, hwaits⟩
  · exact Or.inl ⟨a, hcarried, hop⟩
  · refine Or.inr ⟨ahead', rfl, ?_⟩
    have hleft : Waits ahead' op (afterDispatch s e).1.opQueue.ops := by
      rw [hcarried.taken]
      exact hwaits
    rw [hcarried.polled]
    exact waits_pollDue hleft _

/-- The hub runs and the operation waits behind at most so many others. -/
def RunsWith (op : PendingOperation) (ahead : ℕ) (s : HubState) : Prop :=
  Running s.hub ∧ Waits ahead op s.hub.opQueue.ops

/-- The event carries the operation out, as it was queued or with what was coalesced into it. -/
def Takes (op : PendingOperation) (s : HubState) (e : HubEvent) : Prop :=
  ∃ op', CarriesOut op' s e ∧ Continues op op'

/-- An event takes the operation, or brings it nearer if it is a pass, and farther only if it
asks for a pairing. -/
theorem hubStep_nearer (control : op.isBackground = false) (s : HubState) (e : HubEvent)
    (h : RunsWith op ahead s) : Takes op s e ∨
      ∃ ahead', ahead' + e.action.isPass.toNat ≤ ahead + (asksPairing e.action).toNat ∧
        RunsWith op ahead' (hubMachine.step s e).1 := by
  obtain ⟨hrunning, hwaits⟩ := h
  have hkept : Running (hubStep s e).hub := hubStep_running s e hrunning
  cases haction : e.action with
  | command cmd =>
    refine Or.inr ⟨_, Nat.le_refl _, hkept, ?_⟩
    change Waits _ op (hubStep s e).hub.opQueue.ops
    unfold hubStep
    rw [haction]
    exact waits_obey control hwaits cmd
  | remotePollFires deviceId =>
    refine Or.inr ⟨ahead, Nat.le_refl _, hkept, ?_⟩
    change Waits _ op (hubStep s e).hub.opQueue.ops
    unfold hubStep
    rw [haction]
    exact waits_remotePollFires hwaits deviceId
  | pass =>
    refine (pass_waits control haction hrunning hwaits).imp_right fun hnear => ?_
    obtain ⟨ahead', rfl, hnear⟩ := hnear
    exact ⟨ahead', Nat.le_refl _, hkept, hnear⟩

end

/-- The passes among the events. -/
def passes (es : List HubEvent) : ℕ := es.countP fun e => e.action.isPass

/-- The requests for a pairing among the events. -/
def pairings (es : List HubEvent) : ℕ := es.countP fun e => asksPairing e.action

/-- A control operation with a number of others in front of it is carried out as soon as the loop
has made more passes than that number and the pairings requested meanwhile, whatever the radio
hears, the entities ask for and the polls do. -/
theorem control_operation_is_dispatched (s : HubState) (running : Running s.hub) (ahead : ℕ)
    (op : PendingOperation) (queued : s.hub.opQueue.ops[ahead]? = some op)
    (control : op.isBackground = false) (es : List HubEvent)
    (enough : ahead + pairings es < passes es) :
    ∃ before e after, es = before ++ e :: after ∧ Takes op (hubMachine.run s before) e ∧
      passes before ≤ ahead + pairings before := by
  have hwaits : Waits ahead op s.hub.opQueue.ops := by
    obtain ⟨hlt, hop⟩ := List.getElem?_eq_some_iff.mp queued
    refine ⟨s.hub.opQueue.ops.take ahead, op, s.hub.opQueue.ops.drop (ahead + 1), ?_, ?_, .same⟩
    · rw [← hop, List.getElem_cons_drop, List.take_append_drop]
    · exact List.length_take_le _ _
  exact hubMachine.comes_to (fun _ s e => hubStep_nearer control s e) ⟨running, hwaits⟩ enough

/-- A hub with a STOP queued behind a tilt. -/
def busyHub : HubState where
  hub :=
    { nodeId := ⟨0, 0, 1⟩
      initialized := true
      opQueue :=
        (OperationQueue.empty.enqueueSetTilt "A1B2C3" 50).1.enqueueDeviceCommand "A1B2C3" .stop }
  time := 0

theorem stop_is_dispatched :
    let es : List HubEvent := [{ action := .command .discoverAndPair }, { action := .pass },
      hearing 100 ⟨0xC3, 0, 0⟩ 0, { action := .pass }]
    ∃ before e after, es = before ++ e :: after ∧
      Takes { type := .deviceCommand, deviceId := "A1B2C3", command := .stop }
        (hubMachine.run busyHub before) e ∧ passes before ≤ 1 + pairings before :=
  control_operation_is_dispatched busyHub (by decide) 1 _ rfl rfl _ (by decide)

end HomeIoControl.ControlLatency
