import HomeIoControl.RequestLedgers

/-!
# No request is lost, altered or repeated

Every call keeps the shape of the queue, keeps the entries whose requests share them with no other,
and adds its own request to exactly one entry. Only combining can put a request in front of one
that arrived before it, and it does so exactly when an entry that is not shared stands behind.
-/

namespace HomeIoControl.RequestLedgerRuns

open MachineRuns PendingOperations PendingOperationRuns QueueEdits RequestLedgers

/-- What an entry of a ledger with that many calls satisfies. -/
structure ValidEntry (arrived : ℕ) (e : Entry) : Prop where
  waiting : isControlOp e.op.type = false → e.requests = []
  own : ∀ r ∈ e.requests, ∀ op, ownOperation r.1 = some op → e = ⟨op, [r]⟩
  numbered : ∀ r ∈ e.requests, r.2 < arrived

/-- Every entry is valid and the queue is in shape. -/
structure Valid (l : Ledger) : Prop where
  shaped : l.queued.Pairwise fun a b => Follows a.op b.op
  entries : ∀ e ∈ l.entries, ValidEntry l.arrived e

theorem valid_empty : Valid .empty := ⟨.nil, fun _ he => nomatch he⟩

variable {l : Ledger} {c : Call}

theorem ValidEntry.later {n : ℕ} {e : Entry} (he : ValidEntry n e) : ValidEntry (n + 1) e :=
  ⟨he.waiting, he.own, fun r hr => Nat.lt_succ_of_lt (he.numbered r hr)⟩

theorem validEntry_unrequested {n : ℕ} (op : PendingOperation) : ValidEntry n ⟨op, []⟩ :=
  ⟨fun _ => rfl, fun _ hr => (nomatch hr), fun _ hr => (nomatch hr)⟩

/-- An entry for one new request. -/
theorem validEntry_new {n : ℕ} {op : PendingOperation} (control : isControlOp op.type = true)
    (hown : ∀ op', ownOperation c = some op' → op' = op) :
    ValidEntry (n + 1) ⟨op, [(c, n)]⟩ := by
  refine ⟨fun hop => ?_, fun r hr op' hop' => ?_, fun r hr => ?_⟩
  · rw [control] at hop
    cases hop
  · rw [List.mem_singleton.mp hr] at hop' ⊢
    rw [hown op' hop']
  · rw [List.mem_singleton.mp hr]
    exact Nat.lt_succ_self n

theorem ownOperation_not_combinable {op : PendingOperation} (hop : ownOperation c = some op) :
    isCombinable op.type = false := by
  cases hedit : editOf c with
  | push op' control own =>
    simp only [ownOperation, hedit, Option.some.injEq] at hop
    exact hop ▸ own
  | combine | poll | pair | pop => simp [ownOperation, hedit] at hop

/-- The entry that a request may be combined into is shared. -/
theorem not_isOwn_of_combinable {n : ℕ} {e : Entry} (he : ValidEntry n e)
    (hcombinable : isCombinable e.op.type = true) : ¬e.IsOwn := by
  rintro ⟨r, hr, hown⟩
  obtain ⟨op, hop⟩ := Option.isSome_iff_exists.mp hown
  rw [he.own r hr op hop, ownOperation_not_combinable hop] at hcombinable
  cases hcombinable

/-- An entry stays valid when a request is combined into it. -/
theorem validEntry_combined {n : ℕ} {e : Entry} {op : PendingOperation} (he : ValidEntry n e)
    (hcombinable : isCombinable e.op.type = true) (control : isControlOp op.type = true)
    (hown : ownOperation c = none) : ValidEntry (n + 1) ⟨op, e.requests ++ [(c, n)]⟩ := by
  refine ⟨fun hop => ?_, fun r hr op' hop' => ?_, fun r hr => ?_⟩
  · rw [control] at hop
    cases hop
  · rcases List.mem_append.mp hr with hr | hr
    · exact absurd ⟨r, hr, Option.isSome_of_eq_some hop'⟩ (not_isOwn_of_combinable he hcombinable)
    · rw [List.mem_singleton.mp hr, hown] at hop'
      cases hop'
  · rcases List.mem_append.mp hr with hr | hr
    · exact Nat.lt_succ_of_lt (he.numbered r hr)
    · rw [List.mem_singleton.mp hr]
      exact Nat.lt_succ_self n

theorem isOwn_combined {e : Entry} {op : PendingOperation} {n : ℕ} (hown : ownOperation c = none) :
    Entry.IsOwn ⟨op, e.requests ++ [(c, n)]⟩ ↔ e.IsOwn := by
  simp [Entry.IsOwn, hown]

theorem mem_dropStalePoll {op : PendingOperation} {es : List Entry} {e : Entry}
    (he : e ∈ Ledger.dropStalePoll op es) : e ∈ es := by
  unfold Ledger.dropStalePoll at he
  split at he
  · exact List.mem_of_mem_filter he
  · exact he

theorem mem_push {op : PendingOperation} {e : Entry} (he : e ∈ l.push c op) :
    e = ⟨op, [(c, l.arrived)]⟩ ∨ e ∈ l.queued :=
  (mem_insertBefore.mp he).imp_right mem_dropStalePoll

/-- A request is combined into one entry, which is edited in place. -/
theorem exists_of_combine {into : PendingOperationType} {deviceId : String}
    {combined : PendingOperation → PendingOperation} {es : List Entry}
    (h : l.combine c into combined deviceId = some es) :
    ∃ pre e, e.op.type = into ∧
      l.queued = pre ++ e :: behindFirst (fun e => e.op.isFor into deviceId) l.queued ∧
      es = pre ++ ⟨combined e.op, e.requests ++ [(c, l.arrived)]⟩ ::
        behindFirst (fun e => e.op.isFor into deviceId) l.queued := by
  obtain ⟨pre, e, hop, hq, hes⟩ := editFirst_eq_some h
  exact ⟨pre, e, (PendingOperation.isFor_iff.mp hop).1, hq, hes⟩

theorem mem_combine {into : PendingOperationType} {deviceId : String}
    {combined : PendingOperation → PendingOperation} {es : List Entry}
    (h : l.combine c into combined deviceId = some es) {e : Entry} (he : e ∈ es) :
    e ∈ l.queued ∨ ∃ e₀ ∈ l.queued, e₀.op.type = into ∧
      e = ⟨combined e₀.op, e₀.requests ++ [(c, l.arrived)]⟩ := by
  obtain ⟨pre, e₀, hinto, hqueue, rfl⟩ := exists_of_combine h
  rw [hqueue]
  rcases List.mem_append.mp he with he | he
  · exact .inl (List.mem_append_left _ he)
  · rcases List.mem_cons.mp he with rfl | he
    · exact .inr ⟨e₀, List.mem_append_right _ List.mem_cons_self, hinto, rfl⟩
    · exact .inl (List.mem_append_right _ (List.mem_cons_of_mem _ he))

theorem mem_poll {type : PendingOperationType} {deviceId : String} {e : Entry}
    (he : e ∈ l.poll type deviceId) : e ∈ l.queued ∨ ∃ op, e = ⟨op, []⟩ := by
  unfold Ledger.poll at he
  split at he
  · exact .inl he
  · exact (List.mem_append.mp he).imp_right fun he => ⟨_, List.mem_singleton.mp he⟩

theorem mem_pair {e : Entry} (he : e ∈ l.pair) : e ∈ l.queued ∨ ∃ op, e = ⟨op, []⟩ := by
  unfold Ledger.pair at he
  split at he
  · exact .inl he
  · rcases List.mem_cons.mp he with rfl | he
    · exact .inr ⟨_, rfl⟩
    · exact .inl (List.mem_of_mem_filter he)

theorem isBackground_ne_discoverAndPair {op : PendingOperation} (hop : op.isBackground = true) :
    op.type ≠ .discoverAndPair := by
  intro htype
  rw [PendingOperation.isBackground, htype] at hop
  cases hop

theorem dropStalePoll_sublist (op : PendingOperation) (es : List Entry) :
    (Ledger.dropStalePoll op es).Sublist es := by
  unfold Ledger.dropStalePoll
  split
  · exact List.filter_sublist
  · exact List.Sublist.refl es

section

variable (hl : l.queued.Pairwise fun a b => Follows a.op b.op)
include hl

theorem push_shaped {op : PendingOperation} (control : isControlOp op.type = true) :
    (l.push c op).Pairwise fun a b => Follows a.op b.op := by
  have hkept := hl.sublist (dropStalePoll_sublist op l.queued)
  refine insertBefore_pairwise (hkept.imp Follows.background) hkept ?_ ?_
  · intro a _ ha
    exact ⟨by simp [ha], ne_discoverAndPair_of_isControlOp control, by simp [ha]⟩
  · intro b _ hb
    exact .of_control control (isBackground_ne_discoverAndPair hb)

theorem combine_shaped {into : PendingOperationType} {deviceId : String}
    {combined : PendingOperation → PendingOperation} {es : List Entry}
    (combinable : isCombinable into = true)
    (combines : ∀ op, (combined op).type = .setPositionAndTilt)
    (h : l.combine c into combined deviceId = some es) :
    es.Pairwise fun a b => Follows a.op b.op := by
  have hcontrol : ∀ op, isControlOp (combined op).type = true := by
    intro op
    rw [combines]
    rfl
  refine editFirst_pairwise ?_ ?_ h hl
  · intro a b _ hab
    exact .of_control (hcontrol a.op) hab.unpaired
  · intro a b hb hab
    have hforeground : b.op.isBackground = false := by
      refine isBackground_of_isControlOp (isControlOp_of_isCombinable ?_)
      rwa [(PendingOperation.isFor_iff.mp hb).1]
    have ha : a.op.isBackground = false := by
      by_contra ha
      rw [hab.background (by simpa using ha)] at hforeground
      cases hforeground
    exact ⟨by simp [ha], ne_discoverAndPair_of_isControlOp (hcontrol b.op), by simp [ha]⟩

theorem poll_shaped {type : PendingOperationType} {deviceId : String}
    (background : isBackgroundOp type = true) :
    (l.poll type deviceId).Pairwise fun a b => Follows a.op b.op := by
  unfold Ledger.poll
  split
  · exact hl
  · next hnone =>
    refine List.pairwise_append.mpr ⟨hl, List.pairwise_singleton _ _, ?_⟩
    intro a ha b hb
    rw [List.mem_singleton.mp hb]
    refine ⟨fun _ => background, isBackground_ne_discoverAndPair background, ?_⟩
    rintro _ ⟨htype, hdevice⟩
    exact hnone (List.any_eq_true.mpr ⟨a, ha, PendingOperation.isFor_iff.mpr ⟨htype, hdevice⟩⟩)

theorem pair_shaped : l.pair.Pairwise fun a b => Follows a.op b.op := by
  unfold Ledger.pair
  split
  · exact hl
  · next hnone =>
    refine List.pairwise_cons.mpr ⟨?_, hl.filter _⟩
    intro b hb
    refine ⟨fun ha => (nomatch ha), fun htype => ?_, fun ha => (nomatch ha)⟩
    exact hnone (List.any_eq_true.mpr ⟨b, List.mem_of_mem_filter hb, by simpa using htype⟩)

end

theorem requeue_shaped (hl : l.queued.Pairwise fun a b => Follows a.op b.op) (edit : Edit) :
    (l.requeue c edit).Pairwise fun a b => Follows a.op b.op := by
  cases edit with
  | push op control own => exact push_shaped hl control
  | combine into combined op control combinable combines =>
    cases hcombine : l.combine c into combined op.deviceId with
    | none =>
      rw [Ledger.requeue, hcombine, Option.getD_none]
      exact push_shaped hl control
    | some es =>
      rw [Ledger.requeue, hcombine, Option.getD_some]
      exact combine_shaped hl combinable combines hcombine
  | poll type deviceId background => exact poll_shaped hl background
  | pair => exact pair_shaped hl
  | pop => exact hl

/-- Whatever the queue holds after a call was valid before it or carries out the new request. -/
theorem requeue_entries (hqueued : ∀ e ∈ l.queued, ValidEntry l.arrived e) (edit : Edit)
    (hedit : editOf c = edit) : ∀ e ∈ l.requeue c edit, ValidEntry (l.arrived + 1) e := by
  have hpush : ∀ op, isControlOp op.type = true →
      (∀ op', ownOperation c = some op' → op' = op) →
      ∀ e ∈ l.push c op, ValidEntry (l.arrived + 1) e := by
    intro op control hown e he
    rcases mem_push he with rfl | he
    · exact validEntry_new control hown
    · exact (hqueued e he).later
  intro e he
  cases edit with
  | push op control own =>
    refine hpush op control (fun op' hop' => ?_) e he
    simpa [ownOperation, hedit, eq_comm] using hop'
  | combine into combined op control combinable combines =>
    have hown : ownOperation c = none := by rw [ownOperation, hedit]
    cases hcombine : l.combine c into combined op.deviceId with
    | none =>
      rw [Ledger.requeue, hcombine, Option.getD_none] at he
      refine hpush op control (fun op' hop' => ?_) e he
      rw [hown] at hop'
      cases hop'
    | some es =>
      rw [Ledger.requeue, hcombine, Option.getD_some] at he
      rcases mem_combine hcombine he with he | ⟨e₀, he₀, hinto, rfl⟩
      · exact (hqueued e he).later
      · refine validEntry_combined (hqueued e₀ he₀) (hinto ▸ combinable) ?_ hown
        rw [combines]
        rfl
  | poll type deviceId background =>
    rcases mem_poll he with he | ⟨op, rfl⟩
    · exact (hqueued e he).later
    · exact validEntry_unrequested op
  | pair =>
    rcases mem_pair he with he | ⟨op, rfl⟩
    · exact (hqueued e he).later
    · exact validEntry_unrequested op
  | pop => exact (hqueued e he).later

/-- A call either pops the front or leaves what was popped alone. -/
theorem call_eq (l : Ledger) (c : Call) :
    editOf c = .pop ∧ l.call c = ⟨l.popped ++ l.queued.head?.toList, l.queued.tail, l.arrived + 1⟩ ∨
      editOf c ≠ .pop ∧ l.call c = ⟨l.popped, l.requeue c (editOf c), l.arrived + 1⟩ := by
  cases hedit : editOf c <;> simp [Ledger.call, hedit]

theorem popped_entries (l : Ledger) (n : ℕ) :
    Ledger.entries ⟨l.popped ++ l.queued.head?.toList, l.queued.tail, n⟩ = l.entries := by
  obtain ⟨popped, queued, arrived⟩ := l
  cases queued <;> simp [Ledger.entries]

theorem call_valid (hl : Valid l) (c : Call) : Valid (l.call c) := by
  rcases call_eq l c with ⟨_, heq⟩ | ⟨_, heq⟩
  · rw [heq]
    refine ⟨hl.shaped.sublist (List.tail_sublist _), fun e he => ?_⟩
    rw [popped_entries] at he
    exact (hl.entries e he).later
  · rw [heq]
    refine ⟨requeue_shaped hl.shaped (editOf c), fun e he => ?_⟩
    rcases List.mem_append.mp he with he | he
    · exact (hl.entries e (List.mem_append_left _ he)).later
    · exact requeue_entries (fun e he => hl.entries e (List.mem_append_right _ he)) (editOf c) rfl
        e he

/-- The requests of the ledger, in the order in which they are carried out. -/
def carriedOut (l : Ledger) : List (Call × ℕ) := l.entries.flatMap Entry.requests

/-- What a call asks for. -/
def asked (c : Call) (n : ℕ) : List (Call × ℕ) := if isControl c then [(c, n)] else []

theorem flatMap_filter_of_eq_nil (keep : Entry → Bool) {es : List Entry}
    (h : ∀ e ∈ es, keep e = false → e.requests = []) :
    (es.filter keep).flatMap Entry.requests = es.flatMap Entry.requests := by
  induction es with
  | nil => rfl
  | cons e es ih =>
    have htail := ih fun e he => h e (List.mem_cons_of_mem _ he)
    cases hkeep : keep e with
    | true => simp [hkeep, htail]
    | false => simp [hkeep, htail, h e List.mem_cons_self hkeep]

theorem requests_eq_nil_of_background {n : ℕ} {e : Entry} (he : ValidEntry n e)
    (hop : e.op.isBackground = true) : e.requests = [] := by
  refine he.waiting ?_
  by_contra hcontrol
  rw [isBackground_of_isControlOp (by simpa using hcontrol)] at hop
  cases hop

section

variable (hl : ∀ e ∈ l.queued, ValidEntry l.arrived e)
include hl

theorem dropStalePoll_requests (op : PendingOperation) :
    (Ledger.dropStalePoll op l.queued).flatMap Entry.requests =
      l.queued.flatMap Entry.requests := by
  unfold Ledger.dropStalePoll
  split
  · refine flatMap_filter_of_eq_nil _ fun e he hpoll => ?_
    refine requests_eq_nil_of_background (hl e he) ?_
    rw [Bool.not_eq_false', PendingOperation.isFor_iff] at hpoll
    rw [PendingOperation.isBackground, hpoll.1, isBackgroundOp]
  · rfl

theorem push_requests (op : PendingOperation) :
    ((l.push c op).flatMap Entry.requests).Perm
      (l.queued.flatMap Entry.requests ++ [(c, l.arrived)]) := by
  have hpush := (insertBefore_perm (fun e => e.op.isBackground) ⟨op, [(c, l.arrived)]⟩
    (Ledger.dropStalePoll op l.queued)).flatMap_right Entry.requests
  rw [List.flatMap_cons, dropStalePoll_requests hl] at hpush
  exact hpush.trans List.perm_append_comm

/-- A call adds its own request and no other. -/
theorem requeue_requests (edit : Edit) (hedit : editOf c = edit) :
    ((l.requeue c edit).flatMap Entry.requests).Perm
      (l.queued.flatMap Entry.requests ++ asked c l.arrived) := by
  cases edit with
  | push op control own =>
    simpa [Ledger.requeue, asked, isControl, hedit] using push_requests hl op
  | combine into combined op control combinable combines =>
    have hasked : asked c l.arrived = [(c, l.arrived)] := by simp [asked, isControl, hedit]
    rw [Ledger.requeue, hasked]
    cases hcombine : l.combine c into combined op.deviceId with
    | none => exact push_requests hl op
    | some es =>
      obtain ⟨pre, e, -, hqueue, rfl⟩ := exists_of_combine hcombine
      generalize behindFirst _ l.queued = behind at hqueue ⊢
      rw [Option.getD_some, hqueue]
      simp only [List.flatMap_append, List.flatMap_cons, List.append_assoc]
      exact ((List.perm_append_comm).append_left _).append_left _
  | poll type deviceId background =>
    simp only [Ledger.requeue, Ledger.poll, asked, isControl, hedit]
    split <;> simp
  | pair =>
    simp only [Ledger.requeue, Ledger.pair, asked, isControl, hedit]
    split
    · simp
    · have hkept := flatMap_filter_of_eq_nil (fun e => !e.op.isBackground) fun e he h =>
        requests_eq_nil_of_background (hl e he) (by simpa using h)
      simp [hkept]
  | pop => simp [Ledger.requeue, asked, isControl, hedit]

end

theorem call_requests (hl : Valid l) (c : Call) :
    (carriedOut (l.call c)).Perm (carriedOut l ++ asked c l.arrived) := by
  rcases call_eq l c with ⟨hpop, heq⟩ | ⟨_, heq⟩
  · rw [heq, carriedOut, popped_entries]
    simp [carriedOut, asked, isControl, hpop]
  · have hqueue := requeue_requests (fun e he => hl.entries e (List.mem_append_right _ he))
      (editOf c) rfl
    rw [heq, carriedOut, carriedOut, Ledger.entries, Ledger.entries, List.flatMap_append,
      List.flatMap_append, List.append_assoc]
    exact hqueue.append_left _

theorem isControlOp_of_isOwn {n : ℕ} {e : Entry} (he : ValidEntry n e) (hown : e.IsOwn) :
    isControlOp e.op.type = true := by
  by_contra hop
  obtain ⟨r, hr, -⟩ := hown
  rw [he.waiting (by simpa using hop)] at hr
  cases hr

/-- A push drops no control operation. -/
theorem mem_push_of_mem {e : Entry} (he : e ∈ l.queued) (control : isControlOp e.op.type = true)
    (op : PendingOperation) : e ∈ l.push c op := by
  refine mem_insertBefore.mpr (.inr ?_)
  unfold Ledger.dropStalePoll
  split
  · refine List.mem_filter.mpr ⟨he, ?_⟩
    rw [Bool.not_eq_true', Bool.eq_false_iff, Ne, PendingOperation.isFor_iff]
    rintro ⟨htype, -⟩
    rw [htype] at control
    cases control
  · exact he

/-- Combining edits one entry, of the operation combined into. -/
theorem mem_combine_of_mem {into : PendingOperationType} {deviceId : String}
    {combined : PendingOperation → PendingOperation} {es : List Entry}
    (h : l.combine c into combined deviceId = some es) {e : Entry} (he : e ∈ l.queued) :
    e ∈ es ∨ e.op.type = into := by
  obtain ⟨pre, e₀, hinto, hqueue, rfl⟩ := exists_of_combine h
  rw [hqueue] at he
  rcases List.mem_append.mp he with he | he
  · exact .inl (List.mem_append_left _ he)
  · rcases List.mem_cons.mp he with rfl | he
    · exact .inr hinto
    · exact .inl (List.mem_append_right _ (List.mem_cons_of_mem _ he))

/-- An entry that is not shared stays in the queue until it is popped. -/
theorem call_keeps_own (hl : Valid l) (hpop : editOf c ≠ .pop) {e : Entry} (he : e ∈ l.queued)
    (hown : e.IsOwn) : e ∈ (l.call c).queued := by
  have hvalid := hl.entries e (List.mem_append_right _ he)
  have hcontrol := isControlOp_of_isOwn hvalid hown
  have hpush : ∀ op, e ∈ l.push c op := mem_push_of_mem he hcontrol
  rcases call_eq l c with ⟨heq, _⟩ | ⟨_, heq⟩
  · exact absurd heq hpop
  rw [heq]
  change e ∈ l.requeue c (editOf c)
  cases hedit : editOf c with
  | push op control own => exact hpush op
  | combine into combined op control combinable combines =>
    cases hcombine : l.combine c into combined op.deviceId with
    | none => simpa [Ledger.requeue, hcombine] using hpush op
    | some es =>
      rw [Ledger.requeue, hcombine, Option.getD_some]
      refine (mem_combine_of_mem hcombine he).resolve_right fun hinto => ?_
      exact not_isOwn_of_combinable hvalid (hinto ▸ combinable) hown
  | poll type deviceId background =>
    rw [Ledger.requeue, Ledger.poll]
    split
    · exact he
    · exact List.mem_append_left _ he
  | pair =>
    have hforeground := isBackground_of_isControlOp hcontrol
    rw [Ledger.requeue, Ledger.pair]
    split
    · exact he
    · exact List.mem_cons_of_mem _ (List.mem_filter.mpr ⟨he, by simp [hforeground]⟩)
  | pop => exact he

/-- The entries that are not shared are popped in the order of arrival. -/
def InOrder (l : Ledger) : Prop := l.entries.Pairwise Entry.Before

instance (l : Ledger) : Decidable (InOrder l) :=
  inferInstanceAs (Decidable (l.entries.Pairwise Entry.Before))

/-- No request is combined into an entry that an entry of its own stands behind. -/
def CombinesInOrder (l : Ledger) (c : Call) : Prop :=
  match editOf c with
  | .combine into _ op .. =>
    ∀ e ∈ behindFirst (fun e => e.op.isFor into op.deviceId) l.queued, ¬e.IsOwn
  | _ => True

theorem before_new {n : ℕ} {e : Entry} (he : ValidEntry n e) (op : PendingOperation) :
    e.Before ⟨op, [(c, n)]⟩ := by
  intro _ r hr r' hr'
  rw [List.mem_singleton.mp hr']
  exact he.numbered r hr

theorem before_of_right_eq_nil {a b : Entry} (hb : b.requests = []) : a.Before b := by
  intro _ r _ r' hr'
  rw [hb] at hr'
  cases hr'

theorem before_of_left_eq_nil {a b : Entry} (ha : a.requests = []) : a.Before b := by
  intro _ r hr
  rw [ha] at hr
  cases hr

/-- Behind what stood before the edited entry it still stands. -/
theorem before_combined {n : ℕ} {a e : Entry} {op : PendingOperation} (ha : ValidEntry n a)
    (hown : ownOperation c = none) (h : a.Before e) :
    a.Before ⟨op, e.requests ++ [(c, n)]⟩ := by
  intro hab r hr r' hr'
  rw [isOwn_combined hown] at hab
  rcases List.mem_append.mp hr' with hr' | hr'
  · exact h hab r hr r' hr'
  · rw [List.mem_singleton.mp hr']
    exact ha.numbered r hr

/-- The edited entry is in order with one behind it exactly when that one is shared. -/
theorem combined_before_iff {n : ℕ} {e b : Entry} {op : PendingOperation} (hb : ValidEntry n b)
    (hown : ownOperation c = none) (he : ¬e.IsOwn) :
    Entry.Before ⟨op, e.requests ++ [(c, n)]⟩ b ↔ ¬b.IsOwn := by
  constructor
  · intro hbefore hb'
    obtain ⟨r, hr, -⟩ := id hb'
    have hlater : n < r.2 := hbefore (.inr hb') (c, n) (by simp) r hr
    exact absurd (hb.numbered r hr) (Nat.lt_asymm hlater)
  · intro hb' hor
    rw [isOwn_combined hown] at hor
    exact absurd hor (not_or.mpr ⟨he, hb'⟩)

theorem push_inOrder (hl : Valid l) (ho : InOrder l) (op : PendingOperation) :
    (l.popped ++ l.push c op).Pairwise Entry.Before := by
  obtain ⟨hpopped, hqueued, hcross⟩ := List.pairwise_append.mp ho
  have hvalid : ∀ e ∈ l.queued, ValidEntry l.arrived e :=
    fun e he => hl.entries e (List.mem_append_right _ he)
  have hsub := dropStalePoll_sublist op l.queued
  refine List.pairwise_append.mpr ⟨hpopped, ?_, ?_⟩
  · refine insertBefore_pairwise ((hl.shaped.sublist hsub).imp Follows.background)
      (hqueued.sublist hsub) ?_ ?_
    · intro a ha _
      exact before_new (hvalid a (hsub.subset ha)) op
    · intro b hb hpoll
      exact before_of_right_eq_nil (requests_eq_nil_of_background (hvalid b (hsub.subset hb)) hpoll)
  · intro a ha b hb
    rcases mem_push hb with rfl | hb
    · exact before_new (hl.entries a (List.mem_append_left _ ha)) op
    · exact hcross a ha b hb

theorem combine_inOrder_iff (hl : Valid l) (ho : InOrder l) {into : PendingOperationType}
    {deviceId : String} {combined : PendingOperation → PendingOperation} {es : List Entry}
    (combinable : isCombinable into = true) (hown : ownOperation c = none)
    (h : l.combine c into combined deviceId = some es) :
    (l.popped ++ es).Pairwise Entry.Before ↔
      ∀ e ∈ behindFirst (fun e => e.op.isFor into deviceId) l.queued, ¬e.IsOwn := by
  obtain ⟨pre, e, hinto, hqueue, rfl⟩ := exists_of_combine h
  generalize behindFirst _ l.queued = behind at hqueue ⊢
  have hvalid : ∀ e' ∈ l.popped ++ pre ++ e :: behind, ValidEntry l.arrived e' := by
    rw [List.append_assoc, ← hqueue]
    exact hl.entries
  have hshared : ¬e.IsOwn :=
    not_isOwn_of_combinable (hvalid e (by simp)) (hinto ▸ combinable)
  rw [InOrder, Ledger.entries, hqueue, ← List.append_assoc] at ho
  obtain ⟨hfront, hback, hcross⟩ := List.pairwise_append.mp ho
  rw [← List.append_assoc, List.pairwise_append, List.pairwise_cons]
  constructor
  · rintro ⟨-, ⟨hedited, -⟩, -⟩ b hb
    exact (combined_before_iff (hvalid b (by simp [hb])) hown hshared).mp (hedited b hb)
  · intro hbehind
    refine ⟨hfront, ⟨fun b hb => ?_, (List.pairwise_cons.mp hback).2⟩, fun a ha b hb => ?_⟩
    · exact (combined_before_iff (hvalid b (by simp [hb])) hown hshared).mpr (hbehind b hb)
    · rcases List.mem_cons.mp hb with rfl | hb
      · exact before_combined (hvalid a (List.mem_append_left _ ha)) hown
          (hcross a ha e List.mem_cons_self)
      · exact hcross a ha b (List.mem_cons_of_mem _ hb)

/-- A call keeps the order of arrival exactly when it combines in order. -/
theorem call_inOrder_iff (hl : Valid l) (ho : InOrder l) (c : Call) :
    InOrder (l.call c) ↔ CombinesInOrder l c := by
  obtain ⟨hpopped, hqueued, hcross⟩ := List.pairwise_append.mp ho
  rcases call_eq l c with ⟨hpop, heq⟩ | ⟨_, heq⟩
  · rw [heq, InOrder, popped_entries, CombinesInOrder, hpop]
    exact iff_of_true ho trivial
  rw [heq, InOrder, CombinesInOrder]
  change (l.popped ++ l.requeue c (editOf c)).Pairwise Entry.Before ↔ _
  cases hedit : editOf c with
  | push op control own => exact iff_of_true (push_inOrder hl ho op) trivial
  | combine into combined op control combinable combines =>
    have hown : ownOperation c = none := by rw [ownOperation, hedit]
    cases hcombine : l.combine c into combined op.deviceId with
    | none =>
      rw [Ledger.requeue, hcombine, Option.getD_none]
      simp [push_inOrder hl ho op, behindFirst_of_editFirst_eq_none hcombine]
    | some es =>
      rw [Ledger.requeue, hcombine, Option.getD_some]
      exact combine_inOrder_iff hl ho combinable hown hcombine
  | poll type deviceId background =>
    refine iff_of_true ?_ trivial
    rw [Ledger.requeue, Ledger.poll]
    split
    · exact ho
    · rw [← List.append_assoc]
      refine List.pairwise_append.mpr ⟨ho, List.pairwise_singleton _ _, fun a _ b hb => ?_⟩
      rw [List.mem_singleton.mp hb]
      exact before_of_right_eq_nil rfl
  | pair =>
    refine iff_of_true ?_ trivial
    rw [Ledger.requeue, Ledger.pair]
    split
    · exact ho
    · refine List.pairwise_append.mpr ⟨hpopped, List.pairwise_cons.mpr ⟨fun b _ =>
        before_of_left_eq_nil rfl, hqueued.filter _⟩, fun a ha b hb => ?_⟩
      rcases List.mem_cons.mp hb with rfl | hb
      · exact before_of_right_eq_nil rfl
      · exact hcross a ha b (List.mem_of_mem_filter hb)
  | pop => exact iff_of_true ho trivial

/-- The ledger of the calls on an empty queue. -/
def ledgerOf (calls : List Call) : Ledger := ledgerMachine.run .empty calls

/-- The requests for a control operation, in the order of their arrival. -/
def arrivals (calls : List Call) : List (Call × ℕ) := calls.zipIdx.filter fun r => isControl r.1

/-- Every request is carried out by exactly one entry of the queue, popped or still queued; a
request that shares its entry with no other is carried out with its own arguments, and only a pop
takes it from the queue. -/
structure Conserves (calls : List Call) : Prop where
  popped : (ledgerOf calls).popped.map Entry.op = queueMachine.outputs .empty calls
  queued : (ledgerOf calls).queued.map Entry.op = (queueMachine.run .empty calls).ops
  once : (carriedOut (ledgerOf calls)).Perm (arrivals calls)
  own : ∀ e ∈ (ledgerOf calls).entries, ∀ r ∈ e.requests, ∀ op, ownOperation r.1 = some op →
    e = ⟨op, [r]⟩
  kept : ∀ later, Call.pop ∉ later → ∀ e ∈ (ledgerOf calls).queued, e.IsOwn →
    e ∈ (ledgerOf (calls ++ later)).queued
  drained : (ledgerOf (calls ++ List.replicate (ledgerOf calls).queued.length .pop)).queued = []

theorem run_valid (hl : Valid l) (calls : List Call) : Valid (ledgerMachine.run l calls) :=
  ledgerMachine.run_keeps Valid (fun _ c hl => call_valid hl c) hl calls

theorem run_requests (hl : Valid l) (calls : List Call) :
    (carriedOut (ledgerMachine.run l calls)).Perm
      (carriedOut l ++ (calls.zipIdx l.arrived).filter fun r => isControl r.1) := by
  induction calls generalizing l with
  | nil => simp
  | cons c calls ih =>
    have harrived : (l.call c).arrived = l.arrived + 1 := by
      rcases call_eq l c with ⟨_, heq⟩ | ⟨_, heq⟩ <;> rw [heq]
    have hasked : ((c :: calls).zipIdx l.arrived).filter (fun r => isControl r.1) =
        asked c l.arrived ++ (calls.zipIdx (l.arrived + 1)).filter fun r => isControl r.1 := by
      rw [List.zipIdx_cons, List.filter_cons, asked]
      split <;> simp
    have hrest := ih (call_valid hl c)
    rw [harrived] at hrest
    rw [hasked, ← List.append_assoc]
    exact hrest.trans ((call_requests hl c).append_right _)

theorem run_keeps_own (hl : Valid l) {later : List Call} (hpop : Call.pop ∉ later) {e : Entry}
    (he : e ∈ l.queued) (hown : e.IsOwn) : e ∈ (ledgerMachine.run l later).queued := by
  induction later generalizing l with
  | nil => exact he
  | cons c later ih =>
    obtain ⟨hc, hlater⟩ := not_or.mp (List.mem_cons.not.mp hpop)
    have hedit : editOf c ≠ .pop := by
      cases c with
      | pop => exact absurd rfl hc
      | _ => simp [editOf]
    exact ih (call_valid hl c) hlater (call_keeps_own hl hedit he hown)

theorem run_pops (l : Ledger) (n : ℕ) :
    (ledgerMachine.run l (List.replicate n .pop)).queued = l.queued.drop n := by
  induction n generalizing l with
  | zero => rfl
  | succ n ih =>
    rw [List.replicate_succ, Machine.run_cons, ih]
    exact List.drop_tail

theorem conserves (calls : List Call) : Conserves calls := by
  obtain ⟨hqueued, hpopped⟩ := run_erases (l := .empty) (q := .empty) rfl calls
  have hvalid := run_valid valid_empty calls
  refine ⟨hpopped, hqueued, run_requests valid_empty calls, fun e he => (hvalid.entries e he).own,
    fun later hpop e he hown => ?_, ?_⟩
  · rw [ledgerOf, Machine.run_append]
    exact run_keeps_own hvalid hpop he hown
  · rw [ledgerOf, Machine.run_append, run_pops]
    exact List.drop_length

theorem run_shaped (calls : List Call) : Shaped (queueMachine.run .empty calls).ops := by
  rw [← (run_erases (l := .empty) (q := .empty) rfl calls).1]
  exact shaped_of_follows (List.pairwise_map.mpr (run_valid valid_empty calls).shaped)

/-- The queue keeps its shape and every request, and pops the requests that share an entry with no
other in the order of arrival exactly as long as none is combined into an entry in front of one. -/
theorem shaped_conserved_in_order_iff (calls : List Call) :
    (∀ fs, fs <+: calls →
      Shaped (queueMachine.run .empty fs).ops ∧ Conserves fs ∧ InOrder (ledgerOf fs)) ↔
    ledgerMachine.Along CombinesInOrder .empty calls := by
  have hprefixes := @Machine.prefixes_hold_iff_along _ _ _ ledgerMachine CombinesInOrder .empty
    (fun l => Valid l ∧ InOrder l)
    (fun l c hl => by
      rw [← call_inOrder_iff hl.1 hl.2 c]
      exact and_iff_right (call_valid hl.1 c))
    ⟨valid_empty, .nil⟩ calls
  rw [← hprefixes]
  constructor
  · intro h fs hfs
    exact ⟨run_valid valid_empty fs, (h fs hfs).2.2⟩
  · intro h fs hfs
    exact ⟨run_shaped fs, conserves fs, (h fs hfs).2⟩

/-- A position combined into the tilt in front of a STOP is popped before the STOP. -/
theorem combining_overtakes_stop : ¬ ∀ calls : List Call,
    Shaped (queueMachine.run .empty calls).ops ∧ Conserves calls ∧ InOrder (ledgerOf calls) := by
  intro h
  have hstop := (h [.setTilt "A1B2C3" 50, .deviceCommand "A1B2C3" .stop,
    .setPosition "A1B2C3" 30]).2.2
  exact absurd hstop (by decide)

end HomeIoControl.RequestLedgerRuns
