import Mathlib.Data.List.Pairwise
import Mathlib.Logic.Function.Basic

/-!
# Runs of a deterministic machine

A machine answers each event with its next state and a list of outputs. A run folds the
step over a list of events. Properties of whole runs are reduced here, once, to one-step
obligations: invariants, and conditions met along a run. A store of named values holds what was
written last, and a machine refines it if each step shows as a few writes.
-/

namespace HomeIoControl.MachineRuns

universe u v w

/-- A deterministic reactive machine. -/
structure Machine (σ : Type u) (ε : Type v) (ω : Type w) where
  step : σ → ε → σ × List ω

variable {σ : Type u} {ε : Type v} {ω : Type w}

namespace Machine

/-- The state after a list of events. -/
def run (m : Machine σ ε ω) (s : σ) : List ε → σ
  | [] => s
  | e :: es => m.run (m.step s e).1 es

/-- The outputs of a list of events, in order. -/
def outputs (m : Machine σ ε ω) (s : σ) : List ε → List ω
  | [] => []
  | e :: es => (m.step s e).2 ++ m.outputs (m.step s e).1 es

/-- Every step of the run is taken in a state that meets the condition. -/
def Along (m : Machine σ ε ω) (ok : σ → ε → Prop) (s : σ) : List ε → Prop
  | [] => True
  | e :: es => ok s e ∧ m.Along ok (m.step s e).1 es

instance decidableAlong (m : Machine σ ε ω) (ok : σ → ε → Prop) [∀ s e, Decidable (ok s e)] :
    (s : σ) → (es : List ε) → Decidable (m.Along ok s es)
  | _, [] => isTrue trivial
  | s, e :: es =>
    have := decidableAlong m ok (m.step s e).1 es
    inferInstanceAs (Decidable (ok s e ∧ m.Along ok (m.step s e).1 es))

variable (m : Machine σ ε ω) {ok : σ → ε → Prop} {s : σ}

@[simp] theorem run_nil : m.run s [] = s := rfl

@[simp] theorem run_cons (e : ε) (es : List ε) : m.run s (e :: es) = m.run (m.step s e).1 es := rfl

@[simp] theorem outputs_nil : m.outputs s [] = [] := rfl

@[simp] theorem outputs_cons (e : ε) (es : List ε) :
    m.outputs s (e :: es) = (m.step s e).2 ++ m.outputs (m.step s e).1 es := rfl

@[simp] theorem along_nil : m.Along ok s [] := trivial

@[simp] theorem along_cons {e : ε} {es : List ε} :
    m.Along ok s (e :: es) ↔ ok s e ∧ m.Along ok (m.step s e).1 es := Iff.rfl

theorem run_append (es fs : List ε) : m.run s (es ++ fs) = m.run (m.run s es) fs := by
  induction es generalizing s with
  | nil => rfl
  | cons e es ih => simpa using ih

theorem along_append {es fs : List ε} :
    m.Along ok s (es ++ fs) ↔ m.Along ok s es ∧ m.Along ok (m.run s es) fs := by
  induction es generalizing s with
  | nil => simp
  | cons e es ih => simp [ih, and_assoc]

/-- A property kept by every step holds after every run. -/
theorem run_keeps (inv : σ → Prop) (keep : ∀ s e, inv s → inv (m.step s e).1) (h₀ : inv s)
    (es : List ε) : inv (m.run s es) := by
  induction es generalizing s with
  | nil => exact h₀
  | cons e es ih => exact ih (keep s e h₀)

/-- What every step keeps under a condition holds after every run along the condition. -/
theorem run_keeps_along {inv : σ → Prop} (keep : ∀ s e, inv s → ok s e → inv (m.step s e).1)
    (h₀ : inv s) {es : List ε} (along : m.Along ok s es) : inv (m.run s es) := by
  induction es generalizing s with
  | nil => exact h₀
  | cons e es ih => exact ih (keep s e h₀ along.1) along.2

/-- What every step writes, where an invariant holds and a condition is met, is all that a run
along the condition writes. -/
theorem outputs_keep {inv : σ → Prop} {good : ω → Prop}
    (keep : ∀ s e, inv s → inv (m.step s e).1)
    (writes : ∀ s e, inv s → ok s e → ∀ o ∈ (m.step s e).2, good o) (h₀ : inv s) {es : List ε}
    (along : m.Along ok s es) : ∀ o ∈ m.outputs s es, good o := by
  induction es generalizing s with
  | nil =>
    intro o ho
    cases ho
  | cons e es ih =>
    intro o ho
    rcases List.mem_append.mp ho with ho | ho
    · exact writes s e h₀ along.1 o ho
    · exact ih (keep s e h₀) along.2 o ho

theorem Along.weaken {ok' : σ → ε → Prop} {es : List ε} (h : m.Along ok s es)
    (imp : ∀ s e, ok s e → ok' s e) : m.Along ok' s es := by
  induction es generalizing s with
  | nil => trivial
  | cons e es ih => exact ⟨imp s e h.1, ih h.2⟩

/-- Where every step keeps an invariant, a condition may be replaced by one that follows from it
under the invariant. -/
theorem Along.under {ok' : σ → ε → Prop} {inv : σ → Prop}
    (keep : ∀ s e, inv s → inv (m.step s e).1) (imp : ∀ s e, inv s → ok s e → ok' s e)
    (h₀ : inv s) {es : List ε} (h : m.Along ok s es) : m.Along ok' s es := by
  induction es generalizing s with
  | nil => trivial
  | cons e es ih => exact ⟨imp s e h₀ h.1, ih (keep s e h₀) h.2⟩

theorem Along.and {ok' : σ → ε → Prop} {es : List ε} (h : m.Along ok s es)
    (h' : m.Along ok' s es) : m.Along (fun s e => ok s e ∧ ok' s e) s es := by
  induction es generalizing s with
  | nil => trivial
  | cons e es ih => exact ⟨⟨h.1, h'.1⟩, ih h.2 h'.2⟩

theorem along_of_forall (h : ∀ s e, ok s e) (es : List ε) : m.Along ok s es := by
  induction es generalizing s with
  | nil => trivial
  | cons e es ih => exact ⟨h s e, ih⟩

/-- Under an invariant two conditions that agree on every step agree along every run. -/
theorem along_iff_along {ok' : σ → ε → Prop} {inv : σ → Prop}
    (keep : ∀ s e, inv s → inv (m.step s e).1) (same : ∀ s e, inv s → (ok s e ↔ ok' s e))
    (h₀ : inv s) (es : List ε) : m.Along ok s es ↔ m.Along ok' s es := by
  induction es generalizing s with
  | nil => simp
  | cons e es ih => rw [along_cons, along_cons, same s e h₀, ih (keep s e h₀)]

/-- The machine whose state also holds what it has written so far. -/
def recording : Machine (σ × List ω) ε ω where
  step s e := (((m.step s.1 e).1, s.2 ++ (m.step s.1 e).2), (m.step s.1 e).2)

/-- Where a step keeps an invariant exactly under a condition, the invariant holds all along a
run exactly when the run meets the condition. -/
theorem prefixes_hold_iff_along {inv : σ → Prop}
    (keep : ∀ s e, inv s → (inv (m.step s e).1 ↔ ok s e)) (h₀ : inv s) (es : List ε) :
    (∀ fs, fs <+: es → inv (m.run s fs)) ↔ m.Along ok s es := by
  induction es generalizing s with
  | nil =>
    constructor
    · intro _
      trivial
    · intro _ fs hfs
      rw [List.prefix_nil.mp hfs]
      exact h₀
  | cons e es ih =>
    constructor
    · intro h
      have hstep : inv (m.step s e).1 := h [e] (by simp)
      refine ⟨(keep s e h₀).mp hstep, (ih hstep).mp ?_⟩
      intro fs hfs
      exact h (e :: fs) (List.cons_prefix_cons.mpr ⟨rfl, hfs⟩)
    · intro h fs hfs
      cases fs with
      | nil => exact h₀
      | cons f fs =>
        obtain ⟨rfl, hrest⟩ := List.cons_prefix_cons.mp hfs
        exact (ih ((keep s f h₀).mpr h.1)).mpr h.2 fs hrest

/-- Where every event either comes to the goal or brings it nearer by the ticks and farther by the
delays, a run with more ticks than its distance and its delays comes to the goal. -/
theorem comes_to {goal : σ → ε → Prop} {within : ℕ → σ → Prop} {tick delay : ε → Bool}
    (nearer : ∀ n s e, within n s → goal s e ∨
      ∃ n', n' + (tick e).toNat ≤ n + (delay e).toNat ∧ within n' (m.step s e).1)
    {n : ℕ} (h₀ : within n s) {es : List ε} (enough : n + es.countP delay < es.countP tick) :
    ∃ before e after, es = before ++ e :: after ∧ goal (m.run s before) e ∧
      before.countP tick ≤ n + before.countP delay := by
  have hcount : ∀ (p : ε → Bool) (e : ε) (es : List ε),
      (e :: es).countP p = (p e).toNat + es.countP p := by
    intro p e es
    rw [List.countP_cons, Nat.add_comm]
    cases p e <;> rfl
  induction es generalizing s n with
  | nil => exact absurd enough (Nat.not_lt_zero _)
  | cons e es ih =>
    rcases nearer n s e h₀ with hgoal | ⟨n', hnear, hwithin⟩
    · exact ⟨[], e, es, rfl, hgoal, Nat.zero_le _⟩
    · rw [hcount, hcount] at enough
      obtain ⟨before, f, after, rfl, hgoal, hticks⟩ := ih hwithin (by omega)
      refine ⟨e :: before, f, after, rfl, hgoal, ?_⟩
      rw [hcount, hcount]
      omega

/-- The second list of events is the first with events put in, each in a state that admits it. -/
inductive Inserts (m : Machine σ ε ω) (extra : σ → ε → Prop) : σ → List ε → List ε → Prop
  | nil (s : σ) : Inserts m extra s [] []
  | keep {s : σ} (e : ε) {es fs : List ε} (rest : Inserts m extra (m.step s e).1 es fs) :
      Inserts m extra s (e :: es) (e :: fs)
  | put {s : σ} {e : ε} {es fs : List ε} (admitted : extra s e)
      (rest : Inserts m extra (m.step s e).1 es fs) : Inserts m extra s es (e :: fs)

/-- Events that do nothing in the states they are put into leave no trace of a run. -/
theorem Inserts.same {extra : σ → ε → Prop} (idle : ∀ s e, extra s e → m.step s e = (s, []))
    {es fs : List ε} (h : m.Inserts extra s es fs) :
    m.run s fs = m.run s es ∧ m.outputs s fs = m.outputs s es := by
  induction h with
  | nil s => exact ⟨rfl, rfl⟩
  | @keep s e es fs rest ih => exact ⟨ih.1, congrArg ((m.step s e).2 ++ ·) ih.2⟩
  | @put s e es fs admitted rest ih =>
    have hidle := idle s e admitted
    rw [run_cons, outputs_cons]
    rw [hidle] at ih ⊢
    exact ih

section

variable {β : Type*} {R : σ → σ → Prop} {keep : ε → Bool} {see : ω → Option β} {s' : σ}

/-- Where the kept events act alike on related states, and the others leave them related unseen,
a run is seen as the run of its kept events. -/
theorem unwind
    (kept : ∀ s s' e, R s s' → keep e = true → ok s e →
      (m.step s e).2.filterMap see = (m.step s' e).2.filterMap see ∧
        R (m.step s e).1 (m.step s' e).1)
    (others : ∀ s s' e, R s s' → keep e = false → ok s e →
      (m.step s e).2.filterMap see = [] ∧ R (m.step s e).1 s')
    (h₀ : R s s') {es : List ε} (along : m.Along ok s es) :
    (m.outputs s es).filterMap see = (m.outputs s' (es.filter keep)).filterMap see ∧
      R (m.run s es) (m.run s' (es.filter keep)) := by
  induction es generalizing s s' with
  | nil => exact ⟨rfl, h₀⟩
  | cons e es ih =>
    cases hkeep : keep e with
    | true =>
      obtain ⟨hseen, hrel⟩ := kept s s' e h₀ hkeep along.1
      obtain ⟨hrest, hend⟩ := ih hrel along.2
      rw [List.filter_cons_of_pos hkeep]
      refine ⟨?_, hend⟩
      rw [outputs_cons, outputs_cons, List.filterMap_append, List.filterMap_append, hseen, hrest]
    | false =>
      obtain ⟨hseen, hrel⟩ := others s s' e h₀ hkeep along.1
      obtain ⟨hrest, hend⟩ := ih hrel along.2
      rw [List.filter_cons_of_neg (by simp [hkeep])]
      refine ⟨?_, hend⟩
      rw [outputs_cons, List.filterMap_append, hseen, List.nil_append, hrest]

/-- A condition on the kept events alone is met along a run when it is along its kept events. -/
theorem along_filter_iff
    (kept : ∀ s s' e, R s s' → keep e = true → ok s e → R (m.step s e).1 (m.step s' e).1)
    (others : ∀ s s' e, R s s' → keep e = false → R (m.step s e).1 s')
    (same : ∀ s s' e, R s s' → keep e = true → (ok s e ↔ ok s' e))
    (free : ∀ s e, keep e = false → ok s e) (h₀ : R s s') (es : List ε) :
    m.Along ok s es ↔ m.Along ok s' (es.filter keep) := by
  induction es generalizing s s' with
  | nil => simp
  | cons e es ih =>
    cases hkeep : keep e with
    | true =>
      rw [List.filter_cons_of_pos hkeep, along_cons, along_cons, same s s' e h₀ hkeep]
      exact and_congr_right fun hok =>
        ih (kept s s' e h₀ hkeep ((same s s' e h₀ hkeep).mpr hok))
    | false =>
      rw [List.filter_cons_of_neg (by simp [hkeep]), along_cons, and_iff_right (free s e hkeep)]
      exact ih (others s s' e h₀ hkeep)

end

end Machine

section

variable {κ ν ι : Type} [DecidableEq κ]

/-- The store after some writes. -/
def written (store : κ → ν) (writes : List (κ × ν)) : κ → ν :=
  writes.foldl (fun s w => Function.update s w.1 w.2) store

/-- What was written last under a name. -/
def lastWrite (writes : List (κ × ν)) (key : κ) : Option ν := writes.reverse.lookup key

theorem written_append (store : κ → ν) (writes later : List (κ × ν)) :
    written store (writes ++ later) = written (written store writes) later :=
  List.foldl_append

theorem lastWrite_cons (w : κ × ν) (rest : List (κ × ν)) (key : κ) :
    lastWrite (w :: rest) key =
      (lastWrite rest key).or (if key = w.1 then some w.2 else none) := by
  rw [lastWrite, List.reverse_cons, List.lookup_append, List.lookup_cons]
  by_cases hkey : key = w.1
  · simp [lastWrite, hkey]
  · simp [lastWrite, beq_eq_false_iff_ne.mpr hkey, hkey]

/-- A store holds what was written last, or else what it held before. -/
theorem written_apply (store : κ → ν) (writes : List (κ × ν)) (key : κ) :
    written store writes key = (lastWrite writes key).getD (store key) := by
  induction writes generalizing store with
  | nil => rfl
  | cons w rest ih =>
    have hrest : written store (w :: rest) = written (Function.update store w.1 w.2) rest := rfl
    rw [hrest, ih, lastWrite_cons]
    cases lastWrite rest key with
    | some value => rfl
    | none =>
      by_cases hkey : key = w.1
      · subst hkey
        simp
      · simp [hkey]

/-- A run shows as all the writes of its steps. -/
theorem view_run {τ : Type} {view : τ → κ → ν} {step : τ → ι → τ} {writes : ι → List (κ × ν)}
    {inputs : List ι} (h : ∀ s, ∀ i ∈ inputs, view (step s i) = written (view s) (writes i))
    (s : τ) : view (inputs.foldl step s) = written (view s) (inputs.flatMap writes) := by
  induction inputs generalizing s with
  | nil => rfl
  | cons i rest ih =>
    have hrest := ih (fun s' j hj => h s' j (List.mem_cons_of_mem _ hj)) (step s i)
    rw [List.foldl_cons, hrest, h s i List.mem_cons_self, List.flatMap_cons, written_append]

end

end HomeIoControl.MachineRuns
