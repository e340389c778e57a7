import Mathlib.Data.List.Destutter
import Mathlib.Data.List.Induction
import Mathlib.Data.List.Nodup

/-!
# The first of each key

A list without the elements whose key occurred before, and the array of fixed capacity that
collects such elements one at a time. A collector tests for a repeat before it tests whether it
is full, so it overflows exactly when there are more keys than it has room for. A collector that
compares with the last element alone drops only the repeats that come next to each other.
-/

namespace HomeIoControl.FirstOccurrences

variable {α β γ : Type} [DecidableEq β] (key : α → β)

/-- The elements whose key does not occur before them. -/
def firsts (xs : List α) : List α :=
  xs.foldl (fun kept x => if key x ∈ kept.map key then kept else kept ++ [x]) []

@[simp] theorem firsts_nil : firsts key [] = [] := rfl

variable {key}

theorem firsts_concat (xs : List α) (x : α) : firsts key (xs ++ [x]) =
    if key x ∈ (firsts key xs).map key then firsts key xs else firsts key xs ++ [x] := by
  rw [firsts, List.foldl_append]
  rfl

/-- No key is there twice. -/
theorem nodup_keys_firsts (xs : List α) : ((firsts key xs).map key).Nodup := by
  induction xs using List.reverseRecOn with
  | nil => exact List.nodup_nil
  | append_singleton xs x ih =>
    rw [firsts_concat]
    split_ifs with hseen
    · exact ih
    · rw [List.map_append, List.map_singleton]
      exact ih.append (List.nodup_singleton _) (List.disjoint_singleton.mpr hseen)

theorem firsts_map (f : γ → α) (xs : List γ) :
    firsts key (xs.map f) = (firsts (fun x => key (f x)) xs).map f := by
  induction xs using List.reverseRecOn with
  | nil => rfl
  | append_singleton xs x ih =>
    rw [List.map_append, List.map_singleton, firsts_concat, firsts_concat, ih, List.map_map]
    have hkeys : (firsts (fun x => key (f x)) xs).map (key ∘ f) =
        (firsts (fun x => key (f x)) xs).map fun x => key (f x) := rfl
    rw [hkeys]
    split_ifs
    · rfl
    · rw [List.map_append, List.map_singleton]

/-- What a collector holds, and whether it had to drop anything. -/
structure Collected (α : Type) where
  kept : List α
  overflow : Bool

variable (key) (capacity : ℕ)

/-- One more element: a repeat changes nothing, even in a full collector. -/
def Collected.add (c : Collected α) (x : α) : Collected α :=
  if key x ∈ c.kept.map key then c
  else if capacity ≤ c.kept.length then { c with overflow := true }
  else { c with kept := c.kept ++ [x] }

variable {key}

theorem collected_firsts (xs : List α) :
    xs.foldl (Collected.add key capacity) ⟨[], false⟩ =
      ⟨(firsts key xs).take capacity, decide (capacity < (firsts key xs).length)⟩ := by
  induction xs using List.reverseRecOn with
  | nil => simp
  | append_singleton xs x ih =>
    rw [List.foldl_append, ih, List.foldl_cons, List.foldl_nil, firsts_concat]
    have hlength : (firsts key xs).length < capacity ↔
        ¬ capacity ≤ ((firsts key xs).take capacity).length := by
      rw [List.length_take]
      omega
    by_cases hseen : key x ∈ (firsts key xs).map key
    · rw [if_pos hseen]
      by_cases hkept : key x ∈ ((firsts key xs).take capacity).map key
      · rw [Collected.add, if_pos hkept]
      · -- a repeat of an element that was dropped: the collector had already overflowed
        have hfull : capacity < (firsts key xs).length := by
          by_contra hroom
          rw [List.take_of_length_le (Nat.le_of_not_lt hroom)] at hkept
          exact hkept hseen
        rw [Collected.add, if_neg hkept, if_pos (not_not.mp (mt hlength.mpr (Nat.lt_asymm hfull))),
          decide_eq_true hfull]
    · have hkept : key x ∉ ((firsts key xs).take capacity).map key := fun h =>
        hseen (List.map_subset key (List.take_subset _ _) h)
      rw [if_neg hseen, Collected.add, if_neg hkept, List.length_append, List.length_singleton]
      rcases Nat.lt_or_ge (firsts key xs).length capacity with hroom | hfull
      · rw [if_neg (hlength.mp hroom), List.take_of_length_le (Nat.le_of_lt hroom),
          List.take_of_length_le (by rw [List.length_append, List.length_singleton]; omega),
          decide_eq_false (Nat.lt_asymm hroom),
          decide_eq_false (Nat.not_lt.mpr (Nat.succ_le_of_lt hroom))]
      · have hover : capacity < (firsts key xs).length + 1 := Nat.lt_succ_of_le hfull
        rw [if_pos (not_not.mp (mt hlength.mpr (Nat.not_lt.mpr hfull))),
          List.take_append_of_le_length hfull, decide_eq_true hover]

section AppendNew

variable {α : Type} [DecidableEq α]

/-- One more element, unless it repeats the last. -/
def appendNew (kept : List α) (x : α) : List α :=
  if kept.getLast? = some x then kept else kept ++ [x]

theorem getLast?_appendNew (kept : List α) (x : α) : (appendNew kept x).getLast? = some x := by
  rw [appendNew]
  split_ifs with h
  · exact h
  · exact List.getLast?_concat

theorem foldl_appendNew_concat (xs front : List α) (a : α) :
    xs.foldl appendNew (front ++ [a]) = front ++ xs.destutter' (· ≠ ·) a := by
  induction xs generalizing front a with
  | nil => rfl
  | cons x xs ih =>
    rw [List.foldl_cons, appendNew, List.getLast?_concat]
    by_cases h : a = x
    · rw [if_pos (congrArg some h), ih, List.destutter'_cons_neg _ (not_not.mpr h)]
    · rw [if_neg fun hsome => h (Option.some.inj hsome), ih, List.destutter'_cons_pos _ h,
        List.append_assoc, List.singleton_append]

theorem foldl_appendNew (xs : List α) : xs.foldl appendNew [] = xs.destutter (· ≠ ·) := by
  cases xs with
  | nil => rfl
  | cons x xs => exact foldl_appendNew_concat xs [] x

/-- Nothing is dropped exactly where no two neighbours are equal. -/
theorem foldl_appendNew_eq_self {xs : List α} :
    xs.foldl appendNew [] = xs ↔ xs.IsChain (· ≠ ·) := by
  rw [foldl_appendNew]
  exact List.destutter_eq_self_iff _ xs

/-- Whatever is dropped is missed. -/
theorem isChain_of_length_foldl_appendNew {xs : List α}
    (h : (xs.foldl appendNew []).length = xs.length) : xs.IsChain (· ≠ ·) := by
  rw [foldl_appendNew] at h
  exact (List.destutter_eq_self_iff _ xs).mp ((List.destutter_sublist _ xs).eq_of_length h)

end AppendNew

end HomeIoControl.FirstOccurrences
