import Mathlib.Data.List.Basic
import Mathlib.Data.List.Perm.Basic
import Mathlib.Data.List.TakeWhile
import Mathlib.Tactic.Common

/-!
# Queues whose entries are edited in place

Inserting before the first entry of a kind, editing the first entry of a kind, and the last value
that a queue of partial assignments leaves behind.
-/

namespace HomeIoControl.QueueEdits

universe u v

variable {α : Type u} {β : Type v}

/-- Insert before the first entry that satisfies the predicate, or at the end. -/
def insertBefore (p : α → Bool) (x : α) (xs : List α) : List α :=
  xs.takeWhile (fun y => !p y) ++ x :: xs.dropWhile (fun y => !p y)

/-- Edit the first entry that satisfies the predicate, if there is one. -/
def editFirst (p : α → Bool) (f : α → α) : List α → Option (List α)
  | [] => none
  | x :: xs => if p x then some (f x :: xs) else (editFirst p f xs).map (x :: ·)

/-- The entries behind the first one that satisfies the predicate. -/
def behindFirst (p : α → Bool) (xs : List α) : List α := (xs.dropWhile fun y => !p y).tail

/-- The last value that the entries assign. -/
def lastAssigned (f : α → Option β) (xs : List α) : Option β := (xs.filterMap f).getLast?

theorem editFirst_eq_some {p : α → Bool} {f : α → α} {xs ys : List α}
    (h : editFirst p f xs = some ys) :
    ∃ pre x, p x = true ∧ xs = pre ++ x :: behindFirst p xs ∧
      ys = pre ++ f x :: behindFirst p xs := by
  induction xs generalizing ys with
  | nil => cases h
  | cons x xs ih =>
    rw [editFirst] at h
    cases hx : p x with
    | true =>
      rw [if_pos hx] at h
      exact ⟨[], x, hx, by simp [behindFirst, hx], by simp [behindFirst, hx, ← Option.some.inj h]⟩
    | false =>
      simp only [hx, Bool.false_eq_true, if_false, Option.map_eq_some_iff] at h
      obtain ⟨zs, hzs, rfl⟩ := h
      obtain ⟨pre, y, hy, hxs, rfl⟩ := ih hzs
      have hbehind : behindFirst p (x :: xs) = behindFirst p xs := by simp [behindFirst, hx]
      rw [hbehind]
      exact ⟨x :: pre, y, hy, congrArg (x :: ·) hxs, rfl⟩

theorem behindFirst_of_editFirst_eq_none {p : α → Bool} {f : α → α} {xs : List α}
    (h : editFirst p f xs = none) : behindFirst p xs = [] := by
  induction xs with
  | nil => rfl
  | cons x xs ih =>
    rw [editFirst] at h
    cases hx : p x with
    | true => simp [hx] at h
    | false =>
      simp only [hx, Bool.false_eq_true, if_false, Option.map_eq_none_iff] at h
      simpa [behindFirst, hx] using ih h

/-- There is an entry to edit exactly when one satisfies the predicate. -/
theorem editFirst_eq_none_iff {p : α → Bool} {f : α → α} {xs : List α} :
    editFirst p f xs = none ↔ ∀ x ∈ xs, p x = false := by
  induction xs with
  | nil => simp [editFirst]
  | cons x xs ih => cases hx : p x <;> simp [editFirst, hx, ih]

/-- Entries that an edit neither starts from nor ends in stay as they are. -/
theorem filter_of_editFirst {p keep : α → Bool} {f : α → α} {xs ys : List α}
    (hfrom : ∀ x, p x = true → keep x = false) (hto : ∀ x, p x = true → keep (f x) = false)
    (h : editFirst p f xs = some ys) : ys.filter keep = xs.filter keep := by
  obtain ⟨pre, x, hx, heq, rfl⟩ := editFirst_eq_some h
  generalize behindFirst p xs = behind at heq ⊢
  rw [heq]
  simp [hfrom x hx, hto x hx]

/-- An in-place edit keeps a relation between neighbours that it cannot see. -/
theorem editFirst_pairwise {p : α → Bool} {f : α → α} {r : α → α → Prop} {xs ys : List α}
    (hleft : ∀ a b, p a = true → r a b → r (f a) b) (hright : ∀ a b, p b = true → r a b → r a (f b))
    (h : editFirst p f xs = some ys) (hxs : xs.Pairwise r) : ys.Pairwise r := by
  obtain ⟨pre, x, hx, heq, rfl⟩ := editFirst_eq_some h
  rw [heq, List.pairwise_append, List.pairwise_cons] at hxs
  rw [List.pairwise_append, List.pairwise_cons]
  obtain ⟨hpre, ⟨hhead, htail⟩, hcross⟩ := hxs
  refine ⟨hpre, ⟨fun b hb => hleft x b hx (hhead b hb), htail⟩, ?_⟩
  intro a ha b hb
  rcases List.mem_cons.mp hb with rfl | hb
  · exact hright a x hx (hcross a ha x List.mem_cons_self)
  · exact hcross a ha b (List.mem_cons_of_mem _ hb)

/-- In a queue whose entries of a kind come last, everything from the first of them is of it. -/
theorem mem_dropWhile_of_banded {p : α → Bool} {xs : List α}
    (h : xs.Pairwise fun a b => p a = true → p b = true) {x : α}
    (hx : x ∈ xs.dropWhile fun y => !p y) : p x = true := by
  induction xs with
  | nil => cases hx
  | cons y ys ih =>
    obtain ⟨hhead, htail⟩ := List.pairwise_cons.mp h
    cases hy : p y with
    | true =>
      simp only [List.dropWhile_cons, hy, Bool.not_true, Bool.false_eq_true, if_false] at hx
      rcases List.mem_cons.mp hx with rfl | hx
      · exact hy
      · exact hhead x hx hy
    | false =>
      simp only [List.dropWhile_cons, hy, Bool.not_false, if_true] at hx
      exact ih htail hx

theorem insertBefore_banded {p : α → Bool} {x : α} (hx : p x = false) {xs : List α}
    (h : xs.Pairwise fun a b => p a = true → p b = true) :
    (insertBefore p x xs).Pairwise fun a b => p a = true → p b = true := by
  have hbefore : ∀ a ∈ xs.takeWhile (fun y => !p y), p a = false := by
    intro a ha
    simpa using List.mem_takeWhile_imp ha
  rw [insertBefore, List.pairwise_append, List.pairwise_cons]
  refine ⟨h.sublist (List.takeWhile_sublist _), ⟨?_, h.sublist (List.dropWhile_sublist _)⟩, ?_⟩
  · intro b _ hxt
    simp [hx] at hxt
  · intro a ha b _ hat
    simp [hbefore a ha] at hat

theorem mem_insertBefore {p : α → Bool} {x y : α} {xs : List α} :
    y ∈ insertBefore p x xs ↔ y = x ∨ y ∈ xs := by
  have hsplit : y ∈ xs ↔ y ∈ xs.takeWhile (fun z => !p z) ∨ y ∈ xs.dropWhile fun z => !p z := by
    rw [← List.mem_append, List.takeWhile_append_dropWhile]
  rw [insertBefore, List.mem_append, List.mem_cons, hsplit]
  tauto

/-- Insertion keeps a relation that the new entry has with what stands before and behind it. -/
theorem insertBefore_pairwise {p : α → Bool} {r : α → α → Prop} {x : α} {xs : List α}
    (hbanded : xs.Pairwise fun a b => p a = true → p b = true) (hxs : xs.Pairwise r)
    (hbefore : ∀ a ∈ xs, p a = false → r a x) (hbehind : ∀ b ∈ xs, p b = true → r x b) :
    (insertBefore p x xs).Pairwise r := by
  have hall : (xs.takeWhile (fun y => !p y) ++ xs.dropWhile fun y => !p y).Pairwise r := by
    rwa [List.takeWhile_append_dropWhile]
  obtain ⟨htake, hdrop, hcross⟩ := List.pairwise_append.mp hall
  rw [insertBefore, List.pairwise_append, List.pairwise_cons]
  refine ⟨htake, ⟨?_, hdrop⟩, ?_⟩
  · intro b hb
    exact hbehind b ((List.dropWhile_sublist _).subset hb) (mem_dropWhile_of_banded hbanded hb)
  · intro a ha b hb
    have hpa : p a = false := by simpa using List.mem_takeWhile_imp ha
    rcases List.mem_cons.mp hb with rfl | hb
    · exact hbefore a ((List.takeWhile_sublist _).subset ha) hpa
    · exact hcross a ha b hb

theorem insertBefore_perm (p : α → Bool) (x : α) (xs : List α) :
    (insertBefore p x xs).Perm (x :: xs) := by
  have hmiddle : (insertBefore p x xs).Perm
      (x :: ((xs.takeWhile fun y => !p y) ++ xs.dropWhile fun y => !p y)) := List.perm_middle
  rwa [List.takeWhile_append_dropWhile] at hmiddle

theorem filter_insertBefore {p keep : α → Bool} {x : α} (hx : keep x = false) (xs : List α) :
    (insertBefore p x xs).filter keep = xs.filter keep := by
  have hsplit := congrArg (List.filter keep)
    (List.takeWhile_append_dropWhile (p := fun y => !p y) (l := xs))
  rw [List.filter_append] at hsplit
  rw [insertBefore, List.filter_append, List.filter_cons_of_neg (by simp [hx]), hsplit]

/-- A view of the entries that decides where they stand sees the same insertion. -/
theorem map_insertBefore {p : α → Bool} (view : β → α) (x : β) (xs : List β) :
    (insertBefore (fun y => p (view y)) x xs).map view =
      insertBefore p (view x) (xs.map view) := by
  simp [insertBefore, List.takeWhile_map, List.dropWhile_map, Function.comp_def]

theorem map_editFirst (view : β → α) {p : α → Bool} {f : α → α} {g : β → β}
    (h : ∀ y, view (g y) = f (view y)) (xs : List β) :
    (editFirst (fun y => p (view y)) g xs).map (List.map view) = editFirst p f (xs.map view) := by
  induction xs with
  | nil => rfl
  | cons x xs ih =>
    rw [editFirst, List.map_cons, editFirst, ← ih]
    split
    · simp [h]
    · simp [Function.comp_def]

@[simp] theorem lastAssigned_nil (f : α → Option β) : lastAssigned f [] = none := rfl

@[simp] theorem lastAssigned_append (f : α → Option β) (xs ys : List α) :
    lastAssigned f (xs ++ ys) = (lastAssigned f ys).or (lastAssigned f xs) := by
  simp [lastAssigned, List.filterMap_append, List.getLast?_append]

@[simp] theorem lastAssigned_cons (f : α → Option β) (x : α) (xs : List α) :
    lastAssigned f (x :: xs) = (lastAssigned f xs).or (f x) := by
  have hsingle : lastAssigned f [x] = f x := by cases hx : f x <;> simp [lastAssigned, hx]
  rw [← List.singleton_append, lastAssigned_append, hsingle]

theorem lastAssigned_eq_none {f : α → Option β} {xs : List α} (h : ∀ x ∈ xs, f x = none) :
    lastAssigned f xs = none := by
  rw [lastAssigned, List.filterMap_eq_nil_iff.mpr h]
  rfl

/-- Entries that assign nothing may be dropped. -/
theorem lastAssigned_filter {f : α → Option β} {q : α → Bool}
    (h : ∀ x, q x = false → f x = none) (xs : List α) :
    lastAssigned f (xs.filter q) = lastAssigned f xs := by
  induction xs with
  | nil => rfl
  | cons x xs ih =>
    cases hq : q x with
    | true => simp [hq, ih]
    | false => simp [hq, ih, h x hq]

/-- An entry inserted before the ones that assign nothing takes effect last. -/
theorem lastAssigned_insertBefore {f : α → Option β} {p : α → Bool} {xs : List α}
    (hbanded : xs.Pairwise fun a b => p a = true → p b = true)
    (h : ∀ x, p x = true → f x = none) (x : α) :
    lastAssigned f (insertBefore p x xs) = (f x).or (lastAssigned f xs) := by
  have hbehind : lastAssigned f (xs.dropWhile fun y => !p y) = none :=
    lastAssigned_eq_none fun y hy => h y (mem_dropWhile_of_banded hbanded hy)
  have hsplit := lastAssigned_append f (xs.takeWhile fun y => !p y) (xs.dropWhile fun y => !p y)
  rw [List.takeWhile_append_dropWhile, hbehind, Option.none_or] at hsplit
  rw [insertBefore, lastAssigned_append, lastAssigned_cons, hbehind, hsplit, Option.none_or]

/-- Entries in front of the first of a kind are not moved by an insertion before it. -/
theorem insertBefore_append {p : α → Bool} {front : List α} (h : ∀ y ∈ front, p y = false) (x : α)
    (xs : List α) : insertBefore p x (front ++ xs) = front ++ insertBefore p x xs := by
  induction front with
  | nil => rfl
  | cons y front ih =>
    have hy : p y = false := h y List.mem_cons_self
    have hrest := ih fun z hz => h z (List.mem_cons_of_mem _ hz)
    rw [insertBefore] at hrest ⊢
    simp only [List.cons_append, List.takeWhile_cons, List.dropWhile_cons, hy, Bool.not_false,
      if_true]
    exact congrArg (y :: ·) hrest

/-- An edit leaves every entry in its place, where it is edited or not. -/
theorem editFirst_place {p : α → Bool} {f : α → α} {front rest ys : List α} {x : α}
    (h : editFirst p f (front ++ x :: rest) = some ys) :
    ∃ front' x' rest', ys = front' ++ x' :: rest' ∧ front'.length = front.length ∧
      (x' = x ∨ p x = true ∧ x' = f x) := by
  induction front generalizing ys with
  | nil =>
    rw [List.nil_append, editFirst] at h
    cases hx : p x with
    | true =>
      rw [if_pos hx] at h
      exact ⟨[], f x, rest, (Option.some.inj h).symm, rfl, Or.inr ⟨rfl, rfl⟩⟩
    | false =>
      simp only [hx, Bool.false_eq_true, if_false, Option.map_eq_some_iff] at h
      obtain ⟨zs, -, rfl⟩ := h
      exact ⟨[], x, zs, rfl, rfl, Or.inl rfl⟩
  | cons y front ih =>
    rw [List.cons_append, editFirst] at h
    cases hy : p y with
    | true =>
      rw [if_pos hy] at h
      exact ⟨f y :: front, x, rest, (Option.some.inj h).symm, rfl, Or.inl rfl⟩
    | false =>
      simp only [hy, Bool.false_eq_true, if_false, Option.map_eq_some_iff] at h
      obtain ⟨zs, hzs, rfl⟩ := h
      obtain ⟨front', x', rest', rfl, hlength, hx'⟩ := ih hzs
      exact ⟨y :: front', x', rest', rfl, congrArg Nat.succ hlength, hx'⟩

end HomeIoControl.QueueEdits
