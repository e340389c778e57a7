import Mathlib.Data.List.Basic

/-!
# Texts and their pieces

Parts that do not contain a separator can be told from the text that they are joined to, and a
sign from the number behind it. A reader that may reject a text has accepted each of its pieces.
-/

namespace HomeIoControl.TextPieces

/-- What a test of each member finds. -/
theorem forall_mem_of_all {α : Type} {p : α → Prop} [DecidablePred p] {l : List α}
    (h : l.all (fun x => decide (p x)) = true) : ∀ x ∈ l, p x :=
  fun x hx => of_decide_eq_true (List.all_eq_true.mp h x hx)

/-- The sign that a text opens with, and the rest. -/
def splitSign : List Char → List Char × List Char
  | '-' :: rest => (['-'], rest)
  | '+' :: rest => (['+'], rest)
  | text => ([], text)

theorem splitSign_append {text sign rest : List Char} (h : splitSign text = (sign, rest)) :
    text = sign ++ rest ∧ (sign = [] ∨ sign = ['+'] ∨ sign = ['-']) := by
  unfold splitSign at h
  split at h <;> obtain ⟨rfl, rfl⟩ := Prod.mk.inj h <;> simp

/-- What is accepted in two steps is accepted in each. -/
theorem bind_ok {ε α β : Type} {x : Except ε α} {f : α → Except ε β} {b : β}
    (h : x >>= f = .ok b) : ∃ a, x = .ok a ∧ f a = .ok b := by
  cases x with
  | error r => cases h
  | ok a => exact ⟨a, rfl, h⟩

section

variable {α : Type} {sep : α}

theorem intercalate_cons (part : List α) {parts : List (List α)} (h : parts ≠ []) :
    List.intercalate [sep] (part :: parts) = part ++ sep :: List.intercalate [sep] parts := by
  obtain ⟨first, rest, rfl⟩ := List.exists_cons_of_ne_nil h
  rfl

theorem length_intercalate (parts : List (List α)) :
    (List.intercalate [sep] parts).length = parts.flatten.length + (parts.length - 1) := by
  induction parts with
  | nil => rfl
  | cons part parts ih =>
    by_cases hlast : parts = []
    · subst hlast
      simp
    · have hpos := List.length_pos_iff.mpr hlast
      rw [intercalate_cons part hlast, List.length_append, List.length_cons, ih,
        List.flatten_cons, List.length_append, List.length_cons]
      omega

/-- Parts that are made of two texts are no longer than all the texts. -/
theorem length_zipWith_append (keys values : List (List α)) :
    (List.zipWith (· ++ ·) keys values).flatten.length ≤
      keys.flatten.length + values.flatten.length := by
  induction keys generalizing values with
  | nil => exact Nat.zero_le _
  | cons key keys ih =>
    cases values with
    | nil => exact Nat.zero_le _
    | cons value values =>
      have hrest := ih values
      simp only [List.zipWith_cons_cons, List.flatten_cons, List.length_append]
      omega

theorem mem_zipWith_append {keys values : List (List α)} {part : List α}
    (h : part ∈ List.zipWith (· ++ ·) keys values) :
    ∃ key ∈ keys, ∃ value ∈ values, part = key ++ value := by
  rw [← List.map_uncurry_zip_eq_zipWith] at h
  obtain ⟨⟨key, value⟩, hmem, rfl⟩ := List.mem_map.mp h
  obtain ⟨hkey, hvalue⟩ := List.of_mem_zip hmem
  exact ⟨key, hkey, value, hvalue, rfl⟩

/-- Values behind the same keys are told apart. -/
theorem zipWith_append_inj {keys values values' : List (List α)}
    (h : values.length = keys.length) (h' : values'.length = keys.length)
    (heq : List.zipWith (· ++ ·) keys values = List.zipWith (· ++ ·) keys values') :
    values = values' := by
  induction keys generalizing values values' with
  | nil => rw [List.length_eq_zero_iff.mp h, List.length_eq_zero_iff.mp h']
  | cons key keys ih =>
    obtain ⟨value, values, rfl⟩ := List.exists_cons_of_length_eq_add_one h
    obtain ⟨value', values', rfl⟩ := List.exists_cons_of_length_eq_add_one h'
    obtain ⟨hfirst, hrest⟩ := List.cons.inj heq
    rw [List.append_cancel_left hfirst, ih (Nat.succ.inj h) (Nat.succ.inj h') hrest]

/-- Joined parts are the same exactly if the texts are. -/
theorem intercalate_inj [DecidableEq α] {parts parts' : List (List α)} (hne : parts ≠ [])
    (hne' : parts' ≠ []) (h : ∀ part ∈ parts, sep ∉ part) (h' : ∀ part ∈ parts', sep ∉ part)
    (heq : List.intercalate [sep] parts = List.intercalate [sep] parts') : parts = parts' := by
  rw [← List.splitOn_intercalate sep h hne, ← List.splitOn_intercalate sep h' hne', heq]

end

end HomeIoControl.TextPieces
