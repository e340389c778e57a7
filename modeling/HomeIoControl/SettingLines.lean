import Mathlib.Data.List.Nodup

/-!
# Lines of settings

A line that shows some of a fixed list of settings, each behind a blank as its key and its value.
Which of them it shows, and what, can be told from the line.
-/

namespace HomeIoControl.SettingLines

/-- The text of a setting, nothing if it is not shown. -/
def settingText (key : List Char) : Option (List Char) → List Char
  | none => []
  | some value => ' ' :: (key ++ '=' :: value)

def settingLine (rows : List (List Char × Option (List Char))) : List Char :=
  rows.flatMap fun row => settingText row.1 row.2

/-- A key that nothing in it takes for the end of a key, with such a value. -/
structure IsPlainRow (row : List Char × Option (List Char)) : Prop where
  key : '=' ∉ row.1
  value : ∀ value ∈ row.2, ' ' ∉ value

theorem takeWhile_stop {sep : Char} {text rest : List Char} (h : sep ∉ text)
    (hrest : rest = [] ∨ ∃ behind, rest = sep :: behind) :
    (text ++ rest).takeWhile (· ≠ sep) = text := by
  have hall : ∀ ch ∈ text, decide (ch ≠ sep) = true := fun ch hch =>
    decide_eq_true fun heq => h (heq ▸ hch)
  rw [List.takeWhile_append_of_pos hall]
  rcases hrest with rfl | ⟨behind, rfl⟩
  · simp
  · simp

theorem append_stop_inj {sep : Char} {a b c d : List Char} (ha : sep ∉ a) (hb : sep ∉ b)
    (hc : c = [] ∨ ∃ behind, c = sep :: behind) (hd : d = [] ∨ ∃ behind, d = sep :: behind)
    (h : a ++ c = b ++ d) : a = b ∧ c = d := by
  have htext : a = b := by
    rw [← takeWhile_stop ha hc, ← takeWhile_stop hb hd, h]
  subst htext
  exact ⟨rfl, List.append_cancel_left h⟩

theorem settingLine_cons (row : List Char × Option (List Char))
    (rest : List (List Char × Option (List Char))) :
    settingLine (row :: rest) = settingText row.1 row.2 ++ settingLine rest := rfl

theorem settingLine_stop (rows : List (List Char × Option (List Char))) :
    settingLine rows = [] ∨ ∃ behind, settingLine rows = ' ' :: behind := by
  induction rows with
  | nil => exact Or.inl rfl
  | cons row rest ih =>
    obtain ⟨key, value⟩ := row
    rw [settingLine_cons]
    cases value with
    | none => exact ih
    | some value => exact Or.inr ⟨_, rfl⟩

/-- The key that a line begins with is one of its rows'. -/
theorem key_mem {rows : List (List Char × Option (List Char))} (h : ∀ row ∈ rows, IsPlainRow row)
    {key behind : List Char} (hkey : '=' ∉ key)
    (hline : settingLine rows = ' ' :: (key ++ '=' :: behind)) : key ∈ rows.map Prod.fst := by
  induction rows with
  | nil => cases hline
  | cons row rest ih =>
    obtain ⟨hrow, hrest⟩ := List.forall_mem_cons.mp h
    obtain ⟨key', value⟩ := row
    rw [settingLine_cons] at hline
    cases value with
    | none => exact List.mem_cons_of_mem _ (ih hrest hline)
    | some value =>
      have htext : key' ++ ('=' :: (value ++ settingLine rest)) = key ++ '=' :: behind := by
        simpa [settingText] using hline
      obtain ⟨hsame, _⟩ := append_stop_inj hrow.key hkey (Or.inr ⟨_, rfl⟩) (Or.inr ⟨_, rfl⟩) htext
      exact hsame ▸ List.mem_cons_self

/-- Rows of the same keys are told apart by their lines. -/
theorem settingLine_inj {rows rows' : List (List Char × Option (List Char))}
    (hkeys : rows.map Prod.fst = rows'.map Prod.fst) (nodup : (rows.map Prod.fst).Nodup)
    (h : ∀ row ∈ rows, IsPlainRow row) (h' : ∀ row ∈ rows', IsPlainRow row)
    (hline : settingLine rows = settingLine rows') : rows = rows' := by
  induction rows generalizing rows' with
  | nil =>
    rw [List.map_nil, eq_comm, List.map_eq_nil_iff] at hkeys
    exact hkeys.symm
  | cons row rest ih =>
    cases rows' with
    | nil => simp at hkeys
    | cons row' rest' =>
      obtain ⟨hrow, hrest⟩ := List.forall_mem_cons.mp h
      obtain ⟨hrow', hrest'⟩ := List.forall_mem_cons.mp h'
      obtain ⟨key, value⟩ := row
      obtain ⟨key', value'⟩ := row'
      obtain ⟨rfl, hbehind⟩ := List.cons.inj hkeys
      obtain ⟨hnew, hnodup⟩ := List.nodup_cons.mp nodup
      rw [settingLine_cons, settingLine_cons] at hline
      cases value with
      | none =>
        cases value' with
        | none => rw [ih hbehind hnodup hrest hrest' hline]
        | some value' =>
          have hshown :
              settingLine rest = ' ' :: (key ++ '=' :: (value' ++ settingLine rest')) := by
            simpa [settingText] using hline
          exact absurd (key_mem hrest hrow.key hshown) hnew
      | some value =>
        cases value' with
        | none =>
          have hshown :
              settingLine rest' = ' ' :: (key ++ '=' :: (value ++ settingLine rest)) := by
            simpa [settingText] using hline.symm
          exact absurd (hbehind ▸ key_mem hrest' hrow.key hshown) hnew
        | some value' =>
          have htext : value ++ settingLine rest = value' ++ settingLine rest' := by
            simpa [settingText] using hline
          obtain ⟨rfl, hrestline⟩ := append_stop_inj (hrow.value value rfl)
            (hrow'.value value' rfl) (settingLine_stop rest) (settingLine_stop rest') htext
          rw [ih hbehind hnodup hrest hrest' hrestline]

end HomeIoControl.SettingLines
