import Mathlib.Data.List.Basic
import Mathlib.Data.List.TakeWhile
import Mathlib.Tactic.Cases

/-!
# Regular expressions with backtracking

A backtracking matcher tries the ways to read a text in an order: the left choice before the
right one, another turn of a repetition before its end. An expression denotes the list of its
readings in that order; the matcher returns the first. Tests at a place of the text stand for
anchors, word boundaries and look-around.
-/

namespace HomeIoControl.BacktrackingRegexes

/-- A place in a text, with what stands before it from the nearest character on. -/
structure Cursor where
  before : List Char
  after : List Char
  deriving DecidableEq

namespace Cursor

def offset (c : Cursor) : ℕ := c.before.length

/-- The whole text. -/
def text (c : Cursor) : List Char := c.before.reverse ++ c.after

/-- The place in a longer text. -/
def widen (older newer : List Char) (c : Cursor) : Cursor := ⟨c.before ++ older, c.after ++ newer⟩

end Cursor

inductive Regex (Group : Type) where
  | char (accepts : Char → Bool)
  | look (holds : Cursor → Bool)
  | empty
  | seq (r s : Regex Group)
  | alt (r s : Regex Group)
  | star (r : Regex Group)
  | capture (group : Group) (r : Regex Group)

/-- Where a reading has come, and what its groups captured, the latest first. -/
structure Reading (Group : Type) where
  cursor : Cursor
  captures : List (Group × List Char)
  deriving DecidableEq

variable {Group : Type}

namespace Reading

/-- The text between the place of a reading and the place of a later one. -/
def textTo (s t : Reading Group) : List Char :=
  (t.cursor.before.take (t.cursor.before.length - s.cursor.before.length)).reverse

def left (s : Reading Group) : ℕ := s.cursor.after.length

def widen (older newer : List Char) (s : Reading Group) : Reading Group :=
  { s with cursor := s.cursor.widen older newer }

def group [DecidableEq Group] (s : Reading Group) (g : Group) : Option (List Char) :=
  s.captures.lookup g

end Reading

@[simp] theorem Reading.textTo_append (before word after rest : List Char)
    (captures captures' : List (Group × List Char)) :
    Reading.textTo ⟨⟨before, after⟩, captures⟩ ⟨⟨word.reverse ++ before, rest⟩, captures'⟩ =
      word := by
  simp [Reading.textTo]

/-- Turns of a repetition, greedily. A turn that reads nothing ends it. -/
def turns (once : Reading Group → List (Reading Group)) :
    ℕ → Reading Group → List (Reading Group)
  | 0, s => [s]
  | n + 1, s => ((once s).filter fun t => t.left < s.left).flatMap (turns once n) ++ [s]

/-- The readings of an expression, in the order in which they are tried. -/
def Regex.reads : Regex Group → Reading Group → List (Reading Group)
  | .char accepts, s =>
    match s.cursor.after with
    | [] => []
    | ch :: rest => if accepts ch then [⟨⟨ch :: s.cursor.before, rest⟩, s.captures⟩] else []
  | .look holds, s => if holds s.cursor then [s] else []
  | .empty, s => [s]
  | .seq r k, s => (r.reads s).flatMap k.reads
  | .alt r k, s => r.reads s ++ k.reads s
  | .star r, s => turns r.reads s.left s
  | .capture g r, s => (r.reads s).map fun t => ⟨t.cursor, (g, s.textTo t) :: t.captures⟩

namespace Regex

/-- The reading that a matcher returns at a place. -/
def first (r : Regex Group) (s : Reading Group) : Option (Reading Group) := (r.reads s).head?

def literal (word : List Char) : Regex Group := word.foldr (fun ch r => seq (char (· = ch)) r) empty

def opt (r : Regex Group) : Regex Group := alt r empty

def plus (r : Regex Group) : Regex Group := seq r (star r)

def times (n : ℕ) (r : Regex Group) : Regex Group := (List.replicate n r).foldr seq empty

def sequence (rs : List (Regex Group)) : Regex Group := rs.foldr seq empty

def atLeast (n : ℕ) (r : Regex Group) : Regex Group := seq (times n r) (star r)

@[simp] theorem reads_char_cons (accepts : Char → Bool) (ch : Char) (before rest : List Char)
    (captures : List (Group × List Char)) :
    (char accepts).reads ⟨⟨before, ch :: rest⟩, captures⟩ =
      if accepts ch then [⟨⟨ch :: before, rest⟩, captures⟩] else [] := rfl

theorem turns_succ (once : Reading Group → List (Reading Group)) (n : ℕ) (s : Reading Group) :
    turns once (n + 1) s =
      ((once s).filter fun t => t.left < s.left).flatMap (turns once n) ++ [s] := rfl

theorem reads_look (holds : Cursor → Bool) (s : Reading Group) :
    (look holds).reads s = if holds s.cursor then [s] else [] := rfl

theorem reads_seq (r k : Regex Group) (s : Reading Group) :
    (seq r k).reads s = (r.reads s).flatMap k.reads := rfl

theorem reads_alt (r k : Regex Group) (s : Reading Group) :
    (alt r k).reads s = r.reads s ++ k.reads s := rfl

theorem reads_star (r : Regex Group) (s : Reading Group) :
    (star r).reads s = turns r.reads s.left s := rfl

theorem reads_capture (g : Group) (r : Regex Group) (s : Reading Group) :
    (capture g r).reads s =
      (r.reads s).map fun t => ⟨t.cursor, (g, s.textTo t) :: t.captures⟩ := rfl

theorem literal_cons (ch : Char) (word : List Char) :
    (literal (ch :: word) : Regex Group) = seq (char (· = ch)) (literal word) := rfl

/-- Once a repetition may take as many turns as characters are left, more make no difference. -/
theorem turns_stable {once : Reading Group → List (Reading Group)} {n m : ℕ} {s : Reading Group}
    (hn : s.left ≤ n) (hm : s.left ≤ m) : turns once n s = turns once m s := by
  induction n generalizing m s with
  | zero =>
    cases m with
    | zero => rfl
    | succ m =>
      have hnone : (once s).filter (fun t => t.left < s.left) = [] :=
        List.filter_eq_nil_iff.mpr fun t _ => by simp; omega
      rw [turns_succ, hnone]
      rfl
  | succ n ih =>
    cases m with
    | zero =>
      have hnone : (once s).filter (fun t => t.left < s.left) = [] :=
        List.filter_eq_nil_iff.mpr fun t _ => by simp; omega
      rw [turns_succ, hnone]
      rfl
    | succ m =>
      rw [turns_succ, turns_succ]
      congr 1
      refine List.flatMap_congr fun t ht => ?_
      have hless : t.left < s.left := by simpa using (List.mem_filter.mp ht).2
      exact ih (by omega) (by omega)

theorem first_seq {r k : Regex Group} {s t u : Reading Group} (hr : r.first s = some t)
    (hk : k.first t = some u) : (seq r k).first s = some u := by
  obtain ⟨others, hothers⟩ : ∃ others, r.reads s = t :: others := List.head?_eq_some_iff.mp hr
  rw [first, reads_seq, hothers, List.flatMap_cons, List.head?_append]
  rw [first] at hk
  rw [hk]
  rfl

theorem reads_seq_nil {r k : Regex Group} {s : Reading Group}
    (h : ∀ t ∈ r.reads s, k.reads t = []) : (seq r k).reads s = [] :=
  List.flatMap_eq_nil_iff.mpr h

theorem reads_seq_of_nil {r k : Regex Group} {s : Reading Group} (h : r.reads s = []) :
    (seq r k).reads s = [] := by
  rw [reads_seq, h, List.flatMap_nil]

theorem reads_seq_of_singleton {r k : Regex Group} {s t : Reading Group} (h : r.reads s = [t]) :
    (seq r k).reads s = k.reads t := by
  rw [reads_seq, h, List.flatMap_singleton]

theorem first_alt_left {r k : Regex Group} {s t : Reading Group} (h : r.first s = some t) :
    (alt r k).first s = some t := by
  rw [first] at h
  rw [first, reads_alt, List.head?_append, h]
  rfl

theorem reads_alt_right {r k : Regex Group} {s : Reading Group} (h : r.reads s = []) :
    (alt r k).reads s = k.reads s := by
  rw [reads_alt, h, List.nil_append]

theorem reads_alt_nil {r k : Regex Group} {s : Reading Group} (hr : r.reads s = [])
    (hk : k.reads s = []) : (alt r k).reads s = [] := (reads_alt_right hr).trans hk

theorem reads_capture_nil {g : Group} {r : Regex Group} {s : Reading Group} (h : r.reads s = []) :
    (capture g r).reads s = [] := by
  rw [reads_capture, h, List.map_nil]

theorem first_eq_none {r : Regex Group} {s : Reading Group} (h : r.reads s = []) :
    r.first s = none := by
  rw [first, h]
  rfl

theorem reads_opt_of_nil {r : Regex Group} {s : Reading Group} (h : r.reads s = []) :
    (opt r).reads s = [s] := reads_alt_right h

theorem first_capture {r : Regex Group} {s t : Reading Group} (g : Group)
    (h : r.first s = some t) :
    (capture g r).first s = some ⟨t.cursor, (g, s.textTo t) :: t.captures⟩ := by
  rw [first] at h
  rw [first, reads_capture, List.head?_map, h]
  rfl

theorem first_star_stop {r : Regex Group} {s : Reading Group} (h : r.reads s = []) :
    (star r).first s = some s := by
  rw [first, reads_star]
  cases s.left with
  | zero => rfl
  | succ n =>
    rw [turns_succ, h]
    rfl

/-- A turn that reads something goes on with the repetition. -/
theorem first_star_step {r : Regex Group} {s t : Reading Group} (h : r.first s = some t)
    (hless : t.left < s.left) : (star r).first s = (star r).first t := by
  obtain ⟨others, hothers⟩ : ∃ others, r.reads s = t :: others := List.head?_eq_some_iff.mp h
  obtain ⟨n, hn⟩ : ∃ n, s.left = n + 1 := ⟨s.left - 1, by omega⟩
  rw [first, reads_star, hn, turns_succ, hothers, List.filter_cons_of_pos (by simpa using hless),
    List.flatMap_cons, turns_stable (show t.left ≤ n by omega) (Nat.le_refl _)]
  have hsome : ∃ u more, turns r.reads t.left t = u :: more := by
    cases hleft : t.left with
    | zero => exact ⟨t, [], rfl⟩
    | succ m =>
      rw [turns_succ]
      exact List.exists_cons_of_ne_nil (List.append_ne_nil_of_right_ne_nil _ (List.cons_ne_nil _ _))
  obtain ⟨u, more, hu⟩ := hsome
  rw [first, reads_star, hu]
  rfl

section Characters

variable {accepts : Char → Bool} {ch : Char} {before rest word : List Char}
  {captures : List (Group × List Char)}

theorem reads_char (h : accepts ch = true) :
    (char accepts : Regex Group).reads ⟨⟨before, ch :: rest⟩, captures⟩ =
      [⟨⟨ch :: before, rest⟩, captures⟩] := if_pos h

theorem reads_char_nil (h : ∀ ch, rest.head? = some ch → accepts ch = false) :
    (char accepts : Regex Group).reads ⟨⟨before, rest⟩, captures⟩ = [] := by
  cases rest with
  | nil => rfl
  | cons ch rest => exact if_neg (by simp [h ch rfl])

theorem reads_literal :
    (literal word : Regex Group).reads ⟨⟨before, word ++ rest⟩, captures⟩ =
      [⟨⟨word.reverse ++ before, rest⟩, captures⟩] := by
  induction word generalizing before with
  | nil => rfl
  | cons ch word ih =>
    have hchar : (char (· = ch) : Regex Group).reads ⟨⟨before, ch :: (word ++ rest)⟩, captures⟩ =
        [⟨⟨ch :: before, word ++ rest⟩, captures⟩] := reads_char (by simp)
    rw [literal_cons, List.cons_append, reads_seq_of_singleton hchar, ih]
    simp

theorem reads_literal_nil (h : ¬ word <+: rest) :
    (literal word : Regex Group).reads ⟨⟨before, rest⟩, captures⟩ = [] := by
  induction word generalizing before rest with
  | nil => exact absurd List.nil_prefix h
  | cons ch word ih =>
    rw [literal_cons]
    cases rest with
    | nil => rfl
    | cons other rest =>
      by_cases hother : other = ch
      · subst hother
        have hchar : (char (· = other) : Regex Group).reads ⟨⟨before, other :: rest⟩, captures⟩ =
            [⟨⟨other :: before, rest⟩, captures⟩] := reads_char (by simp)
        rw [reads_seq_of_singleton hchar]
        exact ih fun hprefix => h (List.cons_prefix_cons.mpr ⟨rfl, hprefix⟩)
      · exact reads_seq_of_nil (if_neg (by simpa using hother))

theorem times_succ (n : ℕ) (r : Regex Group) : times (n + 1) r = seq r (times n r) := rfl

/-- A class is not read more often than its characters stand there. -/
theorem reads_times_char_nil {n : ℕ} {after : List Char}
    (h : (after.takeWhile accepts).length < n) :
    (times n (char accepts) : Regex Group).reads ⟨⟨before, after⟩, captures⟩ = [] := by
  induction n generalizing before after with
  | zero => exact absurd h (Nat.not_lt_zero _)
  | succ n ih =>
    rw [times_succ]
    cases after with
    | nil => rfl
    | cons ch after =>
      by_cases haccepts : accepts ch = true
      · rw [List.takeWhile_cons_of_pos haccepts, List.length_cons] at h
        rw [reads_seq_of_singleton (reads_char haccepts)]
        exact ih (Nat.lt_of_succ_lt_succ h)
      · exact reads_seq_of_nil (if_neg haccepts)

/-- A repeated class reads as far as its characters go. -/
theorem first_star_char (hword : ∀ ch ∈ word, accepts ch = true)
    (hrest : ∀ ch, rest.head? = some ch → accepts ch = false) :
    (star (char accepts) : Regex Group).first ⟨⟨before, word ++ rest⟩, captures⟩ =
      some ⟨⟨word.reverse ++ before, rest⟩, captures⟩ := by
  induction word generalizing before with
  | nil => exact first_star_stop (reads_char_nil hrest)
  | cons ch word ih =>
    have hfirst : (char accepts : Regex Group).first ⟨⟨before, ch :: (word ++ rest)⟩, captures⟩ =
        some ⟨⟨ch :: before, word ++ rest⟩, captures⟩ := by
      rw [first, reads_char (hword ch List.mem_cons_self)]
      rfl
    rw [List.cons_append, first_star_step hfirst (Nat.lt_succ_self _),
      ih fun other hother => hword other (List.mem_cons_of_mem _ hother)]
    simp

theorem first_plus_char (hne : word ≠ []) (hword : ∀ ch ∈ word, accepts ch = true)
    (hrest : ∀ ch, rest.head? = some ch → accepts ch = false) :
    (plus (char accepts) : Regex Group).first ⟨⟨before, word ++ rest⟩, captures⟩ =
      some ⟨⟨word.reverse ++ before, rest⟩, captures⟩ := by
  obtain ⟨ch, word, rfl⟩ := List.exists_cons_of_ne_nil hne
  have hfirst : (char accepts : Regex Group).first ⟨⟨before, ch :: (word ++ rest)⟩, captures⟩ =
      some ⟨⟨ch :: before, word ++ rest⟩, captures⟩ := by
    rw [first, reads_char (hword ch List.mem_cons_self)]
    rfl
  refine (first_seq hfirst (first_star_char (fun other hother =>
    hword other (List.mem_cons_of_mem _ hother)) hrest)).trans ?_
  simp

/-- Every reading of a repeated class stands behind some of its characters. -/
theorem mem_reads_star_char {after : List Char} {t : Reading Group}
    (h : t ∈ (star (char accepts)).reads ⟨⟨before, after⟩, captures⟩) :
    ∃ word rest, after = word ++ rest ∧ (∀ ch ∈ word, accepts ch = true) ∧
      t = ⟨⟨word.reverse ++ before, rest⟩, captures⟩ := by
  rw [reads_star] at h
  generalize (Reading.left ⟨⟨before, after⟩, captures⟩) = n at h
  induction n generalizing before after with
  | zero => exact ⟨[], after, rfl, by simp, List.mem_singleton.mp h⟩
  | succ n ih =>
    rw [turns_succ] at h
    rcases List.mem_append.mp h with h | h
    · obtain ⟨u, hu, ht⟩ := List.mem_flatMap.mp h
      have hmem := (List.mem_filter.mp hu).1
      cases after with
      | nil => exact absurd hmem List.not_mem_nil
      | cons ch after =>
        rw [reads_char_cons] at hmem
        split_ifs at hmem with haccepts
        · rw [List.mem_singleton.mp hmem] at ht
          obtain ⟨word, rest, rfl, hword, rfl⟩ := ih ht
          refine ⟨ch :: word, rest, rfl, ?_, by simp⟩
          intro other hother
          rcases List.mem_cons.mp hother with rfl | hother
          · exact haccepts
          · exact hword other hother
        · exact absurd hmem List.not_mem_nil
    · exact ⟨[], after, rfl, by simp, List.mem_singleton.mp h⟩

end Characters

/-- Before a text, the first reading takes a word and captures some of it. -/
def Takes (r : Regex Group) (word : List Char) (found : List (Group × List Char))
    (rest : List Char) : Prop :=
  ∀ (before : List Char) (captures : List (Group × List Char)),
    r.first ⟨⟨before, word ++ rest⟩, captures⟩ =
      some ⟨⟨word.reverse ++ before, rest⟩, found ++ captures⟩

section Taking

variable {r k : Regex Group} {word word' rest : List Char} {found found' : List (Group × List Char)}
  {accepts : Char → Bool}

theorem takes_empty (rest : List Char) : Takes (empty : Regex Group) [] [] rest :=
  fun _ _ => rfl

theorem takes_seq (hr : Takes r word found (word' ++ rest)) (hk : Takes k word' found' rest) :
    Takes (seq r k) (word ++ word') (found' ++ found) rest := by
  intro before captures
  have hfirst := first_seq (hr before captures) (hk (word.reverse ++ before) (found ++ captures))
  simpa using hfirst

theorem takes_sequence_singleton (h : Takes r word found rest) :
    Takes (sequence [r]) word found rest := by
  have hbehind : Takes r word found ([] ++ rest) := h
  have hseq := takes_seq hbehind (takes_empty rest)
  rwa [List.append_nil] at hseq

theorem takes_sequence_cons {rs : List (Regex Group)} (hr : Takes r word found (word' ++ rest))
    (hrs : Takes (sequence rs) word' found' rest) :
    Takes (sequence (r :: rs)) (word ++ word') (found' ++ found) rest := takes_seq hr hrs

theorem takes_capture (g : Group) (h : Takes r word found rest) :
    Takes (capture g r) word ((g, word) :: found) rest := by
  intro before captures
  have hfirst := first_capture g (h before captures)
  rwa [Reading.textTo_append] at hfirst

theorem takes_literal (word rest : List Char) :
    Takes (literal word : Regex Group) word [] rest := by
  intro before captures
  rw [first, reads_literal]
  rfl

theorem takes_alt_left (h : Takes r word found rest) : Takes (alt r k) word found rest :=
  fun before captures => first_alt_left (h before captures)

theorem takes_alt_right (hr : ∀ before captures, r.reads ⟨⟨before, word ++ rest⟩, captures⟩ = [])
    (h : Takes k word found rest) : Takes (alt r k) word found rest := by
  intro before captures
  rw [first, reads_alt_right (hr before captures)]
  exact h before captures

theorem takes_opt_none (h : ∀ before captures, r.reads ⟨⟨before, rest⟩, captures⟩ = []) :
    Takes (opt r) [] [] rest := takes_alt_right h (takes_empty rest)

theorem takes_star_char (hword : ∀ ch ∈ word, accepts ch = true)
    (hrest : ∀ ch, rest.head? = some ch → accepts ch = false) :
    Takes (star (char accepts) : Regex Group) word [] rest :=
  fun _ _ => first_star_char hword hrest

theorem takes_plus_char (hne : word ≠ []) (hword : ∀ ch ∈ word, accepts ch = true)
    (hrest : ∀ ch, rest.head? = some ch → accepts ch = false) :
    Takes (plus (char accepts) : Regex Group) word [] rest :=
  fun _ _ => first_plus_char hne hword hrest

theorem takes_times_char (hword : ∀ ch ∈ word, accepts ch = true) (rest : List Char) :
    Takes (times word.length (char accepts) : Regex Group) word [] rest := by
  induction word with
  | nil => exact takes_empty rest
  | cons ch word ih =>
    have hch : Takes (char accepts : Regex Group) [ch] [] (word ++ rest) := by
      intro before captures
      have hreads : (char accepts : Regex Group).reads ⟨⟨before, ch :: (word ++ rest)⟩, captures⟩ =
          [⟨⟨ch :: before, word ++ rest⟩, captures⟩] := reads_char (hword ch List.mem_cons_self)
      exact congrArg List.head? hreads
    exact takes_seq hch (ih fun other hother => hword other (List.mem_cons_of_mem _ hother))

theorem takes_star_nil (h : ∀ before captures, r.reads ⟨⟨before, rest⟩, captures⟩ = []) :
    Takes (star r) [] [] rest :=
  fun before captures => first_star_stop (h before captures)

/-- A turn of a repetition, and the turns behind it. -/
theorem takes_star_cons (hne : word ≠ []) (h : Takes r word found (word' ++ rest))
    (hmore : Takes (star r) word' found' rest) :
    Takes (star r) (word ++ word') (found' ++ found) rest := by
  intro before captures
  have hstep := h before captures
  have hless : Reading.left ⟨⟨word.reverse ++ before, word' ++ rest⟩, found ++ captures⟩ <
      Reading.left ⟨⟨before, word ++ (word' ++ rest)⟩, captures⟩ := by
    have hlength := List.length_pos_iff.mpr hne
    simp only [Reading.left, List.length_append]
    omega
  have hfirst := (first_star_step hstep hless).trans
    (hmore (word.reverse ++ before) (found ++ captures))
  simpa using hfirst

end Taking

/-- The text is empty or begins with the character. -/
def Edge (b : Char) (text : List Char) : Prop := ∀ ch, text.head? = some ch → ch = b

/-- The expression never reads the character and takes it for the end of the text. -/
def StopsAt (b : Char) : Regex Group → Prop
  | .char accepts => accepts b = false
  | .look holds => ∀ (c : Cursor) (older newer : List Char), Edge b older → Edge b newer →
      holds (c.widen older newer) = holds c
  | .empty => True
  | .seq r k => r.StopsAt b ∧ k.StopsAt b
  | .alt r k => r.StopsAt b ∧ k.StopsAt b
  | .star r => r.StopsAt b
  | .capture _ r => r.StopsAt b

section Widening

variable {b : Char} {older newer : List Char}

@[simp] theorem left_widen (s : Reading Group) :
    (s.widen older newer).left = s.left + newer.length := List.length_append

theorem textTo_widen (s t : Reading Group) :
    (s.widen older newer).textTo (t.widen older newer) = s.textTo t := by
  simp only [Reading.textTo, Reading.widen, Cursor.widen, List.length_append,
    Nat.add_sub_add_right]
  rw [List.take_append_of_le_length (Nat.sub_le _ _)]

theorem turns_widen {once : Reading Group → List (Reading Group)}
    (h : ∀ s, once (s.widen older newer) = (once s).map (Reading.widen older newer)) (n : ℕ)
    (s : Reading Group) :
    turns once n (s.widen older newer) = (turns once n s).map (Reading.widen older newer) := by
  induction n generalizing s with
  | zero => rfl
  | succ n ih =>
    have hfilter : (once (s.widen older newer)).filter
          (fun t => t.left < (s.widen older newer).left) =
        ((once s).filter fun t => t.left < s.left).map (Reading.widen older newer) := by
      rw [h, List.filter_map]
      congr 1
      refine List.filter_congr fun t _ => ?_
      simp
    rw [turns_succ, turns_succ, hfilter, List.flatMap_map, List.map_append, List.map_flatMap]
    congr 1
    exact List.flatMap_congr fun t _ => ih t

/-- What stands beyond an edge changes no reading. -/
theorem reads_widen {r : Regex Group} (hr : r.StopsAt b) (holder : Edge b older)
    (hnewer : Edge b newer) (s : Reading Group) :
    r.reads (s.widen older newer) = (r.reads s).map (Reading.widen older newer) := by
  induction r generalizing s with
  | char accepts =>
    obtain ⟨⟨before, after⟩, captures⟩ := s
    cases after with
    | nil =>
      refine reads_char_nil fun ch hch => ?_
      rw [hnewer ch hch]
      exact hr
    | cons ch rest =>
      by_cases haccepts : accepts ch = true
      · have hwide : (char accepts).reads
            (Reading.widen older newer ⟨⟨before, ch :: rest⟩, captures⟩) =
            [Reading.widen older newer ⟨⟨ch :: before, rest⟩, captures⟩] := reads_char haccepts
        rw [hwide, reads_char haccepts]
        rfl
      · have hnarrow : (char accepts : Regex Group).reads ⟨⟨before, ch :: rest⟩, captures⟩ = [] :=
          if_neg haccepts
        rw [hnarrow]
        exact if_neg haccepts
  | look holds =>
    have hholds : holds (s.cursor.widen older newer) = holds s.cursor :=
      hr s.cursor older newer holder hnewer
    by_cases hhere : holds s.cursor = true
    · have hnarrow : (look holds).reads s = [s] := if_pos hhere
      rw [hnarrow]
      exact if_pos (hholds.trans hhere)
    · have hnarrow : (look holds).reads s = [] := if_neg hhere
      rw [hnarrow]
      exact if_neg (by simpa [Reading.widen, hholds] using hhere)
  | empty => rfl
  | seq r k ihr ihk =>
    rw [reads_seq, reads_seq, ihr hr.1, List.flatMap_map, List.map_flatMap]
    exact List.flatMap_congr fun t _ => ihk hr.2 t
  | alt r k ihr ihk => rw [reads_alt, reads_alt, ihr hr.1, ihk hr.2, List.map_append]
  | star r ih =>
    have hleft : s.left ≤ s.left + newer.length := Nat.le_add_right _ _
    rw [reads_star, reads_star, turns_widen (ih hr), left_widen, turns_stable hleft (Nat.le_refl _)]
  | capture g r ih =>
    rw [reads_capture, reads_capture, ih hr, List.map_map, List.map_map]
    refine List.map_congr_left fun t _ => ?_
    simp only [Function.comp_apply, textTo_widen]
    rfl

end Widening

/-- A match that reads something. -/
def hit (r : Regex Group) (c : Cursor) : Option (Reading Group) :=
  (r.first ⟨c, []⟩).filter fun t => t.left < c.after.length

end Regex

/-- A match: where it begins, and what was read. -/
structure Match (Group : Type) where
  start : Cursor
  reading : Reading Group

namespace Match

def text (m : Match Group) : List Char := Reading.textTo ⟨m.start, []⟩ m.reading

def widen (older newer : List Char) (m : Match Group) : Match Group :=
  ⟨m.start.widen older newer, m.reading.widen older newer⟩

end Match

namespace Regex

def findFrom (r : Regex Group) : ℕ → Cursor → List (Match Group)
  | 0, _ => []
  | n + 1, c =>
    match r.hit c with
    | some t => ⟨c, t⟩ :: findFrom r n t.cursor
    | none =>
      match c.after with
      | [] => []
      | ch :: rest => findFrom r n ⟨ch :: c.before, rest⟩

/-- The matches from a place on, each behind the one before, of an expression that matches no
empty text. -/
def findIter (r : Regex Group) (c : Cursor) : List (Match Group) := findFrom r c.after.length c

/-- The leftmost match, of an expression that matches no empty text. -/
def search (r : Regex Group) (text : List Char) : Option (Match Group) :=
  (r.findIter ⟨[], text⟩).head?

theorem hit_left {r : Regex Group} {c : Cursor} {t : Reading Group} (h : r.hit c = some t) :
    t.left < c.after.length := by
  simpa using (Option.filter_eq_some_iff.mp h).2

theorem hit_of_first {r : Regex Group} {c : Cursor} {t : Reading Group}
    (h : r.first ⟨c, []⟩ = some t) (hless : t.left < c.after.length) : r.hit c = some t := by
  rw [hit, h]
  exact Option.filter_some_pos (by simpa using hless)

theorem hit_of_takes {r : Regex Group} {word rest : List Char} {found : List (Group × List Char)}
    (h : Takes r word found rest) (hne : word ≠ []) (before : List Char) :
    r.hit ⟨before, word ++ rest⟩ = some ⟨⟨word.reverse ++ before, rest⟩, found⟩ := by
  have hlength := List.length_pos_iff.mpr hne
  refine hit_of_first ((h before []).trans (by rw [List.append_nil])) ?_
  simp only [Reading.left, List.length_append]
  omega

theorem hit_of_nil {r : Regex Group} {c : Cursor} (h : r.reads ⟨c, []⟩ = []) : r.hit c = none := by
  rw [hit, first_eq_none h]
  rfl

theorem findFrom_stable {r : Regex Group} {n m : ℕ} {c : Cursor} (hn : c.after.length ≤ n)
    (hm : c.after.length ≤ m) : findFrom r n c = findFrom r m c := by
  have hend : ∀ (k : ℕ) (c : Cursor), c.after.length = 0 → findFrom r k c = [] := by
    intro k c hc
    cases k with
    | zero => rfl
    | succ k =>
      have hmiss : r.hit c = none := by
        rw [Option.eq_none_iff_forall_not_mem]
        intro t ht
        have hless := hit_left ht
        omega
      rw [findFrom, hmiss, List.length_eq_zero_iff.mp hc]
  induction n generalizing m c with
  | zero => rw [hend 0 c (by omega), hend m c (by omega)]
  | succ n ih =>
    cases m with
    | zero => rw [hend _ c (by omega), hend 0 c (by omega)]
    | succ m =>
      rw [findFrom, findFrom]
      cases hhit : r.hit c with
      | some t =>
        have hless := hit_left hhit
        have hleft : t.left = t.cursor.after.length := rfl
        simp only []
        rw [ih (by omega) (by omega : t.cursor.after.length ≤ m)]
      | none =>
        obtain ⟨before, after⟩ := c
        cases after with
        | nil => rfl
        | cons ch rest => exact ih (by simpa using hn) (by simpa using hm)

theorem findIter_nil (r : Regex Group) (before : List Char) : r.findIter ⟨before, []⟩ = [] := rfl

theorem findIter_hit {r : Regex Group} {c : Cursor} {t : Reading Group} (h : r.hit c = some t) :
    r.findIter c = ⟨c, t⟩ :: r.findIter t.cursor := by
  have hless := hit_left h
  obtain ⟨n, hn⟩ : ∃ n, c.after.length = n + 1 := ⟨c.after.length - 1, by omega⟩
  have hleft : t.left = t.cursor.after.length := rfl
  rw [findIter, hn, findFrom, h]
  simp only []
  rw [findIter, findFrom_stable (by omega : t.cursor.after.length ≤ n) (Nat.le_refl _)]

theorem findIter_miss {r : Regex Group} {before rest : List Char} {ch : Char}
    (h : r.hit ⟨before, ch :: rest⟩ = none) :
    r.findIter ⟨before, ch :: rest⟩ = r.findIter ⟨ch :: before, rest⟩ := by
  rw [findIter, List.length_cons, findFrom, h]
  rfl

/-- A stretch of the text where no match begins. -/
theorem findIter_skip {r : Regex Group} {before skipped rest : List Char}
    (h : ∀ u v, skipped = u ++ v → v ≠ [] → r.hit ⟨u.reverse ++ before, v ++ rest⟩ = none) :
    r.findIter ⟨before, skipped ++ rest⟩ = r.findIter ⟨skipped.reverse ++ before, rest⟩ := by
  induction skipped generalizing before with
  | nil => rfl
  | cons ch skipped ih =>
    have hmiss : r.hit ⟨before, ch :: (skipped ++ rest)⟩ = none :=
      h [] (ch :: skipped) rfl (List.cons_ne_nil _ _)
    rw [List.cons_append, findIter_miss hmiss, ih fun u v huv hv => ?_]
    · simp
    · have hcons := h (ch :: u) v (by rw [huv]; rfl) hv
      simpa using hcons

theorem search_of_takes {r : Regex Group} {front word rest : List Char}
    {found : List (Group × List Char)} (h : Takes r word found rest) (hne : word ≠ [])
    (hskip : ∀ u v, front = u ++ v → v ≠ [] →
      r.reads ⟨⟨u.reverse, v ++ (word ++ rest)⟩, []⟩ = []) :
    r.search (front ++ (word ++ rest)) =
      some ⟨⟨front.reverse, word ++ rest⟩, ⟨⟨word.reverse ++ front.reverse, rest⟩, found⟩⟩ := by
  have hfront : r.findIter ⟨[], front ++ (word ++ rest)⟩ =
      r.findIter ⟨front.reverse ++ [], word ++ rest⟩ :=
    findIter_skip fun u v huv hv => hit_of_nil (by simpa using hskip u v huv hv)
  rw [search, hfront, List.append_nil, findIter_hit (hit_of_takes h hne _)]
  rfl

theorem search_eq_none {r : Regex Group} {text : List Char}
    (h : ∀ u v, text = u ++ v → r.reads ⟨⟨u.reverse, v⟩, []⟩ = []) : r.search text = none := by
  have hskip : r.findIter ⟨[], text ++ []⟩ = r.findIter ⟨text.reverse ++ [], []⟩ :=
    findIter_skip fun u v huv _ => hit_of_nil (by simpa using h u v huv)
  rw [List.append_nil] at hskip
  rw [search, hskip, findIter_nil]
  rfl

/-- A word with a mark does not begin a text whose beginning lacks the mark. -/
theorem not_prefix_of_mark {word front rest : List Char} {mark : Char} (hword : mark ∈ word)
    (hfront : mark ∉ front) (hlength : word.length ≤ front.length) : ¬ word <+: front ++ rest := by
  intro hprefix
  have hwithin : word <+: front :=
    List.prefix_of_prefix_length_le hprefix (List.prefix_append front rest) hlength
  exact hfront (hwithin.subset hword)

theorem text_of_mem_turns {once : Reading Group → List (Reading Group)}
    (h : ∀ s, ∀ t ∈ once s, t.cursor.text = s.cursor.text) (n : ℕ) {s t : Reading Group}
    (ht : t ∈ turns once n s) : t.cursor.text = s.cursor.text := by
  induction n generalizing s with
  | zero => rw [List.mem_singleton.mp ht]
  | succ n ih =>
    rw [turns_succ] at ht
    rcases List.mem_append.mp ht with ht | ht
    · obtain ⟨u, hu, ht⟩ := List.mem_flatMap.mp ht
      exact (ih ht).trans (h s u (List.mem_filter.mp hu).1)
    · rw [List.mem_singleton.mp ht]

theorem text_of_mem_reads (r : Regex Group) {s t : Reading Group} (h : t ∈ r.reads s) :
    t.cursor.text = s.cursor.text := by
  induction r generalizing s t with
  | char accepts =>
    obtain ⟨⟨before, after⟩, captures⟩ := s
    cases after with
    | nil => exact absurd h List.not_mem_nil
    | cons ch rest =>
      rw [reads_char_cons] at h
      split_ifs at h with haccepts
      · rw [List.mem_singleton.mp h]
        simp [Cursor.text]
      · exact absurd h List.not_mem_nil
  | look holds =>
    rw [reads_look] at h
    split_ifs at h with hholds
    · rw [List.mem_singleton.mp h]
    · exact absurd h List.not_mem_nil
  | empty => rw [List.mem_singleton.mp h]
  | seq r k ihr ihk =>
    obtain ⟨u, hu, ht⟩ := List.mem_flatMap.mp h
    exact (ihk ht).trans (ihr hu)
  | alt r k ihr ihk =>
    rcases List.mem_append.mp h with h | h
    · exact ihr h
    · exact ihk h
  | star r ih => exact text_of_mem_turns (fun s t ht => ih ht) _ h
  | capture g r ih =>
    obtain ⟨u, hu, rfl⟩ := List.mem_map.mp h
    have htext : u.cursor.text = s.cursor.text := ih hu
    exact htext

theorem text_of_hit {r : Regex Group} {c : Cursor} {t : Reading Group} (h : r.hit c = some t) :
    t.cursor.text = c.text :=
  text_of_mem_reads r (s := ⟨c, []⟩)
    (List.mem_of_head? (Option.filter_eq_some_iff.mp h).1)

section Lines

variable {r : Regex Group} {b : Char} {older newer : List Char}

theorem hit_widen (hr : r.StopsAt b) (holder : Edge b older) (hnewer : Edge b newer) (c : Cursor) :
    r.hit (c.widen older newer) = (r.hit c).map (Reading.widen older newer) := by
  have hreads := reads_widen hr holder hnewer ⟨c, []⟩
  have hfirst : r.first ⟨c.widen older newer, []⟩ =
      (r.first ⟨c, []⟩).map (Reading.widen older newer) :=
    (congrArg List.head? hreads).trans List.head?_map
  rw [hit, hit, hfirst]
  cases r.first ⟨c, []⟩ with
  | none => rfl
  | some t => simp [Option.filter_some, Cursor.widen, apply_ite]

/-- The matches in a text up to an edge are the matches in the text cut off there, and the
matches from the edge on. -/
theorem findIter_widen (hr : r.StopsAt b) (holder : Edge b older) (hnewer : Edge b newer)
    (c : Cursor) :
    r.findIter (c.widen older newer) = (r.findIter c).map (Match.widen older newer) ++
      r.findIter ⟨c.text.reverse ++ older, newer⟩ := by
  obtain ⟨before, after⟩ := c
  induction hn : after.length using Nat.strong_induction_on generalizing before after with
  | _ n ih =>
    subst hn
    cases hhit : r.hit ⟨before, after⟩ with
    | some t =>
      obtain ⟨⟨before', after'⟩, captures⟩ := t
      have hless : after'.length < after.length := hit_left hhit
      have hwide := (hit_widen hr holder hnewer ⟨before, after⟩).trans (congrArg _ hhit)
      have htext : Cursor.text ⟨before', after'⟩ = Cursor.text ⟨before, after⟩ := text_of_hit hhit
      rw [findIter_hit hwide, findIter_hit hhit, List.map_cons, List.cons_append, ← htext]
      exact congrArg _ (ih _ hless before' after' rfl)
    | none =>
      cases after with
      | nil => simp [Cursor.widen, Cursor.text, findIter_nil]
      | cons ch rest =>
        have hwide := (hit_widen hr holder hnewer ⟨before, ch :: rest⟩).trans (congrArg _ hhit)
        have htext : Cursor.text ⟨ch :: before, rest⟩ = Cursor.text ⟨before, ch :: rest⟩ := by
          simp [Cursor.text]
        rw [findIter_miss hhit, ← htext,
          ← ih rest.length (Nat.lt_succ_self _) (ch :: before) rest rfl]
        exact findIter_miss hwide

theorem findIter_edge (hr : r.StopsAt b) (before rest : List Char) :
    r.findIter ⟨before, b :: rest⟩ = r.findIter ⟨b :: before, rest⟩ := by
  have hnone : r.hit ⟨before, []⟩ = none := by
    rw [Option.eq_none_iff_forall_not_mem]
    intro t ht
    exact Nat.not_lt_zero _ (hit_left ht)
  have hempty : Edge b [] := by simp [Edge]
  have hedge : Edge b (b :: rest) := by simp [Edge, eq_comm]
  have hwide := (hit_widen hr hempty hedge ⟨before, []⟩).trans (congrArg _ hnone)
  refine findIter_miss ?_
  simpa [Cursor.widen] using hwide

/-- Where a match stands. -/
theorem offset_of_mem_findIter {c : Cursor} {m : Match Group} (h : m ∈ r.findIter c) :
    c.offset ≤ m.start.offset ∧ m.start.offset + m.text.length ≤ c.text.length := by
  obtain ⟨before, after⟩ := c
  induction hn : after.length using Nat.strong_induction_on generalizing before after with
  | _ n ih =>
    subst hn
    cases hhit : r.hit ⟨before, after⟩ with
    | some t =>
      obtain ⟨⟨before', after'⟩, captures⟩ := t
      have hless : after'.length < after.length := hit_left hhit
      have htext : Cursor.text ⟨before', after'⟩ = Cursor.text ⟨before, after⟩ := text_of_hit hhit
      have hlength := congrArg List.length htext
      simp only [Cursor.text, List.length_append, List.length_reverse] at hlength
      rw [findIter_hit hhit] at h
      rcases List.mem_cons.mp h with rfl | h
      · simp only [Cursor.offset, Match.text, Reading.textTo, Cursor.text, List.length_reverse,
          List.length_take, List.length_append]
        omega
      · obtain ⟨hfrom, hto⟩ := ih _ hless before' after' h rfl
        rw [htext] at hto
        simp only [Cursor.offset] at hfrom ⊢
        exact ⟨by omega, hto⟩
    | none =>
      cases after with
      | nil => exact absurd h List.not_mem_nil
      | cons ch rest =>
        rw [findIter_miss hhit] at h
        obtain ⟨hfrom, hto⟩ := ih rest.length (Nat.lt_succ_self _) (ch :: before) rest h rfl
        have htext : Cursor.text ⟨ch :: before, rest⟩ = Cursor.text ⟨before, ch :: rest⟩ := by
          simp [Cursor.text]
        rw [htext] at hto
        exact ⟨Nat.le_of_succ_le hfrom, hto⟩

/-- The matches in a text are those in the lines before a line, those in the line, and those in
the lines behind it. -/
theorem findIter_lines {head tail : List Char} (line : List Char) (hr : r.StopsAt b)
    (hhead : Edge b head.reverse) (htail : Edge b tail) :
    ∃ earlier later, r.findIter ⟨[], head ++ (line ++ tail)⟩ =
        earlier ++ ((r.findIter ⟨[], line⟩).map (Match.widen head.reverse tail) ++ later) ∧
      (∀ m ∈ earlier, m.start.offset + m.text.length < head.length) ∧
      ∀ m ∈ later, tail.head? = some b ∧ head.length + line.length < m.start.offset := by
  have hmiddle := findIter_widen hr hhead htail ⟨[], line⟩
  have hlater : ∀ m ∈ r.findIter ⟨line.reverse ++ head.reverse, tail⟩,
      tail.head? = some b ∧ head.length + line.length < m.start.offset := by
    intro m hm
    cases tail with
    | nil => exact absurd hm List.not_mem_nil
    | cons ch rest =>
      obtain rfl : ch = b := htail ch rfl
      rw [findIter_edge hr] at hm
      have hfrom := (offset_of_mem_findIter hm).1
      refine ⟨rfl, ?_⟩
      simp only [Cursor.offset, List.length_cons, List.length_append, List.length_reverse]
        at hfrom ⊢
      omega
  simp only [Cursor.widen, Cursor.text, List.reverse_nil, List.nil_append] at hmiddle
  rcases List.eq_nil_or_concat head with rfl | ⟨head, ch, rfl⟩
  · exact ⟨[], _, by simpa using hmiddle, by simp, hlater⟩
  · obtain rfl : ch = b := hhead ch (by simp)
    have hempty : Edge ch [] := by simp [Edge]
    have hedge : Edge ch (ch :: (line ++ tail)) := by simp [Edge, eq_comm]
    have hearlier := findIter_widen hr hempty hedge ⟨[], head⟩
    simp only [Cursor.widen, Cursor.text, List.reverse_nil, List.nil_append, List.append_nil]
      at hearlier
    rw [findIter_edge hr] at hearlier
    refine ⟨(r.findIter ⟨[], head⟩).map (Match.widen [] (ch :: (line ++ tail))), _, ?_, ?_, hlater⟩
    · rw [← hmiddle]
      simpa using hearlier
    · intro m hm
      obtain ⟨m', hm', rfl⟩ := List.mem_map.mp hm
      have hto := (offset_of_mem_findIter hm').2
      have htext : (m'.widen [] (ch :: (line ++ tail))).text = m'.text :=
        textTo_widen ⟨m'.start, []⟩ m'.reading
      rw [htext]
      simp only [Match.widen, Cursor.widen, Cursor.offset, Cursor.text, List.append_nil,
        List.reverse_nil, List.nil_append, List.length_concat] at hto ⊢
      omega

end Lines

end Regex

end HomeIoControl.BacktrackingRegexes
