import HomeIoControl.TextPieces
import Mathlib.Data.List.TakeWhile
import Mathlib.Data.String.Basic

/-!
# Integers as Python reads them

`int(text, 16)` takes blanks around a sign, a mark `0x` and digits of any script with single
underscores between them. What Unicode says of a character is left open.
-/

namespace HomeIoControl.PythonIntegers

open TextPieces

/-- What the interpreter's Unicode database says of a character: its upper case, whether it is
white space, and the decimal digit that it stands for. No upper case is a lower-case letter. -/
structure Unicode where
  upper : Char → List Char
  isSpace : Char → Bool
  decimal : Char → Option (Fin 10)
  upper_not_lower : ∀ ch, ∀ up ∈ upper ch, ¬ ('a' ≤ up ∧ up ≤ 'z')

theorem ascii_char {ch : Char} (h : ch.toNat < 128) : ∃ k < 128, Char.ofNat k = ch :=
  ⟨ch.toNat, h, Char.ofNat_toNat ch⟩

/-- What Unicode says of the characters of ASCII, without the others. -/
def asciiOnly : Unicode where
  upper ch := [ch.toUpper]
  isSpace _ := false
  decimal _ := none
  upper_not_lower ch up hup := by
    have hall : ∀ k < 128, ¬ ('a' ≤ (Char.ofNat k).toUpper ∧ (Char.ofNat k).toUpper ≤ 'z') := by
      decide
    obtain rfl : up = ch.toUpper := List.mem_singleton.mp hup
    by_cases hascii : ch.toNat < 128
    · obtain ⟨k, hk, rfl⟩ := ascii_char hascii
      exact hall k hk
    · have hbound : ¬ ch ≤ 'z' := fun hle =>
        hascii (Nat.lt_of_le_of_lt (UInt32.le_iff_toNat_le.mp hle) (by decide))
      have hkeep : ch.toUpper = ch := dif_neg fun hlower => hbound hlower.2
      rw [hkeep]
      exact fun hlower => hbound hlower.2

/-- `str.upper`. -/
def Unicode.upperText (u : Unicode) (text : List Char) : List Char := text.flatMap u.upper

/-- The text with white space and decimal digits of any script in ASCII. Any other character
becomes a question mark, which ends every number. -/
def asciiChar (u : Unicode) (ch : Char) : Char :=
  if ch.toNat < 127 then ch
  else if u.isSpace ch then ' '
  else
    match u.decimal ch with
    | some digit => Char.ofNat (48 + digit)
    | none => '?'

/-- The white space of ASCII. -/
def isAsciiSpace (ch : Char) : Bool :=
  ch = ' ' || ch = '\t' || ch = '\n' || ch = '\x0b' || ch = '\x0c' || ch = '\r'

def hexValue (ch : Char) : Option ℕ :=
  if '0' ≤ ch ∧ ch ≤ '9' then some (ch.toNat - 48)
  else if 'A' ≤ ch ∧ ch ≤ 'F' then some (ch.toNat - 55)
  else if 'a' ≤ ch ∧ ch ≤ 'f' then some (ch.toNat - 87)
  else none

def isHexDigit (ch : Char) : Bool := (hexValue ch).isSome

/-- The digits up to the first other character. An underscore stands behind a digit and before
one. -/
def scanDigits : Bool → ℕ → List Char → Option (ℕ × List Char)
  | afterUnderscore, n, [] => if afterUnderscore then none else some (n, [])
  | afterUnderscore, n, ch :: rest =>
    if ch = '_' then if afterUnderscore then none else scanDigits true n rest
    else
      match hexValue ch with
      | some digit => scanDigits false (16 * n + digit) rest
      | none => if afterUnderscore then none else some (n, ch :: rest)

/-- The mark of base 16, which one underscore may follow. -/
def splitMark : List Char → List Char × List Char
  | '0' :: 'x' :: '_' :: rest => (['0', 'x', '_'], rest)
  | '0' :: 'X' :: '_' :: rest => (['0', 'X', '_'], rest)
  | '0' :: 'x' :: rest => (['0', 'x'], rest)
  | '0' :: 'X' :: rest => (['0', 'X'], rest)
  | text => ([], text)

/-- The digits behind sign and mark, and nothing but blanks behind them. -/
def readDigits (text : List Char) : Option ℕ :=
  if text.head? = some '_' then none
  else
    match scanDigits false 0 text with
    | none => none
    | some (n, rest) =>
      if rest = text then none
      else if rest.dropWhile isAsciiSpace = [] then some n
      else none

/-- `int(text, 16)`, or `none` for a `ValueError`. -/
def intOfHex (u : Unicode) (text : List Char) : Option ℤ :=
  let (sign, unsigned) := splitSign ((text.map (asciiChar u)).dropWhile isAsciiSpace)
  (readDigits (splitMark unsigned).2).map fun n =>
    if sign = ['-'] then -Int.ofNat n else Int.ofNat n

/-- Digits with single underscores between them. -/
inductive DigitGroups : List Char → Prop
  | digit {ch : Char} : isHexDigit ch = true → DigitGroups [ch]
  | next {ch : Char} {rest : List Char} : isHexDigit ch = true → DigitGroups rest →
      DigitGroups (ch :: rest)
  | underscore {ch : Char} {rest : List Char} : isHexDigit ch = true → DigitGroups rest →
      DigitGroups (ch :: '_' :: rest)

/-- A text in ASCII is an integer literal between blanks. -/
structure Literal (text front sign mark digits back : List Char) : Prop where
  split : text = front ++ (sign ++ (mark ++ (digits ++ back)))
  front : ∀ ch ∈ front, isAsciiSpace ch = true
  back : ∀ ch ∈ back, isAsciiSpace ch = true
  sign : sign = [] ∨ sign = ['+'] ∨ sign = ['-']
  mark : mark = [] ∨ mark = ['0', 'x'] ∨ mark = ['0', 'X'] ∨ mark = ['0', 'x', '_'] ∨
    mark = ['0', 'X', '_']
  digits : DigitGroups digits

/-- The text reads as an integer in base 16. -/
def HexInteger (u : Unicode) (text : List Char) : Prop :=
  ∃ front sign mark digits back, Literal (text.map (asciiChar u)) front sign mark digits back

theorem hexValue_underscore : hexValue '_' = none := rfl

theorem isHexDigit_cases {ch : Char} (h : isHexDigit ch = true) : ∃ n, hexValue ch = some n :=
  Option.isSome_iff_exists.mp h

theorem isHexDigit_ne {ch other : Char} (h : isHexDigit ch = true) (hother : hexValue other = none) :
    ch ≠ other := by
  rintro rfl
  rw [isHexDigit, hother] at h
  exact absurd h (by decide)

theorem isHexDigit_not_space {ch : Char} (h : isHexDigit ch = true) : isAsciiSpace ch = false := by
  simp [isAsciiSpace, isHexDigit_ne h (rfl : hexValue ' ' = none),
    isHexDigit_ne h (rfl : hexValue '\t' = none), isHexDigit_ne h (rfl : hexValue '\n' = none),
    isHexDigit_ne h (rfl : hexValue '\x0b' = none), isHexDigit_ne h (rfl : hexValue '\x0c' = none),
    isHexDigit_ne h (rfl : hexValue '\r' = none)]

/-- Digit groups are scanned to their end, where no digit or underscore follows. -/
theorem scanDigits_groups {digits : List Char} (h : DigitGroups digits) (rest : List Char)
    (hrest : ∀ ch ∈ rest.head?, hexValue ch = none ∧ ch ≠ '_') :
    ∀ afterUnderscore n, ∃ m, scanDigits afterUnderscore n (digits ++ rest) = some (m, rest) := by
  have hstop : ∀ n, scanDigits false n rest = some (n, rest) := by
    intro n
    cases rest with
    | nil => rfl
    | cons ch rest =>
      obtain ⟨hnone, hne⟩ := hrest ch rfl
      simp [scanDigits, hne, hnone]
  induction h with
  | digit hch =>
    intro afterUnderscore n
    obtain ⟨value, hvalue⟩ := isHexDigit_cases hch
    exact ⟨16 * n + value, by
      simp [scanDigits, isHexDigit_ne hch hexValue_underscore, hvalue, hstop]⟩
  | next hch _ ih =>
    intro afterUnderscore n
    obtain ⟨value, hvalue⟩ := isHexDigit_cases hch
    simpa [scanDigits, isHexDigit_ne hch hexValue_underscore, hvalue] using ih false _
  | underscore hch _ ih =>
    intro afterUnderscore n
    obtain ⟨value, hvalue⟩ := isHexDigit_cases hch
    simpa [scanDigits, isHexDigit_ne hch hexValue_underscore, hvalue] using ih true _

/-- What is scanned is digit groups: all of it behind an underscore, and elsewhere nothing, groups
or an underscore before them. -/
theorem groups_of_scanDigits {afterUnderscore : Bool} {n m : ℕ} {text rest : List Char}
    (h : scanDigits afterUnderscore n text = some (m, rest)) :
    ∃ read, text = read ++ rest ∧
      (DigitGroups read ∨ afterUnderscore = false ∧
        (read = [] ∨ ∃ groups, read = '_' :: groups ∧ DigitGroups groups)) := by
  induction text generalizing afterUnderscore n with
  | nil =>
    cases afterUnderscore with
    | true => exact absurd h (by simp [scanDigits])
    | false =>
      obtain ⟨-, rfl⟩ : n = m ∧ [] = rest := by simpa [scanDigits] using h
      exact ⟨[], rfl, .inr ⟨rfl, .inl rfl⟩⟩
  | cons ch text ih =>
    rw [scanDigits] at h
    by_cases hunderscore : ch = '_'
    · rw [if_pos hunderscore] at h
      cases afterUnderscore with
      | true => exact absurd h (by simp)
      | false =>
        obtain ⟨read, rfl, hgroups | ⟨hfalse, -⟩⟩ := ih h
        · exact ⟨ch :: read, rfl, .inr ⟨rfl, .inr ⟨read, by rw [hunderscore], hgroups⟩⟩⟩
        · exact absurd hfalse (by decide)
    · rw [if_neg hunderscore] at h
      cases hvalue : hexValue ch with
      | some value =>
        rw [hvalue] at h
        have hch : isHexDigit ch = true := by rw [isHexDigit, hvalue]; rfl
        obtain ⟨read, rfl, hgroups | ⟨-, rfl | ⟨groups, rfl, hgroups⟩⟩⟩ := ih h
        · exact ⟨ch :: read, rfl, .inl (.next hch hgroups)⟩
        · exact ⟨[ch], rfl, .inl (.digit hch)⟩
        · exact ⟨ch :: '_' :: groups, rfl, .inl (.underscore hch hgroups)⟩
      | none =>
        rw [hvalue] at h
        cases afterUnderscore with
        | true => exact absurd h (by simp)
        | false =>
          obtain ⟨-, rfl⟩ := Prod.mk.inj (Option.some.inj h)
          exact ⟨[], rfl, .inr ⟨rfl, .inl rfl⟩⟩

theorem DigitGroups.head {digits : List Char} (h : DigitGroups digits) :
    ∃ first rest, digits = first :: rest ∧ isHexDigit first = true := by
  cases h with
  | digit hch => exact ⟨_, [], rfl, hch⟩
  | next hch _ => exact ⟨_, _, rfl, hch⟩
  | underscore hch _ => exact ⟨_, _, rfl, hch⟩

theorem readDigits_isSome_iff (text : List Char) :
    (readDigits text).isSome ↔ ∃ digits back, text = digits ++ back ∧ DigitGroups digits ∧
      ∀ ch ∈ back, isAsciiSpace ch = true := by
  constructor
  · intro h
    unfold readDigits at h
    split_ifs at h with hunderscore
    · exact absurd h (by simp)
    · cases hscan : scanDigits false 0 text with
      | none => rw [hscan] at h; exact absurd h (by simp)
      | some result =>
        obtain ⟨n, rest⟩ := result
        simp only [hscan] at h
        split_ifs at h with hsame hback
        · exact absurd h (by simp)
        · obtain ⟨read, rfl, hgroups | ⟨-, rfl | ⟨groups, rfl, -⟩⟩⟩ := groups_of_scanDigits hscan
          · exact ⟨read, rest, rfl, hgroups, List.dropWhile_eq_nil_iff.mp hback⟩
          · exact absurd rfl hsame
          · exact absurd rfl hunderscore
        · exact absurd h (by simp)
  · rintro ⟨digits, back, rfl, hgroups, hback⟩
    obtain ⟨first, rest, rfl, hfirst⟩ := hgroups.head
    have hafter : ∀ ch ∈ back.head?, hexValue ch = none ∧ ch ≠ '_' := by
      intro ch hch
      have hspace := hback ch (List.mem_of_mem_head? hch)
      constructor
      · by_contra hvalue
        have hdigit : isHexDigit ch = true := Option.isSome_iff_ne_none.mpr hvalue
        rw [isHexDigit_not_space hdigit] at hspace
        exact absurd hspace (by decide)
      · rintro rfl
        exact absurd hspace (by decide)
    obtain ⟨n, hscan⟩ := scanDigits_groups hgroups back hafter false 0
    have hmore : back ≠ first :: rest ++ back := by
      intro heq
      have hlen := congrArg List.length heq
      simp only [List.length_append, List.length_cons] at hlen
      omega
    rw [readDigits, if_neg (by simpa using isHexDigit_ne hfirst hexValue_underscore), hscan]
    simp only [if_neg hmore, List.dropWhile_eq_nil_iff.mpr hback, if_true, Option.isSome_some]

theorem splitMark_append {text mark rest : List Char} (h : splitMark text = (mark, rest)) :
    text = mark ++ rest ∧ (mark = [] ∨ mark = ['0', 'x'] ∨ mark = ['0', 'X'] ∨
      mark = ['0', 'x', '_'] ∨ mark = ['0', 'X', '_']) := by
  unfold splitMark at h
  split at h <;> obtain ⟨rfl, rfl⟩ := Prod.mk.inj h <;> simp

/-- Behind its first digit a number has no mark. -/
theorem DigitGroups.second {digits back : List Char} (h : DigitGroups digits)
    (hback : ∀ ch ∈ back, isAsciiSpace ch = true) :
    ∃ first rest, digits ++ back = first :: rest ∧ isHexDigit first = true ∧
      ∀ ch ∈ rest.head?, ch ≠ 'x' ∧ ch ≠ 'X' := by
  have hdigit : ∀ ch, isHexDigit ch = true → ch ≠ 'x' ∧ ch ≠ 'X' := fun ch hch =>
    ⟨isHexDigit_ne hch rfl, isHexDigit_ne hch rfl⟩
  cases h with
  | @digit first hfirst =>
    refine ⟨first, back, rfl, hfirst, fun ch hch => ?_⟩
    have hspace := hback ch (List.mem_of_mem_head? hch)
    constructor <;> rintro rfl <;> exact absurd hspace (by decide)
  | @next first rest hfirst hrest =>
    refine ⟨first, rest ++ back, rfl, hfirst, fun ch hch => ?_⟩
    obtain ⟨second, more, rfl, hsecond⟩ := hrest.head
    obtain rfl : second = ch := by simpa using hch
    exact hdigit second hsecond
  | @underscore first rest hfirst _ =>
    refine ⟨first, '_' :: rest ++ back, rfl, hfirst, fun ch hch => ?_⟩
    obtain rfl : '_' = ch := by simpa using hch
    decide

theorem splitMark_number {mark number : List Char} {first : Char} {rest : List Char}
    (hmark : mark = [] ∨ mark = ['0', 'x'] ∨ mark = ['0', 'X'] ∨ mark = ['0', 'x', '_'] ∨
      mark = ['0', 'X', '_'])
    (hnumber : number = first :: rest) (hfirst : isHexDigit first = true)
    (hrest : ∀ ch ∈ rest.head?, ch ≠ 'x' ∧ ch ≠ 'X') :
    splitMark (mark ++ number) = (mark, number) := by
  have hunderscore := isHexDigit_ne hfirst hexValue_underscore
  subst hnumber
  rcases hmark with rfl | rfl | rfl | rfl | rfl
  · unfold splitMark
    split <;> simp_all
  · unfold splitMark
    split <;> simp_all
  · unfold splitMark
    split <;> simp_all
  · rfl
  · rfl

/-- A literal is cut where its grammar says. -/
theorem Literal.cut {text front sign mark digits back : List Char}
    (h : Literal text front sign mark digits back) :
    splitSign (text.dropWhile isAsciiSpace) = (sign, mark ++ (digits ++ back)) ∧
      splitMark (mark ++ (digits ++ back)) = (mark, digits ++ back) := by
  obtain ⟨first, rest, hnumber, hfirst, hrest⟩ := h.digits.second h.back
  refine ⟨?_, splitMark_number h.mark hnumber hfirst hrest⟩
  obtain ⟨lead, tail, hlead, hleads⟩ : ∃ lead tail, mark ++ (digits ++ back) = lead :: tail ∧
      isHexDigit lead = true := by
    rw [hnumber]
    rcases h.mark with hmark | hmark | hmark | hmark | hmark <;> rw [hmark]
    · exact ⟨first, rest, rfl, hfirst⟩
    all_goals exact ⟨'0', _, rfl, rfl⟩
  have hdrop : text.dropWhile isAsciiSpace = sign ++ lead :: tail := by
    rw [h.split, hlead, List.dropWhile_append_of_pos h.front]
    rcases h.sign with hsign | hsign | hsign <;> rw [hsign]
    · exact List.dropWhile_cons_of_neg (by simp [isHexDigit_not_space hleads])
    · rfl
    · rfl
  rw [hdrop, hlead]
  have hminus := isHexDigit_ne hleads (rfl : hexValue '-' = none)
  have hplus := isHexDigit_ne hleads (rfl : hexValue '+' = none)
  rcases h.sign with hsign | hsign | hsign <;> rw [hsign]
  · unfold splitSign
    split <;> simp_all
  · rfl
  · rfl

/-- `int(text, 16)` takes exactly the integer literals between blanks. -/
theorem intOfHex_isSome_iff (u : Unicode) (text : List Char) :
    (intOfHex u text).isSome ↔ HexInteger u text := by
  obtain ⟨sign, unsigned, hsign⟩ : ∃ sign unsigned,
      splitSign ((text.map (asciiChar u)).dropWhile isAsciiSpace) = (sign, unsigned) := ⟨_, _, rfl⟩
  obtain ⟨mark, number, hmark⟩ : ∃ mark number, splitMark unsigned = (mark, number) := ⟨_, _, rfl⟩
  have hread : (intOfHex u text).isSome = (readDigits number).isSome := by
    simp only [intOfHex, hsign, hmark, Option.isSome_map]
  rw [hread]
  constructor
  · intro h
    obtain ⟨digits, back, hnumber, hgroups, hback⟩ := (readDigits_isSome_iff number).mp h
    obtain ⟨htext, hsigns⟩ := splitSign_append hsign
    obtain ⟨hunsigned, hmarks⟩ := splitMark_append hmark
    refine ⟨(text.map (asciiChar u)).takeWhile isAsciiSpace, sign, mark, digits, back, ?_,
      fun ch hch => List.mem_takeWhile_imp hch, hback, hsigns, hmarks, hgroups⟩
    rw [← hnumber, ← hunsigned, ← htext, List.takeWhile_append_dropWhile]
  · rintro ⟨front, sign', mark', digits, back, hliteral⟩
    obtain ⟨hcut, hcut'⟩ := hliteral.cut
    obtain ⟨-, rfl⟩ := Prod.mk.inj (hsign.symm.trans hcut)
    obtain ⟨-, rfl⟩ := Prod.mk.inj (hmark.symm.trans hcut')
    exact (readDigits_isSome_iff _).mpr ⟨digits, back, rfl, hliteral.digits, hliteral.back⟩

end HomeIoControl.PythonIntegers
