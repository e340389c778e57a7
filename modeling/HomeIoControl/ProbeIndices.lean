import HomeIoControl.DeviceRegistries
import HomeIoControl.TextPieces
import Mathlib.Data.List.TakeWhile

/-!
# The index of a probe

An index argument is read by the C library's `strtoul` at base 0, with a few shapes refused before
and after. The library's grammar is wider than the documented one: it takes blanks and a sign.
-/

namespace HomeIoControl.ProbeIndices

open DeviceRegistries TextPieces

/-- `isspace` of the C locale. -/
def isBlank (ch : Char) : Bool :=
  ch = ' ' || ch = '\t' || ch = '\n' || ch = '\x0b' || ch = '\x0c' || ch = '\r'

def digitIn (base : ℕ) (ch : Char) : Option ℕ := (hexNibble ch).filter (· < base)

def isDigitIn (base : ℕ) (ch : Char) : Bool := (digitIn base ch).isSome

/-- The number that digits spell. -/
def valueIn (base : ℕ) (digits : List Char) : ℕ :=
  digits.foldl (fun n ch => n * base + (digitIn base ch).getD 0) 0

/-- The number of values of `unsigned long` on the target. -/
def ulongSize : ℕ := 4294967296

def isHexMark (ch : Char) : Bool := ch = 'x' || ch = 'X'

/-- The base that a literal selects, and its text behind the mark of base 16. -/
def splitBase : List Char → ℕ × List Char
  | '0' :: mark :: digit :: rest =>
    if isHexMark mark && isDigitIn 16 digit then (16, digit :: rest)
    else (8, '0' :: mark :: digit :: rest)
  | '0' :: rest => (8, '0' :: rest)
  | text => (10, text)

/-- A negated value wraps. -/
def signed (sign : List Char) (n : ℕ) : ℕ :=
  if sign = ['-'] then (ulongSize - n) % ulongSize else n

/-- The result of `strtoul`, whether `errno` is set to `ERANGE`, and the text from `end` on. -/
structure Strtoul where
  value : ℕ
  erange : Bool
  rest : List Char
  deriving DecidableEq, Repr

def strtoul (text : List Char) : Strtoul :=
  let (sign, unsigned) := splitSign (text.dropWhile isBlank)
  let (base, literal) := splitBase unsigned
  let digits := literal.takeWhile (isDigitIn base)
  if digits = [] then ⟨0, false, text⟩
  else if ulongSize ≤ valueIn base digits then
    ⟨ulongSize - 1, true, literal.dropWhile (isDigitIn base)⟩
  else ⟨signed sign (valueIn base digits), false, literal.dropWhile (isDigitIn base)⟩

/-- A leading 0 that another digit, or anything but the mark of base 16, follows. -/
def startsOctal : List Char → Bool
  | '0' :: second :: _ => !isHexMark second
  | _ => false

/-- `parse_probe_index`, with the output before and after. -/
def parseProbeIndex (text : List Char) (out : UInt8) : Bool × UInt8 :=
  if text = [] then (false, out)
  else if startsOctal text then (false, out)
  else
    let cStr := text.takeWhile (· ≠ '\x00')
    let read := strtoul cStr
    if cStr.length - read.rest.length ≠ text.length then (false, out)
    else if read.erange || 255 < read.value then (false, out)
    else (true, UInt8.ofNat read.value)

def AllDigitsIn (base : ℕ) (digits : List Char) : Prop := ∀ ch ∈ digits, isDigitIn base ch = true

/-- The integer literals of C and their values. -/
inductive CLiteral : List Char → ℕ → Prop
  | decimal {first : Char} {digits : List Char} : first ≠ '0' → AllDigitsIn 10 (first :: digits) →
      CLiteral (first :: digits) (valueIn 10 (first :: digits))
  | octal {digits : List Char} : AllDigitsIn 8 digits →
      CLiteral ('0' :: digits) (valueIn 8 ('0' :: digits))
  | hex {mark : Char} {digits : List Char} : isHexMark mark = true → digits ≠ [] →
      AllDigitsIn 16 digits → CLiteral ('0' :: mark :: digits) (valueIn 16 digits)

/-- The documented texts of a byte. -/
inductive ByteText : List Char → ℕ → Prop
  | zero : ByteText ['0'] 0
  | decimal {first : Char} {digits : List Char} : first ≠ '0' → AllDigitsIn 10 (first :: digits) →
      valueIn 10 (first :: digits) ≤ 255 → ByteText (first :: digits) (valueIn 10 (first :: digits))
  | hex {mark : Char} {digits : List Char} : isHexMark mark = true → digits ≠ [] →
      AllDigitsIn 16 digits → valueIn 16 digits ≤ 255 →
        ByteText ('0' :: mark :: digits) (valueIn 16 digits)

/-- The text is read as documented, whatever the output held. -/
def ParsedAsDocumented (text : List Char) : Prop :=
  ∀ out, (∀ value, ByteText text value → parseProbeIndex text out = (true, UInt8.ofNat value)) ∧
    ((∀ value, ¬ ByteText text value) → parseProbeIndex text out = (false, out))

/-- The text is blanks, a sign and a literal of value `n`; blanks and sign may be missing. -/
structure Spelling (text blanks sign literal : List Char) (n : ℕ) : Prop where
  split : text = blanks ++ (sign ++ literal)
  blank : ∀ ch ∈ blanks, isBlank ch = true
  signs : sign = [] ∨ sign = ['+'] ∨ sign = ['-']
  value : CLiteral literal n

/-- A literal behind blanks or a sign whose value, negated where the sign says so, is a byte. -/
def Decorated (text : List Char) : Prop :=
  ∃ blanks sign literal n, Spelling text blanks sign literal n ∧ blanks ++ sign ≠ [] ∧
    n < ulongSize ∧ signed sign n ≤ 255

theorem isDigitIn_of_hexNibble {base : ℕ} {ch : Char} (h : hexNibble ch = none) :
    isDigitIn base ch = false := by simp [isDigitIn, digitIn, h]

theorem isBlank_cases {ch : Char} (h : isBlank ch = true) :
    ch = ' ' ∨ ch = '\t' ∨ ch = '\n' ∨ ch = '\x0b' ∨ ch = '\x0c' ∨ ch = '\r' := by
  simpa [isBlank, or_assoc] using h

/-- What a digit is not: a blank, a sign, the end of a C string or the mark of base 16. -/
theorem digit_plain {base : ℕ} {ch : Char} (h : isDigitIn base ch = true) :
    isBlank ch = false ∧ ch ≠ '-' ∧ ch ≠ '+' ∧ ch ≠ '\x00' ∧ isHexMark ch = false := by
  have hother : ∀ other, hexNibble other = none → ch ≠ other := by
    rintro other hnone rfl
    rw [isDigitIn_of_hexNibble hnone] at h
    exact absurd h (by decide)
  refine ⟨?_, hother '-' rfl, hother '+' rfl, hother '\x00' rfl, ?_⟩
  · by_contra hblank
    rcases isBlank_cases (by simpa using hblank) with rfl | rfl | rfl | rfl | rfl | rfl <;>
      exact hother _ rfl rfl
  · simp [isHexMark, hother 'x' rfl, hother 'X' rfl]

theorem CLiteral.head {literal : List Char} {n : ℕ} (h : CLiteral literal n) :
    ∃ first rest, literal = first :: rest ∧ isDigitIn 10 first = true := by
  cases h with
  | decimal _ hdigits => exact ⟨_, _, rfl, hdigits _ List.mem_cons_self⟩
  | octal _ => exact ⟨'0', _, rfl, rfl⟩
  | hex _ _ _ => exact ⟨'0', _, rfl, rfl⟩

theorem ByteText.head {text : List Char} {n : ℕ} (h : ByteText text n) :
    ∃ first rest, text = first :: rest ∧ isDigitIn 10 first = true := by
  cases h with
  | zero => exact ⟨'0', [], rfl, rfl⟩
  | decimal _ hdigits _ => exact ⟨_, _, rfl, hdigits _ List.mem_cons_self⟩
  | hex _ _ _ _ => exact ⟨'0', _, rfl, rfl⟩

/-- No literal contains the end of a C string. -/
theorem CLiteral.no_nul {literal : List Char} {n : ℕ} (h : CLiteral literal n) :
    ∀ ch ∈ literal, ch ≠ '\x00' := by
  cases h with
  | decimal _ hdigits => exact fun ch hch => (digit_plain (hdigits ch hch)).2.2.2.1
  | octal hdigits =>
    rintro ch (_ | ⟨_, hch⟩)
    · decide
    · exact (digit_plain (hdigits ch hch)).2.2.2.1
  | hex hmark _ hdigits =>
    rintro ch (_ | ⟨_, _ | ⟨_, hch⟩⟩)
    · decide
    · rintro rfl
      exact absurd hmark (by decide)
    · exact (digit_plain (hdigits ch hch)).2.2.2.1

theorem takeWhile_digits {base : ℕ} {digits : List Char} (h : AllDigitsIn base digits) :
    digits.takeWhile (isDigitIn base) = digits := List.takeWhile_eq_self_iff.mpr h

theorem dropWhile_digits {base : ℕ} {digits : List Char} (h : AllDigitsIn base digits) :
    digits.dropWhile (isDigitIn base) = [] := List.dropWhile_eq_nil_iff.mpr h

/-- A literal selects its base, and all of it is digits. -/
theorem CLiteral.splitBase {literal : List Char} {n : ℕ} (h : CLiteral literal n) :
    ∃ base digits, splitBase literal = (base, digits) ∧ digits ≠ [] ∧ AllDigitsIn base digits ∧
      valueIn base digits = n := by
  cases h with
  | @decimal first digits hfirst hdigits =>
    refine ⟨10, _, ?_, List.cons_ne_nil _ _, hdigits, rfl⟩
    unfold ProbeIndices.splitBase
    split <;> simp_all
  | @octal digits hdigits =>
    have hall : AllDigitsIn 8 ('0' :: digits) := List.forall_mem_cons.mpr ⟨rfl, hdigits⟩
    refine ⟨8, _, ?_, List.cons_ne_nil _ _, hall, rfl⟩
    rcases digits with - | ⟨second, - | ⟨third, rest⟩⟩
    · rfl
    · rfl
    · have hsecond := (digit_plain (hdigits second List.mem_cons_self)).2.2.2.2
      simp [ProbeIndices.splitBase, hsecond]
  | @hex mark digits hmark hne hdigits =>
    obtain ⟨first, rest, rfl⟩ := List.exists_cons_of_ne_nil hne
    refine ⟨16, _, ?_, hne, hdigits, rfl⟩
    simp [ProbeIndices.splitBase, hmark, hdigits first List.mem_cons_self]

/-- What selects a base and is then all digits is a literal. -/
theorem literal_of_splitBase {literal digits : List Char} {base : ℕ}
    (h : splitBase literal = (base, digits)) (hne : digits ≠ [])
    (hdigits : AllDigitsIn base digits) :
    CLiteral literal (valueIn base digits) := by
  unfold splitBase at h
  split at h
  · next mark digit rest =>
    split_ifs at h with hhex
    · obtain ⟨rfl, rfl⟩ := Prod.mk.inj h
      rw [Bool.and_eq_true] at hhex
      exact .hex hhex.1 hne hdigits
    · obtain ⟨rfl, rfl⟩ := Prod.mk.inj h
      exact .octal (List.forall_mem_cons.mp hdigits).2
  · obtain ⟨rfl, rfl⟩ := Prod.mk.inj h
    exact .octal (List.forall_mem_cons.mp hdigits).2
  · next hzero =>
    obtain ⟨rfl, rfl⟩ := Prod.mk.inj h
    obtain ⟨first, rest, rfl⟩ := List.exists_cons_of_ne_nil hne
    refine .decimal ?_ hdigits
    rintro rfl
    exact hzero rest rfl

theorem Spelling.splitSign {text blanks sign literal : List Char} {n : ℕ}
    (h : Spelling text blanks sign literal n) :
    splitSign (text.dropWhile isBlank) = (sign, literal) := by
  obtain ⟨first, rest, rfl, hfirst⟩ := h.value.head
  obtain ⟨hblank, hminus, hplus, -⟩ := digit_plain hfirst
  have hdrop : text.dropWhile isBlank = sign ++ first :: rest := by
    rw [h.split, List.dropWhile_append_of_pos h.blank]
    rcases h.signs with rfl | rfl | rfl
    · exact List.dropWhile_cons_of_neg (by simp [hblank])
    · rfl
    · rfl
  rw [hdrop]
  rcases h.signs with rfl | rfl | rfl
  · unfold TextPieces.splitSign
    split <;> simp_all
  · rfl
  · rfl

/-- A text that is spelled so is read to its end. -/
theorem Spelling.strtoul {text blanks sign literal : List Char} {n : ℕ}
    (h : Spelling text blanks sign literal n) :
    strtoul text =
      if ulongSize ≤ n then ⟨ulongSize - 1, true, []⟩ else ⟨signed sign n, false, []⟩ := by
  obtain ⟨base, digits, hbase, hne, hdigits, hvalue⟩ := h.value.splitBase
  simp only [ProbeIndices.strtoul, h.splitSign, hbase, takeWhile_digits hdigits,
    dropWhile_digits hdigits, if_neg hne, hvalue]

/-- Only such a text is. -/
theorem spelling_of_strtoul {text : List Char} (hne : text ≠ []) (h : (strtoul text).rest = []) :
    ∃ blanks sign literal n, Spelling text blanks sign literal n := by
  obtain ⟨sign, literal, hsign⟩ : ∃ sign literal,
      splitSign (text.dropWhile isBlank) = (sign, literal) := ⟨_, _, rfl⟩
  obtain ⟨base, digits, hbase⟩ : ∃ base digits, splitBase literal = (base, digits) := ⟨_, _, rfl⟩
  simp only [strtoul, hsign, hbase] at h
  split_ifs at h with hnone hlarge
  · exact absurd h hne
  all_goals
    have hdigits : AllDigitsIn base digits := List.dropWhile_eq_nil_iff.mp h
    rw [takeWhile_digits hdigits] at hnone
    obtain ⟨happend, hsigns⟩ := splitSign_append hsign
    refine ⟨text.takeWhile isBlank, sign, literal, _, ?_, fun ch hch => List.mem_takeWhile_imp hch,
      hsigns, literal_of_splitBase hbase hnone hdigits⟩
    rw [← happend, List.takeWhile_append_dropWhile]

theorem Spelling.ne_nil {text blanks sign literal : List Char} {n : ℕ}
    (h : Spelling text blanks sign literal n) : text ≠ [] := by
  obtain ⟨first, rest, rfl, -⟩ := h.value.head
  simp [h.split]

theorem Spelling.no_nul {text blanks sign literal : List Char} {n : ℕ}
    (h : Spelling text blanks sign literal n) : text.takeWhile (· ≠ '\x00') = text := by
  apply List.takeWhile_eq_self_iff.mpr
  intro ch hch
  rw [h.split, List.mem_append, List.mem_append] at hch
  rw [decide_eq_true_eq]
  rcases hch with hch | hch | hch
  · rintro rfl
    exact absurd (h.blank _ hch) (by decide)
  · rintro rfl
    rcases h.signs with rfl | rfl | rfl <;> revert hch <;> decide
  · exact h.value.no_nul ch hch

/-- `parse_probe_index` on a spelled text that does not look octal. -/
theorem Spelling.parse {text blanks sign literal : List Char} {n : ℕ}
    (h : Spelling text blanks sign literal n) (hoctal : startsOctal text = false) (out : UInt8) :
    parseProbeIndex text out =
      if n < ulongSize ∧ signed sign n ≤ 255 then (true, UInt8.ofNat (signed sign n))
      else (false, out) := by
  rw [parseProbeIndex, if_neg h.ne_nil, hoctal, if_neg Bool.false_ne_true]
  simp only [h.no_nul, h.strtoul]
  by_cases hlarge : ulongSize ≤ n
  · simp [hlarge, Nat.not_lt.mpr hlarge]
  · by_cases hbyte : signed sign n ≤ 255
    · simp [hlarge, hbyte, Nat.not_le.mp hlarge]
    · simp [hlarge, hbyte, Nat.not_le.mp hbyte]

/-- Whatever else is refused. -/
theorem parse_unspelled {text : List Char}
    (h : startsOctal text = true ∨ ¬ ∃ blanks sign literal n, Spelling text blanks sign literal n)
    (out : UInt8) : parseProbeIndex text out = (false, out) := by
  simp only [parseProbeIndex]
  split_ifs with hnil hoctal hend hrange <;> try rfl
  exfalso
  rcases h with h | h
  · exact hoctal h
  · have hlen : (text.takeWhile (· ≠ '\x00')).length ≤ text.length :=
      (List.takeWhile_sublist _).length_le
    have hpos : text.length ≠ 0 := fun hzero => hnil (List.length_eq_zero_iff.mp hzero)
    have hwhole : text.takeWhile (· ≠ '\x00') = text :=
      (List.takeWhile_prefix _).eq_of_length (by omega)
    rw [ne_eq, not_not, hwhole] at hend
    exact h (spelling_of_strtoul hnil (List.length_eq_zero_iff.mp (by omega)))

theorem ByteText.le {text : List Char} {n : ℕ} (h : ByteText text n) : n ≤ 255 := by
  cases h with
  | zero => decide
  | decimal _ _ hbyte => exact hbyte
  | hex _ _ _ hbyte => exact hbyte

theorem ByteText.spelling {text : List Char} {n : ℕ} (h : ByteText text n) :
    Spelling text [] [] text n := by
  refine ⟨rfl, List.forall_mem_nil _, .inl rfl, ?_⟩
  cases h with
  | zero => exact .octal (List.forall_mem_nil _)
  | decimal hfirst hdigits _ => exact .decimal hfirst hdigits
  | hex hmark hne hdigits _ => exact .hex hmark hne hdigits

theorem ByteText.not_octal {text : List Char} {n : ℕ} (h : ByteText text n) :
    startsOctal text = false := by
  cases h with
  | zero => rfl
  | decimal hfirst _ _ =>
    unfold startsOctal
    split
    · next heq => exact absurd (List.cons.inj heq).1 hfirst
    · rfl
  | hex hmark _ _ _ => simp [startsOctal, hmark]

theorem ByteText.parse {text : List Char} {n : ℕ} (h : ByteText text n) (out : UInt8) :
    parseProbeIndex text out = (true, UInt8.ofNat n) := by
  have hle := h.le
  rw [h.spelling.parse h.not_octal, if_pos]
  · rfl
  · exact ⟨by rw [ulongSize]; omega, hle⟩

/-- A literal with nothing before it that is taken is a documented text. -/
theorem byteText_of_literal {text : List Char} {n : ℕ} (h : CLiteral text n)
    (hoctal : startsOctal text = false) (hbyte : n ≤ 255) : ByteText text n := by
  cases h with
  | decimal hfirst hdigits => exact .decimal hfirst hdigits hbyte
  | @octal digits hdigits =>
    cases digits with
    | nil => exact .zero
    | cons second rest =>
      have hmark := (digit_plain (hdigits second List.mem_cons_self)).2.2.2.2
      simp [startsOctal, hmark] at hoctal
  | hex hmark hne hdigits => exact .hex hmark hne hdigits hbyte

theorem Decorated.head {text : List Char} (h : Decorated text) :
    ∃ first rest, text = first :: rest ∧ isDigitIn 10 first = false := by
  obtain ⟨blanks, sign, literal, n, hspell, hdecor, -⟩ := h
  rcases blanks with - | ⟨first, blanks⟩
  · rcases hspell.signs with rfl | rfl | rfl
    · exact absurd rfl hdecor
    · exact ⟨'+', literal, hspell.split, rfl⟩
    · exact ⟨'-', literal, hspell.split, rfl⟩
  · refine ⟨first, _, hspell.split, ?_⟩
    by_contra hdigit
    have hplain := (digit_plain (by simpa using hdigit)).1
    rw [hspell.blank first List.mem_cons_self] at hplain
    exact absurd hplain (by decide)

theorem Decorated.not_byteText {text : List Char} (h : Decorated text) (n : ℕ) :
    ¬ ByteText text n := by
  intro hbyte
  obtain ⟨first, rest, rfl, hfirst⟩ := h.head
  obtain ⟨first', rest', heq, hdigit⟩ := hbyte.head
  obtain ⟨rfl, rfl⟩ := List.cons.inj heq
  rw [hfirst] at hdigit
  exact absurd hdigit (by decide)

theorem Decorated.parse {text : List Char} (h : Decorated text) (out : UInt8) :
    (parseProbeIndex text out).1 = true := by
  have hoctal : startsOctal text = false := by
    obtain ⟨first, rest, rfl, hfirst⟩ := h.head
    unfold startsOctal
    split
    · next heq =>
      rw [(List.cons.inj heq).1] at hfirst
      exact absurd hfirst (by decide)
    · rfl
  obtain ⟨blanks, sign, literal, n, hspell, -, hn, hbyte⟩ := h
  rw [hspell.parse hoctal, if_pos ⟨hn, hbyte⟩]

/-- A text that is neither documented nor decorated is refused. -/
theorem parse_refuses {text : List Char} (hdecor : ¬ Decorated text)
    (hbyte : ∀ n, ¬ ByteText text n) (out : UInt8) : parseProbeIndex text out = (false, out) := by
  by_cases hoctal : startsOctal text = true
  · exact parse_unspelled (.inl hoctal) out
  · by_cases hspelled : ∃ blanks sign literal n, Spelling text blanks sign literal n
    · obtain ⟨blanks, sign, literal, n, hspell⟩ := hspelled
      rw [hspell.parse (by simpa using hoctal), if_neg]
      rintro ⟨hn, hvalue⟩
      by_cases hbare : blanks ++ sign = []
      · obtain ⟨rfl, rfl⟩ := List.append_eq_nil_iff.mp hbare
        obtain rfl : text = literal := hspell.split
        exact hbyte n (byteText_of_literal hspell.value (by simpa using hoctal) hvalue)
      · exact hdecor ⟨blanks, sign, literal, n, hspell, hbare, hn, hvalue⟩
    · exact parse_unspelled (.inr hspelled) out

/-- Exactly the decorated texts are not read as documented. -/
theorem parsedAsDocumented_iff (text : List Char) :
    ParsedAsDocumented text ↔ ¬ Decorated text := by
  constructor
  · intro hdoc hdecor
    have hrefused := (hdoc 0).2 hdecor.not_byteText
    have htaken := hdecor.parse 0
    rw [hrefused] at htaken
    exact absurd htaken (by decide)
  · intro hdecor out
    exact ⟨fun value hvalue => hvalue.parse out, fun hnone => parse_refuses hdecor hnone out⟩

/-- A blank before the number is taken for nothing. -/
theorem blank_six_parsed : ¬ ParsedAsDocumented [' ', '6'] := by
  intro hdoc
  have hrefused : parseProbeIndex [' ', '6'] 0 = (false, 0) := by
    refine (hdoc 0).2 fun value hvalue => ?_
    obtain ⟨first, rest, heq, hdigit⟩ := hvalue.head
    obtain ⟨rfl, -⟩ := List.cons.inj heq
    exact absurd hdigit (by decide)
  exact absurd hrefused (by decide)

end HomeIoControl.ProbeIndices
