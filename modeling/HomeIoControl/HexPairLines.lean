import HomeIoControl.KeyMaterialScans
import HomeIoControl.TextPieces
import Mathlib.Data.List.SplitBy

/-!
# Lines of hexadecimal pairs

How the script reads a line of pairs, each with its mark and with separators or nothing before it.
The runs that it finds are the pieces of the line between places where nothing stands.
-/

namespace HomeIoControl.HexPairLines

open BacktrackingRegexes BacktrackingRegexes.Regex ProtocolFrames PythonIntegers KeyMaterialScans

inductive Mark where
  | bare
  | zeroX
  | backslashX
  deriving DecidableEq

namespace Mark

def text : Mark → List Char
  | bare => []
  | zeroX => ['0', 'x']
  | backslashX => ['\\', 'x']

end Mark

/-- A byte as two hexadecimal digits, with its mark and what stands before it. -/
structure Pair where
  sep : List Char
  mark : Mark
  high : Char
  low : Char
  sep_ok : ∀ ch ∈ sep, isSeparator ch = true
  high_ok : isHexDigit high = true
  low_ok : isHexDigit low = true

namespace Pair

def token (p : Pair) : List Char := p.mark.text ++ [p.high, p.low]

def text (p : Pair) : List Char := p.sep ++ p.token

def byte (p : Pair) : UInt8 := tokenByte p.token

/-- Something stands between the pair and the one before it. -/
def Apart (p : Pair) : Prop := p.sep ≠ []

instance (p : Pair) : Decidable p.Apart := inferInstanceAs (Decidable (_ ≠ _))

end Pair

def lineText (pairs : List Pair) : List Char := pairs.flatMap Pair.text

/-- The line cut before each pair that stands with nothing before it. -/
def pieces (pairs : List Pair) : List (List Pair) := pairs.splitBy fun _ q => q.Apart

def pieceBytes (piece : List Pair) : List UInt8 := piece.map Pair.byte

theorem isSeparator_not_hex {ch : Char} (h : isSeparator ch = true) : isHexDigit ch = false := by
  have hcases : ch ∈ [' ', '\t', ',', ':', '_', '-'] := by simpa [isSeparator] using h
  have hall : ∀ ch ∈ [' ', '\t', ',', ':', '_', '-'], isHexDigit ch = false :=
    TextPieces.forall_mem_of_all (by decide)
  exact hall ch hcases

theorem hexDigit_not_separator {ch : Char} (h : isHexDigit ch = true) : isSeparator ch = false := by
  cases hsep : isSeparator ch with
  | false => rfl
  | true => exact absurd h (by simp [isSeparator_not_hex hsep])

section Tokens

variable {before rest : List Char}

/-- No digit stands at the near end of the text. -/
def NoDigitAhead (text : List Char) : Prop := ∀ ch, text.head? = some ch → isHexDigit ch = false

theorem any_isHexDigit {text : List Char} (h : NoDigitAhead text) :
    text.head?.any isHexDigit = false := by
  cases text with
  | nil => rfl
  | cons ch text => exact h ch rfl

theorem reads_notBehindHex (h : NoDigitAhead before) :
    (look notBehindHex : Regex Empty).reads ⟨⟨before, rest⟩, []⟩ = [⟨⟨before, rest⟩, []⟩] :=
  if_pos (by simp [notBehindHex, any_isHexDigit h])

/-- Two digits with no further one behind them. -/
theorem reads_digits {high low : Char} (hhigh : isHexDigit high = true)
    (hlow : isHexDigit low = true) (hrest : NoDigitAhead rest) :
    (seq (times 2 (char isHexDigit)) (look notBeforeHex) : Regex Empty).reads
      ⟨⟨before, high :: low :: rest⟩, []⟩ = [⟨⟨low :: high :: before, rest⟩, []⟩] := by
  have htimes : (times 2 (char isHexDigit) : Regex Empty).reads
      ⟨⟨before, high :: low :: rest⟩, []⟩ = [⟨⟨low :: high :: before, rest⟩, []⟩] := by
    rw [times, List.replicate, List.replicate, List.replicate, List.foldr_cons, List.foldr_cons,
      reads_seq_of_singleton (reads_char hhigh), reads_seq_of_singleton (reads_char hlow)]
    rfl
  rw [reads_seq_of_singleton htimes]
  exact if_pos (by simp [notBeforeHex, any_isHexDigit hrest])

theorem reads_digits_nil (h : NoDigitAhead rest) :
    (seq (times 2 (char isHexDigit)) (look notBeforeHex) : Regex Empty).reads
      ⟨⟨before, rest⟩, []⟩ = [] := by
  refine reads_seq_of_nil ?_
  rw [times, List.replicate, List.foldr_cons]
  exact reads_seq_of_nil (reads_char_nil h)

/-- No mark is read where neither mark stands. -/
theorem reads_hexMark_nil (hzero : ¬ ['0', 'x'] <+: rest) (hslash : ¬ ['\\', 'x'] <+: rest) :
    hexMark.reads ⟨⟨before, rest⟩, []⟩ = [⟨⟨before, rest⟩, []⟩] :=
  reads_opt_of_nil ((reads_alt_right (reads_literal_nil hzero)).trans (reads_literal_nil hslash))

theorem first_hexMark (mark : Mark) {high low : Char} (hhigh : isHexDigit high = true)
    (hlow : isHexDigit low = true) :
    hexMark.first ⟨⟨before, mark.text ++ high :: low :: rest⟩, []⟩ =
      some ⟨⟨mark.text.reverse ++ before, high :: low :: rest⟩, []⟩ := by
  have hread (word text : List Char) : (literal word : Regex Empty).first
      ⟨⟨before, word ++ text⟩, []⟩ = some ⟨⟨word.reverse ++ before, text⟩, []⟩ := by
    rw [first, reads_literal]
    rfl
  cases mark with
  | bare =>
    have hzero : ¬ ['0', 'x'] <+: high :: low :: rest := by
      simp only [List.cons_prefix_cons]
      exact fun h => isHexDigit_ne hlow (rfl : hexValue 'x' = none) h.2.1.symm
    have hslash : ¬ ['\\', 'x'] <+: high :: low :: rest := by
      simp only [List.cons_prefix_cons]
      exact fun h => isHexDigit_ne hhigh (rfl : hexValue '\\' = none) h.1.symm
    have hreads : hexMark.reads ⟨⟨before, high :: low :: rest⟩, []⟩ =
        [⟨⟨before, high :: low :: rest⟩, []⟩] := reads_hexMark_nil hzero hslash
    exact congrArg List.head? hreads
  | zeroX => exact first_alt_left (first_alt_left (hread ['0', 'x'] (high :: low :: rest)))
  | backslashX =>
    have hzero : ¬ ['0', 'x'] <+: ['\\', 'x'] ++ high :: low :: rest := by
      simp [List.cons_prefix_cons]
    have halt : (alt (literal ['0', 'x']) (literal ['\\', 'x']) : Regex Empty).reads
        ⟨⟨before, ['\\', 'x'] ++ high :: low :: rest⟩, []⟩ =
        (literal ['\\', 'x']).reads ⟨⟨before, ['\\', 'x'] ++ high :: low :: rest⟩, []⟩ :=
      reads_alt_right (reads_literal_nil hzero)
    exact first_alt_left ((congrArg List.head? halt).trans
      (hread ['\\', 'x'] (high :: low :: rest)))

/-- A token is read whole. -/
theorem first_hexToken (mark : Mark) {high low : Char} (hbefore : NoDigitAhead before)
    (hhigh : isHexDigit high = true) (hlow : isHexDigit low = true) (hrest : NoDigitAhead rest) :
    hexToken.first ⟨⟨before, mark.text ++ high :: low :: rest⟩, []⟩ =
      some ⟨⟨low :: high :: (mark.text.reverse ++ before), rest⟩, []⟩ := by
  have hlook : (look notBehindHex : Regex Empty).reads
      ⟨⟨before, mark.text ++ high :: low :: rest⟩, []⟩ =
        [⟨⟨before, mark.text ++ high :: low :: rest⟩, []⟩] := reads_notBehindHex hbefore
  have hdigits : (seq (times 2 (char isHexDigit)) (look notBeforeHex) : Regex Empty).reads
      ⟨⟨mark.text.reverse ++ before, high :: low :: rest⟩, []⟩ =
        [⟨⟨low :: high :: (mark.text.reverse ++ before), rest⟩, []⟩] :=
    reads_digits hhigh hlow hrest
  rw [first, hexToken, reads_seq_of_singleton hlook]
  refine first_seq (first_hexMark mark hhigh hlow) ?_
  rw [first, hdigits]
  rfl

/-- No token begins at a character that is neither a digit nor a backslash. -/
theorem reads_hexToken_nil (hdigit : NoDigitAhead rest) (hslash : rest.head? ≠ some '\\') :
    hexToken.reads ⟨⟨before, rest⟩, []⟩ = [] := by
  have hzero : ¬ ['0', 'x'] <+: rest := by
    rintro ⟨others, rfl⟩
    exact absurd (hdigit '0' rfl) (by decide)
  have hback : ¬ ['\\', 'x'] <+: rest := by
    rintro ⟨others, rfl⟩
    exact hslash rfl
  refine reads_seq_nil fun t ht => ?_
  rw [reads] at ht
  split_ifs at ht with hbehind
  · rw [List.mem_singleton.mp ht, reads_seq_of_singleton (reads_hexMark_nil hzero hback)]
    exact reads_digits_nil hdigit
  · exact absurd ht List.not_mem_nil

/-- No token begins right behind a digit. -/
theorem reads_hexToken_behind {ch : Char} (h : isHexDigit ch = true) :
    hexToken.reads ⟨⟨ch :: before, rest⟩, []⟩ = [] :=
  reads_seq_of_nil (if_neg (by simp [notBehindHex, h]))

end Tokens

section Runs

variable {before rest : List Char} {pairs : List Pair}

theorem lineText_cons (p : Pair) (pairs : List Pair) :
    lineText (p :: pairs) = p.sep ++ (p.mark.text ++ p.high :: p.low :: lineText pairs) := by
  simp [lineText, Pair.text, Pair.token]

theorem noDigit_of_separator {sep text : List Char} (hne : sep ≠ [])
    (hsep : ∀ ch ∈ sep, isSeparator ch = true) : NoDigitAhead (sep ++ text) := by
  obtain ⟨ch, sep, rfl⟩ := List.exists_cons_of_ne_nil hne
  intro other hother
  obtain rfl : ch = other := by simpa using hother
  exact isSeparator_not_hex (hsep ch List.mem_cons_self)

theorem noDigit_lineText (hpairs : ∀ p ∈ pairs, p.Apart) (hrest : NoDigitAhead rest) :
    NoDigitAhead (lineText pairs ++ rest) := by
  cases pairs with
  | nil => exact hrest
  | cons p pairs =>
    rw [lineText_cons, List.append_assoc]
    exact noDigit_of_separator (hpairs p List.mem_cons_self) p.sep_ok

theorem token_not_separator (p : Pair) (text : List Char) (ch : Char)
    (h : (p.mark.text ++ p.high :: p.low :: text).head? = some ch) : isSeparator ch = false := by
  cases hmark : p.mark with
  | bare =>
    obtain rfl : p.high = ch := by simpa [hmark, Mark.text] using h
    exact hexDigit_not_separator p.high_ok
  | zeroX =>
    obtain rfl : '0' = ch := by simpa [hmark, Mark.text] using h
    rfl
  | backslashX =>
    obtain rfl : '\\' = ch := by simpa [hmark, Mark.text] using h
    rfl

/-- A separator and a token behind it. -/
theorem first_sepToken {p : Pair} (hp : p.Apart) (hrest : NoDigitAhead rest) :
    (seq hexSep hexToken).first ⟨⟨before, p.text ++ rest⟩, []⟩ =
      some ⟨⟨p.text.reverse ++ before, rest⟩, []⟩ := by
  have hsep : hexSep.first ⟨⟨before, p.sep ++ (p.mark.text ++ p.high :: p.low :: rest)⟩, []⟩ =
      some ⟨⟨p.sep.reverse ++ before, p.mark.text ++ p.high :: p.low :: rest⟩, []⟩ :=
    first_plus_char hp p.sep_ok (token_not_separator p rest)
  have hbefore : NoDigitAhead (p.sep.reverse ++ before) :=
    noDigit_of_separator (by simpa [Pair.Apart] using hp)
      fun ch hch => p.sep_ok ch (List.mem_reverse.mp hch)
  have htoken := first_hexToken p.mark hbefore p.high_ok p.low_ok hrest
  have hfirst := first_seq hsep htoken
  simpa [Pair.text, Pair.token] using hfirst

/-- No further pair of a run stands at the text. -/
def EndsRun (rest : List Char) : Prop :=
  NoDigitAhead rest ∧ ∀ before, (seq hexSep hexToken).reads ⟨⟨before, rest⟩, []⟩ = []

theorem first_sepTokens (hpairs : ∀ p ∈ pairs, p.Apart) (hrest : EndsRun rest) :
    (star (seq hexSep hexToken)).first ⟨⟨before, lineText pairs ++ rest⟩, []⟩ =
      some ⟨⟨(lineText pairs).reverse ++ before, rest⟩, []⟩ := by
  induction pairs generalizing before with
  | nil => exact first_star_stop (hrest.2 before)
  | cons p pairs ih =>
    have hothers : ∀ q ∈ pairs, q.Apart := fun q hq => hpairs q (List.mem_cons_of_mem _ hq)
    have hstep : (seq hexSep hexToken).first ⟨⟨before, p.text ++ (lineText pairs ++ rest)⟩, []⟩ =
        some ⟨⟨p.text.reverse ++ before, lineText pairs ++ rest⟩, []⟩ :=
      first_sepToken (hpairs p List.mem_cons_self) (noDigit_lineText hothers hrest.1)
    have htext : lineText (p :: pairs) ++ rest = p.text ++ (lineText pairs ++ rest) := by
      simp [lineText]
    have hless : (⟨⟨p.text.reverse ++ before, lineText pairs ++ rest⟩, []⟩ : Reading Empty).left <
        (⟨⟨before, p.text ++ (lineText pairs ++ rest)⟩, []⟩ : Reading Empty).left := by
      simp [Reading.left, Pair.text, Pair.token]
      omega
    rw [htext, first_star_step hstep hless, ih hothers]
    simp [lineText]

/-- A run of pairs is read whole. -/
theorem hit_hexRun (mark : Mark) {high low : Char} (hbefore : NoDigitAhead before)
    (hhigh : isHexDigit high = true) (hlow : isHexDigit low = true)
    (hpairs : ∀ p ∈ pairs, p.Apart) (hrest : EndsRun rest) :
    hexRun.hit ⟨before, mark.text ++ high :: low :: (lineText pairs ++ rest)⟩ =
      some ⟨⟨(lineText pairs).reverse ++ low :: high :: (mark.text.reverse ++ before), rest⟩,
        []⟩ := by
  have htoken := first_hexToken mark hbefore hhigh hlow (noDigit_lineText hpairs hrest.1)
  refine hit_of_first (first_seq htoken (first_sepTokens hpairs hrest)) ?_
  simp [Reading.left]
  omega

theorem endsRun_separators {trailing : List Char}
    (h : ∀ ch ∈ trailing, isSeparator ch = true) : EndsRun trailing := by
  have hhead : ∀ text : List Char, (∀ ch ∈ text, isSeparator ch = true) →
      NoDigitAhead text ∧ text.head? ≠ some '\\' := by
    intro text htext
    constructor
    · intro ch hch
      exact isSeparator_not_hex (htext ch (List.mem_of_head? hch))
    · intro hch
      exact absurd (htext _ (List.mem_of_head? hch)) (by decide)
  refine ⟨(hhead trailing h).1, fun before => reads_seq_nil fun t ht => ?_⟩
  obtain ⟨u, hu, hstar⟩ := List.mem_flatMap.mp ht
  cases trailing with
  | nil => exact absurd hu List.not_mem_nil
  | cons ch trailing =>
    rw [reads_char (h ch List.mem_cons_self)] at hu
    rw [List.mem_singleton.mp hu] at hstar
    obtain ⟨word, text, rfl, -, rfl⟩ := mem_reads_star_char hstar
    have hmore := hhead text fun other hother =>
      h other (List.mem_cons_of_mem _ (List.mem_append_right _ hother))
    exact reads_hexToken_nil hmore.1 hmore.2

theorem endsRun_backslash (text : List Char) : EndsRun ('\\' :: text) := by
  constructor
  · intro ch hch
    obtain rfl : '\\' = ch := by simpa using hch
    rfl
  · intro before
    refine reads_seq_of_nil (reads_seq_of_nil (reads_char_nil fun ch hch => ?_))
    obtain rfl : '\\' = ch := by simpa using hch
    rfl

/-- The bytes that `_hex_runs` decodes from a match. -/
def runBytes (run : Match Empty) : List UInt8 :=
  (hexToken.findIter ⟨[], run.text⟩).map fun token => tokenByte token.text

theorem tokenByte_token (mark : Mark) (high low : Char) :
    tokenByte (mark.text ++ [high, low]) = tokenByte [high, low] := by
  rw [tokenByte, tokenByte, List.length_append, List.drop_append]
  cases mark <;> rfl

theorem findIter_token (mark : Mark) {high low : Char} (hbefore : NoDigitAhead before)
    (hhigh : isHexDigit high = true) (hlow : isHexDigit low = true) (hrest : NoDigitAhead rest) :
    (hexToken.findIter ⟨before, mark.text ++ high :: low :: rest⟩).map
        (fun token => tokenByte token.text) =
      tokenByte [high, low] :: (hexToken.findIter
        ⟨low :: high :: (mark.text.reverse ++ before), rest⟩).map
          fun token => tokenByte token.text := by
  have hhit := hit_of_first (first_hexToken mark hbefore hhigh hlow hrest)
    (by simp [Reading.left]; omega)
  have htext : (⟨⟨before, mark.text ++ high :: low :: rest⟩,
      ⟨⟨low :: high :: (mark.text.reverse ++ before), rest⟩, []⟩⟩ : Match Empty).text =
        mark.text ++ [high, low] := by
    have happend := Reading.textTo_append before (mark.text ++ [high, low])
      (mark.text ++ high :: low :: rest) rest ([] : List (Empty × List Char)) []
    simpa [Match.text] using happend
  rw [findIter_hit hhit, List.map_cons, htext, tokenByte_token]

theorem reads_hexToken_separator {ch : Char} (h : isSeparator ch = true) :
    hexToken.reads ⟨⟨before, ch :: rest⟩, []⟩ = [] := by
  refine reads_hexToken_nil ?_ ?_
  · intro other hother
    obtain rfl : ch = other := by simpa using hother
    exact isSeparator_not_hex h
  · intro hother
    obtain rfl : ch = '\\' := by simpa using hother
    exact absurd h (by decide)

/-- Nothing that begins with a token begins at a separator. -/
theorem findIter_separators {sep : List Char} {r : Regex Empty}
    (hr : ∀ s, hexToken.reads s = [] → r.reads s = []) (hsep : ∀ ch ∈ sep, isSeparator ch = true) :
    r.findIter ⟨before, sep ++ rest⟩ = r.findIter ⟨sep.reverse ++ before, rest⟩ := by
  refine findIter_skip fun u v huv hv => hit_of_nil (hr _ ?_)
  obtain ⟨ch, v, rfl⟩ := List.exists_cons_of_ne_nil hv
  exact reads_hexToken_separator (hsep ch (by rw [huv]; simp))

theorem tokens_lineText (hpairs : ∀ p ∈ pairs, p.Apart) :
    (hexToken.findIter ⟨before, lineText pairs⟩).map (fun token => tokenByte token.text) =
      pairs.map Pair.byte := by
  induction pairs generalizing before with
  | nil => rfl
  | cons p pairs ih =>
    have hothers : ∀ q ∈ pairs, q.Apart := fun q hq => hpairs q (List.mem_cons_of_mem _ hq)
    have hbefore : NoDigitAhead (p.sep.reverse ++ before) :=
      noDigit_of_separator (by simpa [Pair.Apart] using hpairs p List.mem_cons_self)
        fun ch hch => p.sep_ok ch (List.mem_reverse.mp hch)
    have hrest : NoDigitAhead (lineText pairs) := by
      have hempty : NoDigitAhead [] := by simp [NoDigitAhead]
      simpa using noDigit_lineText hothers hempty
    rw [lineText_cons, findIter_separators (fun _ => id) p.sep_ok,
      findIter_token p.mark hbefore p.high_ok p.low_ok hrest, ih hothers, List.map_cons, Pair.byte,
      Pair.token, tokenByte_token]

/-- A run is matched whole, and the search goes on behind it. -/
theorem findIter_run (mark : Mark) {high low : Char} (hbefore : NoDigitAhead before)
    (hhigh : isHexDigit high = true) (hlow : isHexDigit low = true)
    (hpairs : ∀ p ∈ pairs, p.Apart) (hrest : EndsRun rest) :
    (hexRun.findIter ⟨before, mark.text ++ high :: low :: (lineText pairs ++ rest)⟩).map runBytes =
      (tokenByte [high, low] :: pairs.map Pair.byte) :: (hexRun.findIter
        ⟨(lineText pairs).reverse ++ low :: high :: (mark.text.reverse ++ before), rest⟩).map
          runBytes := by
  have hhit := hit_hexRun mark hbefore hhigh hlow hpairs hrest
  have htext : (⟨⟨before, mark.text ++ high :: low :: (lineText pairs ++ rest)⟩,
      ⟨⟨(lineText pairs).reverse ++ low :: high :: (mark.text.reverse ++ before), rest⟩, []⟩⟩ :
        Match Empty).text = mark.text ++ high :: low :: lineText pairs := by
    have happend := Reading.textTo_append before (mark.text ++ high :: low :: lineText pairs)
      (mark.text ++ high :: low :: (lineText pairs ++ rest)) rest
      ([] : List (Empty × List Char)) []
    simpa [Match.text] using happend
  have hempty : NoDigitAhead [] := by simp [NoDigitAhead]
  have hlater : NoDigitAhead (lineText pairs) := by
    simpa using noDigit_lineText hpairs hempty
  rw [findIter_hit hhit, List.map_cons]
  congr 1
  rw [runBytes, htext, findIter_token mark hempty hhigh hlow hlater, tokens_lineText hpairs]

end Runs

theorem isChain_apart {p : Pair} {pairs : List Pair} (h : ∀ q ∈ pairs, q.Apart) :
    (p :: pairs).IsChain fun _ q => decide q.Apart = true := by
  induction pairs generalizing p with
  | nil => exact List.isChain_singleton _
  | cons q pairs ih =>
    refine List.isChain_cons_cons.mpr ⟨decide_eq_true (h q List.mem_cons_self), ?_⟩
    exact ih fun q' hq' => h q' (List.mem_cons_of_mem _ hq')

theorem pieces_cons (p : Pair) (pairs : List Pair) :
    pieces (p :: pairs) = (p :: pairs.takeWhile fun q => q.Apart) ::
      pieces (pairs.dropWhile fun q => q.Apart) := by
  have hsplit : p :: pairs = (p :: pairs.takeWhile fun q => q.Apart) ++
      pairs.dropWhile fun q => q.Apart := by
    rw [List.cons_append, List.takeWhile_append_dropWhile]
  have hcut : ∀ x ∈ (p :: pairs.takeWhile fun q => q.Apart).getLast?,
      ∀ y ∈ (pairs.dropWhile fun q => q.Apart).head?, decide y.Apart = false := by
    intro x _ y hy
    have hnot := List.head?_dropWhile_not (fun q : Pair => decide q.Apart) pairs
    rw [hy] at hnot
    exact hnot
  have hwhole : (p :: pairs.takeWhile fun q => q.Apart).splitBy (fun _ q => decide q.Apart) =
      [p :: pairs.takeWhile fun q => q.Apart] :=
    List.splitBy_of_isChain (List.cons_ne_nil _ _)
      (isChain_apart fun q hq => by simpa using List.mem_takeWhile_imp hq)
  conv_lhs => rw [hsplit]
  rw [pieces, List.splitBy_append hcut, hwhole]
  rfl

/-- Right behind a digit, a mark with a backslash is left out of the run. -/
theorem findIter_behind {before rest : List Char} {ch : Char} (h : isHexDigit ch = true) :
    hexRun.findIter ⟨ch :: before, Mark.backslashX.text ++ rest⟩ =
      hexRun.findIter ⟨'x' :: '\\' :: ch :: before, rest⟩ := by
  have hslash : hexRun.hit ⟨ch :: before, '\\' :: 'x' :: rest⟩ = none :=
    hit_of_nil (reads_seq_of_nil (reads_hexToken_behind h))
  have hx : hexRun.hit ⟨'\\' :: ch :: before, 'x' :: rest⟩ = none := by
    refine hit_of_nil (reads_seq_of_nil (reads_hexToken_nil ?_ (by simp)))
    intro other hother
    obtain rfl : 'x' = other := by simpa using hother
    rfl
  exact (findIter_miss hslash).trans (findIter_miss hx)

/-- Where nothing stands before a pair, a mark sets it off. -/
def SetOff (pairs : List Pair) : Prop := ∀ p ∈ pairs, ¬ p.Apart → p.mark = .backslashX

/-- The runs of a line are its pieces. -/
theorem runs_of_line {before trailing : List Char} {pairs : List Pair}
    (htrailing : ∀ ch ∈ trailing, isSeparator ch = true) (htail : SetOff pairs.tail)
    (hhead : NoDigitAhead before ∨ SetOff (pairs.take 1)) :
    (hexRun.findIter ⟨before, lineText pairs ++ trailing⟩).map runBytes =
      (pieces pairs).map pieceBytes := by
  induction hn : pairs.length using Nat.strong_induction_on generalizing before pairs with
  | _ n ih =>
    subst hn
    have hrun : ∀ s, hexToken.reads s = [] → hexRun.reads s = [] := fun s => reads_seq_of_nil
    cases pairs with
    | nil =>
      have hskip : hexRun.findIter ⟨before, trailing ++ []⟩ =
          hexRun.findIter ⟨trailing.reverse ++ before, []⟩ := findIter_separators hrun htrailing
      rw [List.append_nil, findIter_nil] at hskip
      rw [lineText, List.flatMap_nil, List.nil_append, hskip]
      rfl
    | cons p pairs =>
      obtain ⟨qs, hqs⟩ : ∃ qs, qs = pairs.takeWhile fun q => q.Apart := ⟨_, rfl⟩
      obtain ⟨rs, hrs⟩ : ∃ rs, rs = pairs.dropWhile fun q => q.Apart := ⟨_, rfl⟩
      have hpairs : pairs = qs ++ rs := by rw [hqs, hrs, List.takeWhile_append_dropWhile]
      have hapart : ∀ q ∈ qs, q.Apart := fun q hq => by
        rw [hqs] at hq
        simpa using List.mem_takeWhile_imp hq
      have hshort : rs.length < (p :: pairs).length := by
        rw [hpairs, List.length_cons, List.length_append]
        omega
      have hsetOff : SetOff rs := fun q hq => htail q (by rw [List.tail_cons, hpairs]; simp [hq])
      have hends : EndsRun (lineText rs ++ trailing) := by
        cases hrs' : rs with
        | nil => exact endsRun_separators htrailing
        | cons r others =>
          have hnot : ¬ r.Apart := by
            have hfirst := List.head?_dropWhile_not (fun q : Pair => decide q.Apart) pairs
            rw [← hrs, hrs'] at hfirst
            simpa using hfirst
          have hmark : r.mark = .backslashX := hsetOff r (by rw [hrs']; simp) hnot
          have hsep : r.sep = [] := by simpa [Pair.Apart] using hnot
          rw [lineText_cons, hsep, hmark]
          exact endsRun_backslash _
      have hmore (before' : List Char) :
          (hexRun.findIter ⟨before', lineText rs ++ trailing⟩).map runBytes =
            (pieces rs).map pieceBytes :=
        ih _ hshort (fun q hq => hsetOff q (List.mem_of_mem_tail hq))
          (.inr fun q hq => hsetOff q (List.mem_of_mem_take hq)) rfl
      have htext : lineText (p :: pairs) ++ trailing = p.sep ++ (p.mark.text ++
          p.high :: p.low :: (lineText qs ++ (lineText rs ++ trailing))) := by
        rw [lineText_cons, hpairs]
        simp [lineText]
      have hbytes : pieceBytes (p :: qs) = tokenByte [p.high, p.low] :: qs.map Pair.byte := by
        rw [pieceBytes, List.map_cons, Pair.byte, Pair.token, tokenByte_token]
      rw [htext, findIter_separators hrun p.sep_ok, pieces_cons, ← hqs, ← hrs, List.map_cons,
        hbytes]
      by_cases hfree : NoDigitAhead (p.sep.reverse ++ before)
      · rw [findIter_run p.mark hfree p.high_ok p.low_ok hapart hends, hmore]
      · -- The mark cannot be read behind a digit, and the run begins at the pair's own digits.
        have hnot : ¬ p.Apart := fun hp => hfree (noDigit_of_separator
          (by simpa [Pair.Apart] using hp) fun ch hch => p.sep_ok ch (List.mem_reverse.mp hch))
        have hsep : p.sep = [] := by simpa [Pair.Apart] using hnot
        rw [hsep, List.reverse_nil, List.nil_append] at hfree
        have hmark : p.mark = .backslashX :=
          (hhead.resolve_left hfree) p (by simp) hnot
        obtain ⟨ch, hch, hhex⟩ : ∃ ch, before.head? = some ch ∧ isHexDigit ch = true := by
          simpa [NoDigitAhead] using hfree
        obtain ⟨before', rfl⟩ : ∃ before', before = ch :: before' := List.head?_eq_some_iff.mp hch
        have hx : NoDigitAhead ('x' :: '\\' :: ch :: before') := by
          intro other hother
          obtain rfl : 'x' = other := by simpa using hother
          rfl
        have hrun := findIter_run .bare hx p.high_ok p.low_ok hapart hends
        rw [hsep, List.reverse_nil, List.nil_append, hmark, findIter_behind hhex]
        exact hrun.trans (congrArg _ (hmore _))

theorem isSeparator_not_base64 {ch : Char} (h : isSeparator ch = true) : isBase64 ch = false := by
  have hcases : ch ∈ [' ', '\t', ',', ':', '_', '-'] := by simpa [isSeparator] using h
  have hall : ∀ ch ∈ [' ', '\t', ',', ':', '_', '-'], isBase64 ch = false :=
    TextPieces.forall_mem_of_all (by decide)
  exact hall ch hcases

theorem takeWhile_separators {sep text : List Char} (hne : sep ≠ [])
    (hsep : ∀ ch ∈ sep, isSeparator ch = true) : (sep ++ text).takeWhile isBase64 = [] := by
  obtain ⟨ch, sep, rfl⟩ := List.exists_cons_of_ne_nil hne
  exact List.takeWhile_cons_of_neg
    (by simp [isSeparator_not_base64 (hsep ch List.mem_cons_self)])

/-- What stands behind a pair is not base64. -/
theorem takeWhile_behind {trailing : List Char} {pairs : List Pair}
    (htrailing : ∀ ch ∈ trailing, isSeparator ch = true) (hpairs : SetOff pairs) :
    (lineText pairs ++ trailing).takeWhile isBase64 = [] := by
  cases pairs with
  | nil =>
    cases trailing with
    | nil => rfl
    | cons ch trailing =>
      have hnone : ((ch :: trailing) ++ []).takeWhile isBase64 = [] :=
        takeWhile_separators (List.cons_ne_nil ch trailing) htrailing
      rwa [List.append_nil] at hnone
  | cons p pairs =>
    rw [lineText_cons, List.append_assoc]
    by_cases hp : p.Apart
    · exact takeWhile_separators hp p.sep_ok
    · have hempty : p.sep = [] := by simpa [Pair.Apart] using hp
      rw [hempty, hpairs p List.mem_cons_self hp]
      rfl

theorem takeWhile_append_le {accepts : Char → Bool} {word rest : List Char}
    (h : rest.takeWhile accepts = []) :
    ((word ++ rest).takeWhile accepts).length ≤ word.length := by
  rw [List.takeWhile_append]
  split_ifs with hall
  · rw [h, List.append_nil]
  · exact (List.takeWhile_prefix _).length_le

/-- A mark and two digits at most stand together in the alphabet of base64. -/
theorem base64_short {trailing u v : List Char} {pairs : List Pair}
    (htrailing : ∀ ch ∈ trailing, isSeparator ch = true) (hpairs : SetOff pairs.tail)
    (h : lineText pairs ++ trailing = u ++ v) : (v.takeWhile isBase64).length ≤ 4 := by
  induction pairs generalizing u with
  | nil =>
    rw [lineText, List.flatMap_nil, List.nil_append] at h
    cases v with
    | nil => exact Nat.zero_le _
    | cons ch v =>
      have hv : ∀ other ∈ ch :: v, isSeparator other = true := fun other hother =>
        htrailing other (by rw [h]; exact List.mem_append_right _ hother)
      have hnone : ((ch :: v) ++ []).takeWhile isBase64 = [] :=
        takeWhile_separators (List.cons_ne_nil ch v) hv
      rw [List.append_nil] at hnone
      rw [hnone]
      exact Nat.zero_le _
  | cons p pairs ih =>
    have hbehind := takeWhile_behind htrailing hpairs
    have htext : lineText (p :: pairs) ++ trailing =
        p.sep ++ (p.token ++ (lineText pairs ++ trailing)) := by simp [lineText, Pair.text]
    have htoken : p.token.length ≤ 4 := by
      rw [Pair.token, List.length_append]
      cases p.mark <;> simp [Mark.text]
    rw [htext] at h
    rcases List.append_eq_append_iff.mp h with ⟨u', rfl, hu⟩ | ⟨w, hw, rfl⟩
    · rcases List.append_eq_append_iff.mp hu with ⟨u'', rfl, hrest⟩ | ⟨w, hw, rfl⟩
      · exact ih (fun q hq => hpairs q (List.mem_of_mem_tail hq)) hrest
      · refine Nat.le_trans (takeWhile_append_le hbehind) (Nat.le_trans ?_ htoken)
        rw [hw, List.length_append]
        omega
    · cases w with
      | nil =>
        rw [List.nil_append]
        exact Nat.le_trans (takeWhile_append_le hbehind) htoken
      | cons ch w =>
        rw [takeWhile_separators (List.cons_ne_nil _ _) fun other hother =>
          p.sep_ok other (by rw [hw]; exact List.mem_append_right _ hother)]
        exact Nat.zero_le _

/-- No base64 is found in a line of pairs. -/
theorem base64Run_of_line {trailing : List Char} {pairs : List Pair}
    (htrailing : ∀ ch ∈ trailing, isSeparator ch = true) (hpairs : SetOff pairs.tail) :
    base64Run.findIter ⟨[], lineText pairs ++ trailing⟩ = [] := by
  have hskip : base64Run.findIter ⟨[], (lineText pairs ++ trailing) ++ []⟩ =
      base64Run.findIter ⟨(lineText pairs ++ trailing).reverse ++ [], []⟩ := by
    refine findIter_skip fun u v huv _ => ?_
    have hshort : ((v ++ []).takeWhile isBase64).length < 16 := by
      rw [List.append_nil]
      exact Nat.lt_of_le_of_lt (base64_short htrailing hpairs huv) (by decide)
    exact hit_of_nil (reads_seq_of_nil (reads_seq_of_nil (reads_times_char_nil hshort)))
  rwa [List.append_nil, findIter_nil] at hskip

end HomeIoControl.HexPairLines
