import HomeIoControl.KeyMaterialLogs
import HomeIoControl.LogIngestion
import HomeIoControl.TextPieces

/-!
# The log lines of a frame, read back

What the firmware prints of a frame under its two tags, and what the corpus tools extract from the
line: the direction and the bytes, and the chip from the structured tag alone.
-/

namespace HomeIoControl.FrameLogLines

open BacktrackingRegexes BacktrackingRegexes.Regex ProtocolFrames CorpusFrames PythonIntegers
  LogIngestion
open DeviceRegistries (hexByte)
open ReceptionLogs (hexCell commandName commandNames decodeCtrl1Flags frameLogHexBufferSize IsMasked
  renderFrameHexRedacted)

/-- `"%u"`. -/
def unsignedText (n : ℕ) : List Char := Nat.toDigits 10 n

/-- `log_frame`. -/
def logFrame (pre : String) (data : List UInt8) (freq : UInt32) (preamble : UInt16) : List Char :=
  let named := frameMinSize ≤ data.length
  let cmdStr := if named then commandName (data.getD ReceptionLogs.frameCmdOffset 0) else ""
  let flags := if named then decodeCtrl1Flags (data.getD 1 0) else ""
  let hex := renderFrameHexRedacted data frameLogHexBufferSize
  [pre.toList, " [".toList, unsignedText data.length, " bytes] freq=".toList,
    unsignedText freq.toNat,
    if 0 < preamble then " preamble=".toList ++ unsignedText preamble.toNat else [],
    " cmd=".toList, cmdStr.toList, " ".toList, flags.toList, ": ".toList, hex].flatten

def nodeHex (id : NodeId) : List Char := hexByte id.b0 ++ (hexByte id.b1 ++ hexByte id.b2)

/-- `log_component_capture` of a frame that was decoded. -/
def logComponentCapture (chipName stage : List Char) (freq ts : UInt32) (buf : List UInt8)
    (frame : IoFrame) : List Char :=
  ["chip=".toList, chipName, " phase=component stage=".toList, stage, " freq=".toList,
    unsignedText freq.toNat, " ts=".toList, unsignedText ts.toNat, " len=".toList,
    unsignedText buf.length, " cmd=0x".toList, hexByte frame.cmd, " src=".toList,
    nodeHex frame.src, " dst=".toList, nodeHex frame.dst, " payload=".toList,
    renderFrameHexRedacted buf frameLogHexBufferSize].flatten

/-- The bytes as `bytes_to_hex` spells them, but for the space behind the last. -/
def hexText (bytes : List UInt8) : List Char := List.intercalate [' '] (bytes.map hexByte)

theorem unsignedText_ne_nil (n : ℕ) : unsignedText n ≠ [] := Nat.toDigits_ne_nil

theorem isAsciiDigit_of_mem {n : ℕ} {ch : Char} (h : ch ∈ unsignedText n) :
    isAsciiDigit ch = true := by
  have hdigit : ch.isDigit = true :=
    Nat.isDigit_of_mem_toDigits (by decide) (by decide) h
  simpa [isAsciiDigit, Char.isDigit, Char.le_def] using hdigit

theorem isDigit_of_mem (u : CharTable) {n : ℕ} {ch : Char} (h : ch ∈ unsignedText n) :
    isDigit u ch = true := by
  rw [isDigit, isAsciiDigit_of_mem h]
  rfl

theorem isHexDigit_of_mem {b : UInt8} {ch : Char} (h : ch ∈ hexByte b) : isHexDigit ch = true := by
  have hall : ∀ n < 16, isHexDigit (DeviceRegistries.hexDigit n) = true := by decide
  have hlt := b.toNat_lt
  simp only [hexByte, List.mem_cons, List.not_mem_nil, or_false] at h
  rcases h with rfl | rfl
  · exact hall _ (by omega)
  · exact hall _ (by omega)

theorem isDigit_space (u : CharTable) : isDigit u ' ' = false := by
  have hascii : isAsciiDigit ' ' = false := by decide
  simp [isDigit, hascii]

/-- A printed character of ASCII is no white space. -/
theorem isSpace_of_printed {ch : Char} (h : 33 ≤ ch.toNat ∧ ch.toNat ≤ 126) :
    isSpace ch = false := by
  simp only [isSpace, decide_eq_false_iff_not, List.mem_cons, List.not_mem_nil, or_false]
  omega

theorem isSpace_of_mem {b : UInt8} {ch : Char} (h : ch ∈ hexByte b) : isSpace ch = false := by
  have hall : ∀ n < 16, isSpace (DeviceRegistries.hexDigit n) = false := by decide
  have hlt := b.toNat_lt
  simp only [hexByte, List.mem_cons, List.not_mem_nil, or_false] at h
  rcases h with rfl | rfl
  · exact hall _ (by omega)
  · exact hall _ (by omega)

section Parts

variable {u : CharTable} {rest : List Char}

theorem takes_text (s : String) (rest : List Char) : Takes (text s) s.toList [] rest :=
  takes_literal s.toList rest

/-- A space before a text that does not begin with one. -/
theorem takes_spaces (h : ∀ ch, rest.head? = some ch → isSpace ch = false) :
    Takes spaces [' '] [] rest :=
  takes_plus_char (List.cons_ne_nil _ _) (TextPieces.forall_mem_of_all (by decide)) h

theorem takes_anySpaces (h : ∀ ch, rest.head? = some ch → isSpace ch = false) :
    Takes anySpaces [' '] [] rest :=
  takes_star_char (TextPieces.forall_mem_of_all (by decide)) h

theorem takes_noSpaces (h : ∀ ch, rest.head? = some ch → isSpace ch = false) :
    Takes anySpaces [] [] rest :=
  takes_star_char (by simp) h

theorem takes_digits (n : ℕ) (h : ∀ ch, rest.head? = some ch → isDigit u ch = false) :
    Takes (digits u) (unsignedText n) [] rest :=
  takes_plus_char (unsignedText_ne_nil n) (fun _ hch => isDigit_of_mem u hch) h

theorem takes_word {name : List Char} (hne : name ≠ []) (hname : ∀ ch ∈ name, isSpace ch = false)
    (h : ∀ ch, rest.head? = some ch → isSpace ch = true) : Takes word name [] rest :=
  takes_plus_char hne (fun ch hch => by simp [hname ch hch]) fun ch hch => by simp [h ch hch]

theorem takes_pair (b : UInt8) : Takes (times 2 hexDigit) (hexByte b) [] rest :=
  takes_times_char (fun _ hch => isHexDigit_of_mem hch) rest

theorem head_hexByte {b : UInt8} {ch : Char} (h : (hexByte b ++ rest).head? = some ch) :
    isSpace ch = false :=
  isSpace_of_mem (List.mem_of_head? (by simpa [hexByte] using h))

theorem takes_spacedPair (b : UInt8) :
    Takes (seq spaces (times 2 hexDigit)) (' ' :: hexByte b) [] rest :=
  takes_seq (takes_spaces fun _ hch => head_hexByte hch) (takes_pair b)

theorem takes_spacedPairs (bytes : List UInt8) :
    Takes (star (seq spaces (times 2 hexDigit))) (bytes.flatMap fun b => ' ' :: hexByte b) []
      [' '] := by
  induction bytes with
  | nil => exact takes_star_nil fun before captures => rfl
  | cons b bytes ih => exact takes_star_cons (List.cons_ne_nil _ _) (takes_spacedPair b) ih

/-- The space behind the last byte is left. -/
theorem takes_hexPairsText (a b : UInt8) (bytes : List UInt8) :
    Takes hexPairsText (hexByte a ++ (b :: bytes).flatMap fun c => ' ' :: hexByte c) [] [' '] :=
  takes_seq (takes_pair a) (takes_seq (takes_spacedPair b) (takes_spacedPairs bytes))

theorem hexText_cons (a : UInt8) (bytes : List UInt8) :
    hexText (a :: bytes) = hexByte a ++ bytes.flatMap fun b => ' ' :: hexByte b := by
  induction bytes generalizing a with
  | nil => simp [hexText, List.intercalate]
  | cons b bytes ih =>
    rw [hexText, List.map_cons, List.map_cons, List.intercalate_cons_cons, ← List.map_cons,
      ← hexText, ih, List.flatMap_cons]
    simp

theorem flatMap_hexCell (a : UInt8) (bytes : List UInt8) :
    (a :: bytes).flatMap hexCell = hexText (a :: bytes) ++ [' '] := by
  rw [hexText_cons]
  induction bytes generalizing a with
  | nil => simp [hexCell]
  | cons b bytes ih =>
    rw [List.flatMap_cons, ih, List.flatMap_cons, hexCell]
    simp

end Parts

theorem commandName_mem (cmd : UInt8) :
    commandName cmd ∈ "UNKNOWN_CMD" :: commandNames.map Prod.snd := by
  rw [commandName]
  cases hlookup : commandNames.lookup cmd with
  | none => exact List.mem_cons_self
  | some name =>
    obtain ⟨front, back, hnames, -⟩ := List.lookup_eq_some_iff.mp hlookup
    refine List.mem_cons_of_mem _ (List.mem_map.mpr ⟨(cmd, name), ?_, rfl⟩)
    rw [hnames]
    simp

/-- A name of a command is one word without an equals sign. -/
theorem commandName_word (cmd : UInt8) : (commandName cmd).toList ≠ [] ∧
    ∀ ch ∈ (commandName cmd).toList, isSpace ch = false ∧ ch ≠ '=' := by
  have hall : (("UNKNOWN_CMD" :: commandNames.map Prod.snd).all fun name =>
      !name.toList.isEmpty && name.toList.all fun ch =>
        Nat.ble 62 ch.toNat && Nat.ble ch.toNat 95 || Nat.ble 48 ch.toNat && Nat.ble ch.toNat 57) =
      true := by decide
  have hname := List.all_eq_true.mp hall _ (commandName_mem cmd)
  rw [Bool.and_eq_true] at hname
  refine ⟨by simpa using hname.1, fun ch hch => ?_⟩
  have hrange := List.all_eq_true.mp hname.2 ch hch
  simp only [Bool.or_eq_true, Bool.and_eq_true, Nat.ble_eq] at hrange
  refine ⟨isSpace_of_printed (by omega), ?_⟩
  rintro rfl
  exact absurd hrange (by decide)

section Flags

variable {rest word : List Char}

theorem takes_flag {name : List Char} (hne : name ≠ [])
    (hname : ∀ ch ∈ name, ('A' ≤ ch ∧ ch ≤ 'Z')) :
    Takes flag ("[".toList ++ (name ++ "]".toList)) [] rest := by
  refine takes_sequence_cons (takes_literal "[".toList _) (takes_sequence_cons
    (takes_plus_char hne (fun ch hch => decide_eq_true (hname ch hch)) ?_)
    (takes_sequence_singleton (takes_literal "]".toList _)))
  intro ch hch
  obtain rfl : ']' = ch := by simpa using hch
  rfl

/-- A flag that may be there, before others. -/
theorem takes_flag_opt (c : Prop) [Decidable c] (shown : String) (name : List Char)
    (hne : name ≠ []) (hname : ∀ ch ∈ name, ('A' ≤ ch ∧ ch ≤ 'Z'))
    (hshown : shown.toList = "[".toList ++ (name ++ "]".toList))
    (h : Takes (star flag) word [] rest) :
    Takes (star flag) ((if c then shown else "").toList ++ word) [] rest := by
  by_cases hc : c
  · rw [if_pos hc, hshown]
    exact takes_star_cons (List.cons_ne_nil _ _) (takes_flag hne hname) h
  · rw [if_neg hc]
    exact h

/-- The flags are printed without an equals sign. -/
theorem decodeCtrl1Flags_printed (ctrl1 : UInt8) :
    ∀ ch ∈ (decodeCtrl1Flags ctrl1).toList, isSpace ch = false ∧ ch ≠ '=' := by
  have hopt (c : Prop) [Decidable c] (shown : String)
      (hshown : ∀ ch ∈ shown.toList, isSpace ch = false ∧ ch ≠ '=') :
      ∀ ch ∈ (if c then shown else "").toList, isSpace ch = false ∧ ch ≠ '=' := by
    by_cases hc : c
    · rwa [if_pos hc]
    · rw [if_neg hc]
      simp
  intro ch hch
  rw [decodeCtrl1Flags] at hch
  simp only [String.toList_append, List.mem_append] at hch
  rcases hch with (((hch | hch) | hch) | hch) | hch
  · exact hopt _ "[ACK]" (TextPieces.forall_mem_of_all (by decide)) ch hch
  · exact hopt _ "[LPM]" (TextPieces.forall_mem_of_all (by decide)) ch hch
  · exact hopt _ "[PRIO]" (TextPieces.forall_mem_of_all (by decide)) ch hch
  · exact hopt _ "[R]" (TextPieces.forall_mem_of_all (by decide)) ch hch
  · exact hopt _ "[B]" (TextPieces.forall_mem_of_all (by decide)) ch hch

theorem takes_flags (ctrl1 : UInt8) (h : rest.head? ≠ some '[') :
    Takes (star flag) (decodeCtrl1Flags ctrl1).toList [] rest := by
  have hnil : Takes (star flag) [] [] rest :=
    takes_star_nil fun before captures => reads_seq_of_nil (reads_literal_nil fun hprefix => by
      obtain ⟨others, rfl⟩ := hprefix
      exact h rfl)
  have hflags := takes_flag_opt (ctrl1 &&& ReceptionLogs.ctrl1Ack ≠ 0) "[ACK]"
    ['A', 'C', 'K'] (by decide) (TextPieces.forall_mem_of_all (by decide)) rfl
    (takes_flag_opt (ctrl1 &&& ctrl1LowPower ≠ 0) "[LPM]"
    ['L', 'P', 'M'] (by decide) (TextPieces.forall_mem_of_all (by decide)) rfl
    (takes_flag_opt (ctrl1 &&& ReceptionLogs.ctrl1Priority ≠ 0) "[PRIO]"
    ['P', 'R', 'I', 'O'] (by decide) (TextPieces.forall_mem_of_all (by decide)) rfl
    (takes_flag_opt (ctrl1 &&& ReceptionLogs.ctrl1Routed ≠ 0) "[R]"
    ['R'] (by decide) (TextPieces.forall_mem_of_all (by decide)) rfl
    (takes_flag_opt (ctrl1 &&& ReceptionLogs.ctrl1Beacon ≠ 0) "[B]"
    ['B'] (by decide) (TextPieces.forall_mem_of_all (by decide)) rfl hnil))))
  rw [decodeCtrl1Flags]
  simpa only [String.toList_append, List.append_assoc, List.append_nil] using hflags

end Flags

section FrameLine

variable {u : CharTable} {rest : List Char}

/-- A text does not begin with any of the characters. -/
theorem head_of_cons {accepts : Char → Bool} {value : Bool} {ch : Char} {others : List Char}
    (h : accepts ch = value) :
    ∀ other, (ch :: others).head? = some other → accepts other = value := by
  intro other hother
  obtain rfl : ch = other := by simpa using hother
  exact h

def preambleWord (preamble : UInt16) : List Char :=
  if 0 < preamble then
    "preamble=".toList ++ (unsignedText preamble.toNat ++ [' '])
  else []

def preambleFound (preamble : UInt16) : List (Field × List Char) :=
  if 0 < preamble then [(.preamble, unsignedText preamble.toNat)] else []

theorem takes_preambleField (preamble : UInt16) :
    Takes (preambleField u) (preambleWord preamble) (preambleFound preamble) ('c' :: rest) := by
  rw [preambleWord, preambleFound]
  by_cases hpreamble : 0 < preamble
  · rw [if_pos hpreamble, if_pos hpreamble]
    have hend : Takes (sequence [anySpaces]) [' '] [] ('c' :: rest) :=
      takes_sequence_singleton (takes_anySpaces (head_of_cons rfl))
    have hdigits : Takes (digits u) (unsignedText preamble.toNat) [] ([' '] ++ 'c' :: rest) :=
      takes_digits preamble.toNat (head_of_cons (isDigit_space u))
    have hfield := takes_sequence_cons (takes_capture .preamble hdigits) hend
    have hwhole := takes_sequence_cons (takes_text "preamble=" _) hfield
    exact takes_alt_left hwhole
  · rw [if_neg hpreamble, if_neg hpreamble]
    refine takes_opt_none fun before captures => reads_seq_of_nil (reads_literal_nil ?_)
    rintro ⟨others, hothers⟩
    cases hothers

def cmdWord (name flags : List Char) : List Char :=
  "cmd=".toList ++ (name ++ ([' '] ++ (flags ++ [])))

theorem takes_cmdField (cmd ctrl1 : UInt8) :
    Takes cmdField (cmdWord (commandName cmd).toList (decodeCtrl1Flags ctrl1).toList)
      [(.flags, (decodeCtrl1Flags ctrl1).toList), (.cmdName, (commandName cmd).toList)]
      (':' :: rest) := by
  obtain ⟨hne, hname⟩ := commandName_word cmd
  have hend : Takes (sequence [anySpaces]) [] [] (':' :: rest) :=
    takes_sequence_singleton (takes_noSpaces (head_of_cons rfl))
  have hstar : Takes (star flag) (decodeCtrl1Flags ctrl1).toList [] ([] ++ ':' :: rest) :=
    takes_flags ctrl1 (by simp)
  have hflags := takes_capture .flags hstar
  have hfields := takes_sequence_cons hflags hend
  have hhead : ∀ ch, (((decodeCtrl1Flags ctrl1).toList ++ []) ++ ':' :: rest).head? =
      some ch → isSpace ch = false := by
    intro ch hch
    have hprinted := decodeCtrl1Flags_printed ctrl1
    cases hlist : (decodeCtrl1Flags ctrl1).toList with
    | nil =>
      rw [hlist] at hch
      exact head_of_cons rfl ch hch
    | cons first others =>
      rw [hlist] at hch
      exact head_of_cons (hprinted first (by rw [hlist]; exact List.mem_cons_self)).1 ch hch
  have hspace := takes_sequence_cons (takes_anySpaces hhead) hfields
  have hword : Takes word (commandName cmd).toList []
      (([' '] ++ ((decodeCtrl1Flags ctrl1).toList ++ [])) ++ ':' :: rest) :=
    takes_word hne (fun ch hch => (hname ch hch).1) (head_of_cons rfl)
  have hnamed := takes_sequence_cons (takes_capture .cmdName hword) hspace
  have hwhole := takes_sequence_cons (takes_text "cmd=" _) hnamed
  exact takes_alt_left hwhole

/-- The text that the expression of the legacy tag takes. -/
def frameWord (pre : List Char) (len freq : ℕ) (preamble : UInt16) (cmd ctrl1 : UInt8)
    (hex : List Char) : List Char :=
  pre ++ ([' '] ++ (['['] ++ (unsignedText len ++ ([' '] ++ ("bytes]".toList ++ ([' '] ++
    ("freq=".toList ++ (unsignedText freq ++ ([' '] ++ (preambleWord preamble ++
      (cmdWord (commandName cmd).toList (decodeCtrl1Flags ctrl1).toList ++
        ([':'] ++ ([' '] ++ hex)))))))))))))

theorem head_preambleWord (preamble : UInt16) (name flags : List Char) {ch : Char}
    (h : (preambleWord preamble ++ (cmdWord name flags ++ rest)).head? = some ch) :
    isSpace ch = false := by
  have hfirst (first : Char) (hspace : isSpace first = false) (others : List Char)
      (hhead : (first :: others).head? = some ch) : isSpace ch = false :=
    head_of_cons hspace ch hhead
  rw [preambleWord] at h
  split_ifs at h
  · exact hfirst 'p' rfl _ h
  · exact hfirst 'c' rfl _ h

theorem takes_ioFrame {pre : List Char}
    (hpre : ∀ rest, Takes (alt (text "TX") (text "RX")) pre [] rest) (len freq : ℕ)
    (preamble : UInt16) (cmd ctrl1 a b : UInt8) (bytes : List UInt8) :
    ∃ found, Takes (ioFrame u)
        (frameWord pre len freq preamble cmd ctrl1 (hexText (a :: b :: bytes))) found [' '] ∧
      found.lookup .hex = some (hexText (a :: b :: bytes)) ∧ found.lookup .txRx = some pre := by
  let shown := hexText (a :: b :: bytes)
  let nameText := cmdWord (commandName cmd).toList (decodeCtrl1Flags ctrl1).toList
  have hhex := takes_capture .hex (takes_hexPairsText a b bytes)
  rw [← hexText_cons] at hhex
  have hspace : Takes anySpaces [' '] [] (shown ++ [' ']) := takes_anySpaces fun ch hch => by
    simp only [shown, hexText_cons, List.append_assoc] at hch
    exact head_hexByte hch
  have hvalue := takes_sequence_cons hspace (takes_sequence_singleton hhex)
  have hcolon : Takes (text ":") [':'] [] (([' '] ++ shown) ++ [' ']) := takes_text ":" _
  have hcmd : Takes cmdField nameText _ (([':'] ++ ([' '] ++ shown)) ++ [' ']) :=
    takes_cmdField cmd ctrl1
  have hnamed := takes_sequence_cons hcmd (takes_sequence_cons hcolon hvalue)
  have hpreamble : Takes (preambleField u) (preambleWord preamble) _
      ((nameText ++ ([':'] ++ ([' '] ++ shown))) ++ [' ']) := takes_preambleField preamble
  have hsent := takes_sequence_cons hpreamble hnamed
  have hgap : Takes anySpaces [' '] [] ((preambleWord preamble ++ (nameText ++
      ([':'] ++ ([' '] ++ shown)))) ++ [' ']) := takes_anySpaces fun ch hch => by
    rw [List.append_assoc, List.append_assoc] at hch
    exact head_preambleWord preamble _ _ hch
  have hbehind := takes_sequence_cons hgap hsent
  generalize hbehindText : preambleWord preamble ++ (nameText ++ ([':'] ++ ([' '] ++ shown))) =
    behind at hbehind
  have hfreq : Takes (digits u) (unsignedText freq) [] (([' '] ++ behind) ++ [' ']) :=
    takes_digits freq (head_of_cons (isDigit_space u))
  have htuned := takes_sequence_cons (takes_text "freq=" _)
    (takes_sequence_cons (takes_capture .freq hfreq) hbehind)
  generalize htunedText : unsignedText freq ++ ([' '] ++ behind) = tuned at htuned
  have hgap : Takes spaces [' '] [] (("freq=".toList ++ tuned) ++ [' ']) :=
    takes_spaces (head_of_cons rfl)
  have hbytes := takes_sequence_cons (takes_text "bytes]" _) (takes_sequence_cons hgap htuned)
  generalize hbytesText : [' '] ++ ("freq=".toList ++ tuned) = counted at hbytes
  have hgap : Takes spaces [' '] [] (("bytes]".toList ++ counted) ++ [' ']) :=
    takes_spaces (head_of_cons rfl)
  have hspaced := takes_sequence_cons hgap hbytes
  have hlen : Takes (digits u) (unsignedText len) []
      (([' '] ++ ("bytes]".toList ++ counted)) ++ [' ']) :=
    takes_digits len (head_of_cons (isDigit_space u))
  have hopen : Takes (text "[") ['['] [] ((unsignedText len ++
      ([' '] ++ ("bytes]".toList ++ counted))) ++ [' ']) := takes_text "[" _
  have hcounted := takes_sequence_cons hopen
    (takes_sequence_cons (takes_capture .len hlen) hspaced)
  have hgap : Takes spaces [' '] [] ((['['] ++ (unsignedText len ++
      ([' '] ++ ("bytes]".toList ++ counted)))) ++ [' ']) := takes_spaces (head_of_cons rfl)
  have hwhole := takes_sequence_cons (takes_capture .txRx (hpre _))
    (takes_sequence_cons hgap hcounted)
  subst hbytesText htunedText hbehindText
  refine ⟨_, hwhole, rfl, ?_⟩
  rw [preambleFound]
  by_cases hpreamble : 0 < preamble
  · rw [if_pos hpreamble]
    rfl
  · rw [if_neg hpreamble]
    rfl

end FrameLine

theorem strip_append {text blanks : List Char} (hhead : ∀ ch, text.head? = some ch →
    isSpace ch = false) (hlast : ∀ ch, text.getLast? = some ch → isSpace ch = false)
    (hne : text ≠ []) (hblanks : ∀ ch ∈ blanks, isSpace ch = true) :
    strip (text ++ blanks) = text := by
  have hkeep (t : List Char) (ht : t ≠ []) (h : ∀ ch, t.head? = some ch → isSpace ch = false) :
      t.dropWhile isSpace = t := by
    obtain ⟨ch, others, rfl⟩ := List.exists_cons_of_ne_nil ht
    exact List.dropWhile_cons_of_neg (by simp [h ch rfl])
  have hfront : (text ++ blanks).dropWhile isSpace = text ++ blanks := by
    refine hkeep _ (List.append_ne_nil_of_left_ne_nil hne _) fun ch hch => hhead ch ?_
    obtain ⟨first, others, rfl⟩ := List.exists_cons_of_ne_nil hne
    exact hch
  have hback : text.reverse.dropWhile isSpace = text.reverse :=
    hkeep _ (by simpa using hne) fun ch hch => hlast ch (by simpa using hch)
  rw [strip, hfront, List.reverse_append, List.dropWhile_append_of_pos fun ch hch =>
    hblanks ch (List.mem_reverse.mp hch), hback, List.reverse_reverse]

theorem hexText_ends (a : UInt8) (bytes : List UInt8) :
    (∀ ch, (hexText (a :: bytes)).head? = some ch → isSpace ch = false) ∧
      (∀ ch, (hexText (a :: bytes)).getLast? = some ch → isSpace ch = false) ∧
      hexText (a :: bytes) ≠ [] := by
  have hlow (b : UInt8) (front : List Char) (ch : Char)
      (h : (front ++ hexByte b).getLast? = some ch) : isSpace ch = false :=
    isSpace_of_mem (List.mem_of_getLast? (by simpa [hexByte, List.getLast?_append] using h))
  rw [hexText_cons]
  refine ⟨fun ch hch => head_hexByte hch, fun ch hch => ?_, by simp [hexByte]⟩
  rcases List.eq_nil_or_concat bytes with rfl | ⟨bytes, z, rfl⟩
  · exact hlow a [] ch (by simpa using hch)
  · refine hlow z (hexByte a ++ (bytes.flatMap fun b => ' ' :: hexByte b) ++ [' ']) ch ?_
    simpa using hch

theorem strip_hexText (a : UInt8) (bytes : List UInt8) {blanks : List Char}
    (hblanks : ∀ ch ∈ blanks, isSpace ch = true) :
    strip (hexText (a :: bytes) ++ blanks) = hexText (a :: bytes) :=
  strip_append (hexText_ends a bytes).1 (hexText_ends a bytes).2.1 (hexText_ends a bytes).2.2
    hblanks

/-- The mark of the structured tag, a `p` before an equals sign, stands nowhere. -/
def NoMark (text : List Char) : Prop := ∀ u v, text ≠ u ++ 'p' :: '=' :: v

theorem noMark_of_not_mem {text : List Char} (h : '=' ∉ text) : NoMark text := by
  rintro u v rfl
  exact h (by simp)

/-- An equals sign behind another letter. -/
theorem noMark_append {front rest : List Char} (hfront : '=' ∉ front)
    (hlast : front.getLast? ≠ some 'p') (hrest : NoMark rest) :
    NoMark (front ++ '=' :: rest) := by
  intro u v heq
  rcases List.append_eq_append_iff.mp heq with ⟨t, -, ht⟩ | ⟨t, rfl, ht⟩
  · cases t with
    | nil => exact absurd (List.cons.inj ht).1 (by decide)
    | cons ch t => exact hrest t v (List.cons.inj ht).2
  · cases t with
    | nil => exact absurd (List.cons.inj ht).1 (by decide)
    | cons ch t =>
      obtain ⟨rfl, hbehind⟩ := List.cons.inj ht
      cases t with
      | nil => exact hlast (by simp)
      | cons ch t =>
        obtain ⟨rfl, -⟩ := List.cons.inj hbehind
        exact hfront (by simp)

theorem search_none_of_noMark {r : Regex Field} {rs : List (Regex Field)} {line : List Char}
    (hr : r = sequence (text "chip=" :: rs)) (h : NoMark line) : r.search line = none := by
  subst hr
  refine search_eq_none fun u v huv => reads_seq_of_nil (reads_literal_nil ?_)
  rintro ⟨others, rfl⟩
  refine h (u ++ ['c', 'h', 'i']) others ?_
  rw [huv]
  simp

def directionText : Direction → String
  | .tx => "TX"
  | .rx => "RX"

theorem takes_directionText (direction : Direction) (rest : List Char) :
    Takes (alt (text "TX") (text "RX")) (directionText direction).toList [] rest := by
  cases direction with
  | tx => exact takes_alt_left (takes_text "TX" rest)
  | rx =>
    refine takes_alt_right (fun before captures => reads_literal_nil ?_) (takes_text "RX" rest)
    rintro ⟨others, hothers⟩
    exact absurd (List.cons.inj hothers).1 (by decide)

section Lines

variable {u : CharTable} {stamp : List Char} {direction : Direction} {data : List UInt8}
  {freq : UInt32} {preamble : UInt16}

/-- The bytes of a frame that is not masked are all shown. -/
theorem renderFrameHexRedacted_eq (hne : data ≠ [])
    (hfits : data.length ≤ RadioLinks.radioPacketBufferSize) (hmask : ¬ IsMasked data) :
    renderFrameHexRedacted data frameLogHexBufferSize = hexText data ++ [' '] := by
  rw [KeyMaterialLogs.renderFrameHexRedacted_of_unmasked hmask hfits, KeyMaterialLogs.shownBytes,
    if_neg hmask]
  obtain ⟨a, bytes, rfl⟩ := List.exists_cons_of_ne_nil hne
  exact flatMap_hexCell a bytes

theorem logFrame_eq (hmin : frameMinSize ≤ data.length)
    (hfits : data.length ≤ RadioLinks.radioPacketBufferSize) (hmask : ¬ IsMasked data) :
    logFrame (directionText direction) data freq preamble =
      frameWord (directionText direction).toList data.length freq.toNat preamble
        (data.getD ReceptionLogs.frameCmdOffset 0) (data.getD 1 0) (hexText data) ++ [' '] := by
  have hne : data ≠ [] := by
    rintro rfl
    exact absurd hmin (by decide)
  have hopen : " [".toList = [' '] ++ ['['] := rfl
  have hcount : " bytes] freq=".toList = [' '] ++ ("bytes]".toList ++ ([' '] ++ "freq=".toList)) :=
    rfl
  have hpreamble : " preamble=".toList = [' '] ++ "preamble=".toList := rfl
  have hcmd : " cmd=".toList = [' '] ++ "cmd=".toList := rfl
  have hspace : " ".toList = [' '] := rfl
  have hcolon : ": ".toList = [':'] ++ [' '] := rfl
  simp only [logFrame, if_pos hmin, renderFrameHexRedacted_eq hne hfits hmask, frameWord,
    preambleWord, cmdWord]
  rw [hopen, hcount, hpreamble, hcmd, hspace, hcolon]
  split_ifs <;>
    simp only [List.flatten_cons, List.flatten_nil, List.append_assoc, List.nil_append,
      List.append_nil]

theorem equals_not_mem_unsigned (n : ℕ) : '=' ∉ unsignedText n := fun h =>
  absurd (isAsciiDigit_of_mem h) (by decide)

theorem not_mem_hexText {ch : Char} (hhex : isHexDigit ch = false) (hspace : ch ≠ ' ')
    (bytes : List UInt8) : ch ∉ hexText bytes := by
  have hbyte (b : UInt8) : ch ∉ hexByte b := fun h => by
    rw [isHexDigit_of_mem h] at hhex
    exact absurd hhex (by decide)
  cases bytes with
  | nil => exact List.not_mem_nil
  | cons a bytes =>
    rw [hexText_cons]
    intro h
    rcases List.mem_append.mp h with h | h
    · exact hbyte a h
    · obtain ⟨b, -, hb⟩ := List.mem_flatMap.mp h
      rcases List.mem_cons.mp hb with h | h
      · exact hspace h
      · exact hbyte b h

/-- The mark of the structured tag stands nowhere in a line of the legacy tag. -/
theorem noMark_frameWord (hstamp : '=' ∉ stamp) (len freq : ℕ) (preamble : UInt16)
    (cmd ctrl1 : UInt8) (bytes : List UInt8) :
    NoMark (stamp ++ (frameWord (directionText direction).toList len freq preamble cmd ctrl1
      (hexText bytes) ++ [' '])) := by
  have hdirection : '=' ∉ (directionText direction).toList := by cases direction <;> decide
  have hvalue : NoMark ((commandName cmd).toList ++ ([' '] ++ ((decodeCtrl1Flags ctrl1).toList ++
      ([':'] ++ ([' '] ++ (hexText bytes ++ [' '])))))) := by
    refine noMark_of_not_mem fun h => ?_
    simp only [List.mem_append, List.mem_singleton] at h
    rcases h with h | h | h | h | h | h | h
    · exact ((commandName_word cmd).2 _ h).2 rfl
    · exact absurd h (by decide)
    · exact (decodeCtrl1Flags_printed ctrl1 _ h).2 rfl
    · exact absurd h (by decide)
    · exact absurd h (by decide)
    · exact not_mem_hexText (by decide) (by decide) bytes h
    · exact absurd h (by decide)
  have hassign (front key rest : List Char) (hfront : '=' ∉ front) (hkey : '=' ∉ key)
      (hlast : key.getLast?.any (· ≠ 'p') = true) (hrest : NoMark rest) :
      NoMark (front ++ (key ++ '=' :: rest)) := by
    obtain ⟨ch, hch, hne⟩ := (Option.any_eq_true _ _).mp hlast
    rw [← List.append_assoc]
    refine noMark_append ?_ ?_ hrest
    · rw [List.mem_append, not_or]
      exact ⟨hfront, hkey⟩
    · rw [List.getLast?_append, hch]
      simpa using hne
  generalize hvalueText : (commandName cmd).toList ++ ([' '] ++ ((decodeCtrl1Flags ctrl1).toList ++
    ([':'] ++ ([' '] ++ (hexText bytes ++ [' ']))))) = value at hvalue
  have hsent : NoMark ((unsignedText freq ++ [' ']) ++ (preambleWord preamble ++
      ("cmd".toList ++ '=' :: value))) := by
    have hfreq : '=' ∉ unsignedText freq ++ [' '] := by
      simp [equals_not_mem_unsigned]
    rw [preambleWord]
    split_ifs
    · have hpreamble : "preamble=".toList = "preamble".toList ++ ['='] := rfl
      have hlast := hassign _ "cmd".toList value
        (show '=' ∉ unsignedText preamble.toNat ++ [' '] by simp [equals_not_mem_unsigned])
        (by decide) (by decide) hvalue
      have hboth := hassign _ "preamble".toList _ hfreq (by decide)
        (by decide) hlast
      rw [hpreamble]
      simpa only [List.append_assoc, List.cons_append, List.nil_append] using hboth
    · exact hassign _ "cmd".toList value hfreq (by decide) (by decide) hvalue
  have hfront : '=' ∉ stamp ++ ((directionText direction).toList ++ ([' '] ++ (['['] ++
      (unsignedText len ++ ([' '] ++ ("bytes]".toList ++ [' '])))))) := by
    simp only [List.mem_append, not_or]
    exact ⟨hstamp, hdirection, by decide, by decide, equals_not_mem_unsigned len, by decide,
      by decide, by decide⟩
  have hline := hassign _ "freq".toList _ hfront (by decide) (by decide) hsent
  have hfreq : "freq=".toList = "freq".toList ++ ['='] := rfl
  have hcmd : "cmd=".toList = "cmd".toList ++ ['='] := rfl
  rw [← hvalueText] at hline
  simpa only [frameWord, cmdWord, hfreq, hcmd, List.append_assoc, List.cons_append,
    List.nil_append] using hline

theorem parseLogLine_of_ioFrame {line : List Char} {m : Match Field}
    (hwith : (ioCaptureWithFrame u).search line = none)
    (hno : (ioCaptureNoFrame u).search line = none) (h : (ioFrame u).search line = some m) :
    parseLogLine u line = some (some
      { direction := if Match.field m .txRx = "TX".toList then .tx else .rx
        hexBytes := strip (Match.field m .hex)
        freq := decimalValue u (Match.field m .freq)
        tMs := wallClockMs u line
        chip := none
        unverified := false
        sourceLine := line }) := by
  simp only [parseLogLine, hwith, hno, h]

/-- The line of the legacy tag gives the direction and the bytes, and no chip. -/
theorem parseLogLine_logFrame (hstamp : '=' ∉ stamp ∧ 'X' ∉ stamp)
    (hmin : frameMinSize ≤ data.length)
    (hfits : data.length ≤ RadioLinks.radioPacketBufferSize) (hmask : ¬ IsMasked data) :
    ∃ frame, parseLogLine u (stamp ++ logFrame (directionText direction) data freq preamble) =
        some (some frame) ∧
      frame.direction = direction ∧ frame.hexBytes = hexText data ∧ frame.chip = none ∧
      frame.sourceLine = stamp ++ logFrame (directionText direction) data freq preamble := by
  rw [logFrame_eq hmin hfits hmask]
  obtain ⟨a, b, bytes, rfl⟩ : ∃ a b bytes, data = a :: b :: bytes := by
    cases data with
    | nil => exact absurd hmin (by decide)
    | cons a data =>
      cases data with
      | nil => exact absurd hmin (by simp [frameMinSize])
      | cons b bytes => exact ⟨a, b, bytes, rfl⟩
  have hnoMark : NoMark (stamp ++ (frameWord (directionText direction).toList
      (a :: b :: bytes).length freq.toNat preamble
      ((a :: b :: bytes).getD ReceptionLogs.frameCmdOffset 0) ((a :: b :: bytes).getD 1 0)
      (hexText (a :: b :: bytes)) ++ [' '])) := noMark_frameWord hstamp.1 _ _ _ _ _ _
  obtain ⟨found, htakes, hhex, htxRx⟩ := takes_ioFrame (u := u) (takes_directionText direction)
    (a :: b :: bytes).length freq.toNat preamble
    ((a :: b :: bytes).getD ReceptionLogs.frameCmdOffset 0) ((a :: b :: bytes).getD 1 0) a b bytes
  generalize hword : frameWord (directionText direction).toList (a :: b :: bytes).length freq.toNat
    preamble ((a :: b :: bytes).getD ReceptionLogs.frameCmdOffset 0) ((a :: b :: bytes).getD 1 0)
    (hexText (a :: b :: bytes)) = word at hnoMark htakes
  have hwith := search_none_of_noMark (r := ioCaptureWithFrame u) rfl hnoMark
  have hno := search_none_of_noMark (r := ioCaptureNoFrame u) rfl hnoMark
  obtain ⟨ch, others, hcons, hch⟩ : ∃ ch others, word = ch :: others ∧ 'X' ≠ ch := by
    subst hword
    cases direction with
    | tx => exact ⟨'T', _, rfl, by decide⟩
    | rx => exact ⟨'R', _, rfl, by decide⟩
  have hskip : ∀ front back, stamp = front ++ back → back ≠ [] →
      (ioFrame u).reads ⟨⟨front.reverse, back ++ (word ++ [' '])⟩, []⟩ = [] := by
    intro front back hsplit hback
    have hnot (letters : List Char) (hlength : letters.length = 2) (hX : 'X' ∈ letters) :
        ¬ letters <+: back ++ (word ++ [' ']) := by
      have htext : back ++ (word ++ [' ']) = (back ++ [ch]) ++ (others ++ [' ']) := by
        rw [hcons]
        simp
      rw [htext]
      refine not_prefix_of_mark hX ?_ ?_
      · rw [List.mem_append, not_or, List.mem_singleton]
        exact ⟨fun h => hstamp.2 (by rw [hsplit]; exact List.mem_append_right _ h), hch⟩
      · have hpos := List.length_pos_iff.mpr hback
        rw [hlength, List.length_append, List.length_singleton]
        omega
    exact reads_seq_of_nil (reads_capture_nil (reads_alt_nil
      (reads_literal_nil (hnot "TX".toList rfl (by decide)))
      (reads_literal_nil (hnot "RX".toList rfl (by decide)))))
  have hsearch := search_of_takes htakes (by rw [hcons]; exact List.cons_ne_nil _ _) hskip
  have hfields : ∀ m, (ioFrame u).search (stamp ++ (word ++ [' '])) = some m →
      Match.field m .hex = hexText (a :: b :: bytes) ∧
        Match.field m .txRx = (directionText direction).toList := by
    intro m hm
    obtain rfl := Option.some.inj (hsearch.symm.trans hm)
    simp [Match.field, Reading.group, hhex, htxRx]
  refine ⟨_, parseLogLine_of_ioFrame hwith hno hsearch, ?_, ?_, rfl, rfl⟩
  · simp only [(hfields _ hsearch).2]
    cases direction <;> rfl
  · simp only [(hfields _ hsearch).1]
    have hstrip : strip (hexText (a :: b :: bytes) ++ []) = hexText (a :: b :: bytes) :=
      strip_hexText a (b :: bytes) (by simp)
    rwa [List.append_nil] at hstrip

end Lines

end HomeIoControl.FrameLogLines
