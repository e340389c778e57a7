import HomeIoControl.DeviceRegistries
import HomeIoControl.FirmwareUpdater
import Mathlib.Data.List.Infix
import Mathlib.Data.String.Basic

/-!
# A firmware image on its way to the chip

The build packs the bytes of an image into words and renders them as a C++ array; the updater
unpacks the words into the parameters of its write commands. Between the two the bytes stay the
same, whenever BUSY stops the write.
-/

namespace HomeIoControl.FlashImages

open TracedPrograms DeviceRegistries FirmwareUpdater

variable {α : Type}

/-- The slices `xs[i : i + n] for i in range(0, len(xs), n)`. -/
def slices (n : ℕ) (xs : List α) : List (List α) :=
  (List.range ((xs.length + n - 1) / n)).map fun i => (xs.drop (i * n)).take n

theorem slices_nil {n : ℕ} (hn : 0 < n) : slices n ([] : List α) = [] := by
  have hzero : (0 + n - 1) / n = 0 := Nat.div_eq_of_lt (by omega)
  rw [slices, List.length_nil, hzero]
  rfl

theorem slices_of_ne_nil {n : ℕ} (hn : 0 < n) {xs : List α} (hxs : xs ≠ []) :
    slices n xs = xs.take n :: slices n (xs.drop n) := by
  have hpos : 0 < xs.length := List.length_pos_iff.mpr hxs
  have hcount : (xs.length + n - 1) / n = ((xs.drop n).length + n - 1) / n + 1 := by
    rw [← Nat.add_div_right _ hn, List.length_drop]
    rcases Nat.lt_or_ge xs.length n with hshort | hlong
    · have hleft : (xs.length + n - 1) / n = 1 := by
        rw [Nat.div_eq_of_lt_le] <;> omega
      have hright : (xs.length - n + n - 1 + n) / n = 1 := by
        rw [Nat.div_eq_of_lt_le] <;> omega
      rw [hleft, hright]
    · congr 1
      omega
  rw [slices, hcount, List.range_succ_eq_map, List.map_cons, List.map_map]
  refine congrArg₂ List.cons (by rw [Nat.zero_mul, List.drop_zero]) ?_
  apply List.map_congr_left
  intro i _
  rw [Function.comp_apply, List.drop_drop, Nat.succ_mul, Nat.add_comm n]

/-- The slices of a list from those of what is left after the first. -/
theorem slices_induction {n : ℕ} (hn : 0 < n) {motive : List α → Prop} (nil : motive [])
    (slice : ∀ xs, xs ≠ [] → motive (xs.drop n) → motive xs) (xs : List α) : motive xs := by
  induction hlen : xs.length using Nat.strong_induction_on generalizing xs with
  | _ len ih =>
    by_cases hxs : xs = []
    · exact hxs ▸ nil
    · have hpos : 0 < xs.length := List.length_pos_iff.mpr hxs
      refine slice xs hxs (ih _ ?_ _ rfl)
      rw [List.length_drop]
      omega

theorem flatten_slices {n : ℕ} (hn : 0 < n) (xs : List α) : (slices n xs).flatten = xs := by
  induction xs using slices_induction hn with
  | nil => rw [slices_nil hn, List.flatten_nil]
  | slice xs hxs ih =>
    rw [slices_of_ne_nil hn hxs, List.flatten_cons, ih, List.take_append_drop]

theorem length_of_mem_slices {n : ℕ} (hn : 0 < n) {xs slice : List α} (hmod : xs.length % n = 0)
    (h : slice ∈ slices n xs) : slice.length = n := by
  induction xs using slices_induction hn with
  | nil =>
    rw [slices_nil hn] at h
    exact absurd h List.not_mem_nil
  | slice xs hxs ih =>
    have hpos : 0 < xs.length := List.length_pos_iff.mpr hxs
    have hle : n ≤ xs.length := Nat.le_of_dvd hpos (Nat.dvd_of_mod_eq_zero hmod)
    rw [slices_of_ne_nil hn hxs, List.mem_cons] at h
    rcases h with rfl | h
    · rw [List.length_take, Nat.min_eq_left hle]
    · refine ih ?_ h
      rw [List.length_drop, ← Nat.mod_eq_sub_mod hle, hmod]

/-- `FirmwareImage`. -/
structure FirmwareImage where
  data : List UInt8
  version : ℕ
  url : String

/-- `validate_image`. No character but `l` and `r` and their capitals is lower-cased to one of
the two. -/
def validateImage (data : List UInt8) (url : String) : Except String Unit :=
  if data.length = 0 then
    .error ("Firmware image is empty (0 bytes), refusing to generate a zero-word image: " ++ url)
  else if data.length % 4 ≠ 0 then
    .error ("Firmware image length " ++ toString data.length ++
      " is not a multiple of 4 bytes (not a valid raw word image): " ++ url)
  else if ¬ "lr1121".toList <:+: url.toList.map Char.toLower then
    .error ("Resolved firmware URL does not look like an LR1121 image: " ++ url)
  else .ok ()

theorem validateImage_ok {data : List UInt8} {url : String} (h : validateImage data url = .ok ()) :
    data.length ≠ 0 ∧ data.length % 4 = 0 := by
  rw [validateImage] at h
  split_ifs at h with hempty hmod
  exact ⟨hempty, not_not.mp hmod⟩

/-- `int.from_bytes(chunk, 'big')`. -/
def intFromBytes (chunk : List UInt8) : ℕ := chunk.foldl (fun n b => 256 * n + b.toNat) 0

/-- A number of at most so many hexadecimal digits, padded with zeros. -/
def paddedHex (digits n : ℕ) : List Char :=
  (List.range digits).reverse.map fun i => hexDigit (n / 16 ^ i % 16)

/-- `f"0x{word:08X}"` for a word of four bytes. -/
def wordLiteral (word : ℕ) : List Char := '0' :: 'x' :: paddedHex 8 word

/-- `words`. -/
def imageWords (data : List UInt8) : List (List Char) :=
  (slices 4 data).map fun chunk => wordLiteral (intFromBytes chunk)

/-- `body_lines`. -/
def bodyLines (words : List (List Char)) : List (List Char) :=
  (slices 8 words).map fun line => "    ".toList ++ [',', ' '].intercalate line ++ [',']

/-- The line that opens the array. -/
def arrayOpening (arrayName : String) : List Char :=
  ("inline const uint32_t " ++ arrayName ++ "[] = \x7b").toList

/-- What stands before the array in a header. -/
def headerStart : List (List Char) :=
  ["#pragma once".toList,
    ("// Auto-generated by the home_io_control lr1121_firmware_update build step. " ++
      "Do not edit.").toList,
    "#include <cstddef>".toList,
    "#include <cstdint>".toList,
    [],
    "namespace esphome \x7b".toList,
    "namespace home_io_control \x7b".toList,
    []]

/-- The lines of `_render_lr1121_image_header`, which it joins with newlines. -/
def renderLr1121ImageHeader (image : FirmwareImage) (arrayName wordsName versionName : String) :
    List (List Char) :=
  headerStart ++ [arrayOpening arrayName] ++
  bodyLines (imageWords image.data) ++
  ["\x7d;".toList,
    ("inline constexpr size_t " ++ wordsName ++ " = " ++
      toString (imageWords image.data).length ++ ";").toList,
    ("inline constexpr uint16_t " ++ versionName ++ " = 0x").toList ++
      paddedHex 4 image.version ++ [';'],
    [],
    "\x7d  // namespace home_io_control".toList,
    "\x7d  // namespace esphome".toList,
    []]

/-- The initialisers of an array: what stands between the commas, without blanks. -/
def initialisers : List Char → List Char → List (List Char)
  | item, [] => if item = [] then [] else [item]
  | item, ch :: rest =>
    if ch = ',' then item :: initialisers [] rest
    else if ch = ' ' ∨ ch = '\n' then initialisers item rest
    else initialisers (item ++ [ch]) rest

/-- The value of a hexadecimal literal. -/
def literalValue (literal : List Char) : ℕ :=
  (literal.drop 2).foldl (fun n ch => 16 * n + (hexNibble ch).getD 0) 0

/-- The array that the compiler reads from a header. -/
def compiledArray (arrayName : String) (header : List (List Char)) : List UInt32 :=
  let body := (header.dropWhile (· ≠ arrayOpening arrayName)).tail.takeWhile (· ≠ "\x7d;".toList)
  (initialisers [] (body.flatMap fun line => line ++ ['\n'])).map fun literal =>
    UInt32.ofNat (literalValue literal)

/-- A character that belongs to an initialiser. -/
def InLiteral (ch : Char) : Prop := ch ≠ ',' ∧ ch ≠ ' ' ∧ ch ≠ '\n'

theorem initialisers_item {item : List Char} (hitem : ∀ ch ∈ item, InLiteral ch)
    (before rest : List Char) :
    initialisers before (item ++ rest) = initialisers (before ++ item) rest := by
  induction item generalizing before with
  | nil => rw [List.nil_append, List.append_nil]
  | cons ch item ih =>
    obtain ⟨hcomma, hspace, hnewline⟩ := hitem ch List.mem_cons_self
    rw [List.cons_append, initialisers, if_neg hcomma, if_neg (not_or.mpr ⟨hspace, hnewline⟩),
      ih fun ch hch => hitem ch (List.mem_cons_of_mem _ hch), List.append_assoc,
      List.singleton_append]

/-- The items of one line, each with its comma, and then what follows the line. -/
theorem initialisers_line {items : List (List Char)} (hitems : ∀ item ∈ items, ∀ ch ∈ item,
    InLiteral ch) (hne : items ≠ []) (rest : List Char) :
    initialisers [] ([',', ' '].intercalate items ++ ',' :: rest) =
      items ++ initialisers [] rest := by
  induction items with
  | nil => exact absurd rfl hne
  | cons item items ih =>
    have hitem := initialisers_item (hitems item List.mem_cons_self) []
    cases items with
    | nil =>
      rw [List.intercalate_singleton, hitem, List.nil_append, initialisers, if_pos rfl,
        List.singleton_append]
    | cons next items =>
      have ih := ih (fun i hi => hitems i (List.mem_cons_of_mem _ hi)) (List.cons_ne_nil _ _)
      rw [List.intercalate_cons_cons, List.append_assoc, List.append_assoc, hitem,
        List.nil_append, List.cons_append, initialisers, if_pos rfl, List.cons_append,
        List.nil_append, initialisers, if_neg (by decide), if_pos (Or.inl rfl), ih]
      rfl

/-- One of the `body_lines`. -/
theorem initialisers_bodyLine {items : List (List Char)} (hitems : ∀ item ∈ items, ∀ ch ∈ item,
    InLiteral ch) (hne : items ≠ []) (rest : List Char) :
    initialisers [] (("    ".toList ++ [',', ' '].intercalate items ++ [',']) ++ ['\n'] ++ rest) =
      items ++ initialisers [] rest := by
  have hindent (rest : List Char) :
      initialisers [] ("    ".toList ++ rest) = initialisers [] rest := by
    simp [initialisers]
  have hnewline : initialisers [] ('\n' :: rest) = initialisers [] rest := by
    rw [initialisers, if_neg (by decide), if_pos (Or.inr rfl)]
  rw [List.append_assoc, List.append_assoc, List.append_assoc, hindent, List.singleton_append,
    List.singleton_append, initialisers_line hitems hne, hnewline]

theorem initialisers_bodyLines {words : List (List Char)} (hwords : ∀ word ∈ words, ∀ ch ∈ word,
    InLiteral ch) :
    initialisers [] ((bodyLines words).flatMap fun line => line ++ ['\n']) = words := by
  rw [bodyLines, List.flatMap_map]
  induction words using slices_induction (n := 8) (by decide) with
  | nil =>
    rw [slices_nil (by decide)]
    rfl
  | slice words hne ih =>
    have htake_ne : words.take 8 ≠ [] := by
      intro h
      rcases List.take_eq_nil_iff.mp h with h | h
      · exact absurd h (by decide)
      · exact hne h
    rw [slices_of_ne_nil (by decide) hne, List.flatMap_cons,
      initialisers_bodyLine (fun word h => hwords word (List.mem_of_mem_take h)) htake_ne,
      ih fun word h => hwords word (List.mem_of_mem_drop h), List.take_append_drop]

theorem foldl_paddedHex (digits n before : ℕ) :
    (paddedHex digits n).foldl (fun v ch => 16 * v + (hexNibble ch).getD 0) before =
      16 ^ digits * before + n % 16 ^ digits := by
  induction digits generalizing before with
  | zero => simp [paddedHex, Nat.mod_one]
  | succ digits ih =>
    have hdigit : (hexNibble (hexDigit (n / 16 ^ digits % 16))).getD 0 =
        n / 16 ^ digits % 16 := by
      rw [hexNibble_hexDigit (Nat.mod_lt _ (by decide))]
      rfl
    have hsplit : n % 16 ^ (digits + 1) =
        16 ^ digits * (n / 16 ^ digits % 16) + n % 16 ^ digits := by
      rw [Nat.pow_succ, Nat.mod_mul]
      exact Nat.add_comm _ _
    have hcons : paddedHex (digits + 1) n =
        hexDigit (n / 16 ^ digits % 16) :: paddedHex digits n := by
      simp [paddedHex, List.range_succ]
    rw [hcons, List.foldl_cons, hdigit, ih, hsplit, Nat.mul_add, Nat.add_assoc, Nat.pow_succ,
      Nat.mul_assoc]

theorem literalValue_wordLiteral {word : ℕ} (h : word < 4294967296) :
    literalValue (wordLiteral word) = word := by
  have hdigits : literalValue (wordLiteral word) =
      (paddedHex 8 word).foldl (fun v ch => 16 * v + (hexNibble ch).getD 0) 0 := rfl
  rw [hdigits, foldl_paddedHex, Nat.mul_zero, Nat.zero_add]
  exact Nat.mod_eq_of_lt h

theorem inLiteral_hexDigit {n : ℕ} (h : n < 16) : InLiteral (hexDigit n) := by
  unfold InLiteral
  revert n
  decide

theorem inLiteral_wordLiteral {word : ℕ} {ch : Char} (h : ch ∈ wordLiteral word) :
    InLiteral ch := by
  rw [wordLiteral, List.mem_cons, List.mem_cons, paddedHex, List.mem_map] at h
  rcases h with rfl | rfl | ⟨i, -, rfl⟩
  · exact ⟨by decide, by decide, by decide⟩
  · exact ⟨by decide, by decide, by decide⟩
  · exact inLiteral_hexDigit (Nat.mod_lt _ (by decide))

theorem intFromBytes_lt {chunk : List UInt8} (h : chunk.length = 4) :
    intFromBytes chunk < 4294967296 := by
  obtain ⟨b0, b1, b2, b3, rfl⟩ := List.length_eq_four.mp h
  have h0 := b0.toNat_lt
  have h1 := b1.toNat_lt
  have h2 := b2.toNat_lt
  have h3 := b3.toNat_lt
  simp only [intFromBytes, List.foldl_cons, List.foldl_nil]
  omega

/-- Packed into a word and unpacked again, four bytes are the same. -/
theorem wordBytes_intFromBytes {chunk : List UInt8} (h : chunk.length = 4) :
    wordBytes (UInt32.ofNat (intFromBytes chunk)) = chunk := by
  have hlt := intFromBytes_lt h
  obtain ⟨b0, b1, b2, b3, rfl⟩ := List.length_eq_four.mp h
  have h0 := b0.toNat_lt
  have h1 := b1.toNat_lt
  have h2 := b2.toNat_lt
  have h3 := b3.toNat_lt
  simp only [intFromBytes, List.foldl_cons, List.foldl_nil] at hlt ⊢
  generalize hn : 256 * (256 * (256 * (256 * 0 + b0.toNat) + b1.toNat) + b2.toNat) + b3.toNat = n
    at hlt ⊢
  have hnat : (UInt32.ofNat n).toNat = n := UInt32.toNat_ofNat_of_lt' hlt
  have hbyte (shift : UInt32) (b : UInt8) (hshift : n / 2 ^ (shift.toNat % 32) % 256 = b.toNat) :
      (UInt32.ofNat n >>> shift).toUInt8 = b := by
    apply UInt8.toNat_inj.mp
    rw [UInt32.toNat_toUInt8, UInt32.toNat_shiftRight, hnat, Nat.shiftRight_eq_div_pow, hshift]
  have hlast : (UInt32.ofNat n).toUInt8 = b3 := by
    apply UInt8.toNat_inj.mp
    rw [UInt32.toNat_toUInt8, hnat]
    omega
  rw [wordBytes, hlast, hbyte 24 b0, hbyte 16 b1, hbyte 8 b2]
  · show n / 256 % 256 = b2.toNat
    omega
  · show n / 65536 % 256 = b1.toNat
    omega
  · show n / 16777216 % 256 = b0.toNat
    omega

theorem wordBytes_words {data : List UInt8} (h : data.length % 4 = 0) :
    ((imageWords data).map fun literal => UInt32.ofNat (literalValue literal)).flatMap wordBytes =
      data := by
  have hchunk : ∀ chunk ∈ slices 4 data, wordBytes (UInt32.ofNat
      (literalValue (wordLiteral (intFromBytes chunk)))) = chunk := by
    intro chunk hmem
    have hlength := length_of_mem_slices (by decide) h hmem
    rw [literalValue_wordLiteral (intFromBytes_lt hlength), wordBytes_intFromBytes hlength]
  rw [imageWords, List.map_map, List.flatMap_map]
  calc (slices 4 data).flatMap (fun chunk => wordBytes (UInt32.ofNat
          (literalValue (wordLiteral (intFromBytes chunk)))))
      = (slices 4 data).flatMap id := List.flatMap_congr hchunk
    _ = data := by rw [List.flatMap_id, flatten_slices (by decide)]

theorem flatMap_wordBytes_eq_nil {words : List UInt32} :
    words.flatMap wordBytes = [] ↔ words = [] := by
  rw [← List.length_eq_zero_iff, wordBytes_length, ← List.length_eq_zero_iff]
  omega

theorem head_bodyLine {words : List (List Char)} {line : List Char} (h : line ∈ bodyLines words) :
    line.head? = some ' ' := by
  obtain ⟨items, -, rfl⟩ := List.mem_map.mp h
  rfl

theorem compiledArray_rendered (image : FirmwareImage) (arrayName wordsName versionName : String) :
    compiledArray arrayName (renderLr1121ImageHeader image arrayName wordsName versionName) =
      (imageWords image.data).map fun literal => UInt32.ofNat (literalValue literal) := by
  have hbefore : ∀ line ∈ headerStart, decide (line ≠ arrayOpening arrayName) = true := by
    intro line hline
    apply decide_eq_true
    rintro rfl
    have hhead : (arrayOpening arrayName).head? = some 'i' := by simp [arrayOpening]
    have hstart : ∀ line ∈ headerStart, line.head? ≠ some 'i' := by decide
    exact hstart _ hline hhead
  have hbody : ∀ line ∈ bodyLines (imageWords image.data),
      decide (line ≠ "\x7d;".toList) = true := by
    intro line hline
    apply decide_eq_true
    rintro rfl
    exact absurd (head_bodyLine hline) (by decide)
  have hliteral : ∀ word ∈ imageWords image.data, ∀ ch ∈ word, InLiteral ch := by
    intro word hword ch hch
    obtain ⟨chunk, -, rfl⟩ := List.mem_map.mp hword
    exact inLiteral_wordLiteral hch
  rw [compiledArray, renderLr1121ImageHeader]
  simp only [List.append_assoc]
  rw [List.dropWhile_append_of_pos hbefore, List.singleton_append,
    List.dropWhile_cons_of_neg (by simp), List.tail_cons, List.takeWhile_append_of_pos hbody,
    List.takeWhile_cons_of_neg (by simp), List.append_nil,
    initialisers_bodyLines hliteral]

/-- The array in the firmware is the image that was fetched. -/
theorem compiledArray_bytes {image : FirmwareImage} {arrayName wordsName versionName : String}
    (h : image.data.length % 4 = 0) :
    (compiledArray arrayName (renderLr1121ImageHeader image arrayName wordsName
      versionName)).flatMap wordBytes = image.data := by
  rw [compiledArray_rendered, wordBytes_words h]

/-- What a write does: the commands clocked out, and the calls of `on_progress`. -/
inductive FlashEvent where
  | chip (event : ChipEvent)
  | progress (done total : ℕ)
  deriving DecidableEq, Repr

variable {σ : Type} (chip : Chip σ)

/-- The loop of `write_image` with its callback. -/
def writeChunksReporting (total : ℕ) : ℕ → ℕ → List UInt32 → Prog σ FlashEvent Bool
  | 0, _, _ => pure true
  | _ + 1, _, [] => pure true
  | chunks + 1, written, word :: words => do
    let chunk := (word :: words).take updaterFlashChunkWords
    let sent ← Prog.relabel .chip (writeCommand chip updaterCmdWriteFlashEncrypted
      (writeParams written chunk) updaterBusyTimeoutMs)
    if sent = false then pure false
    else do
      tell (.progress (written + chunk.length) total)
      writeChunksReporting total chunks (written + chunk.length)
        ((word :: words).drop updaterFlashChunkWords)

/-- `write_image` with its callback. -/
def writeImageReporting (image : List UInt32) : Prog σ FlashEvent Bool :=
  writeChunksReporting chip image.length image.length 0 image

/-- The commands among the events. -/
def chipEvents (es : List FlashEvent) : List ChipEvent :=
  es.filterMap fun
    | .chip event => some event
    | .progress _ _ => none

/-- The data parts of the commands, in order. -/
def sentData (es : List FlashEvent) : List UInt8 :=
  es.flatMap fun
    | .chip (.command _ params) => params.drop 4
    | _ => []

/-- The counts that the callback is called with. -/
def progressCounts (es : List FlashEvent) : List ℕ :=
  es.filterMap fun
    | .chip _ => none
    | .progress done _ => some done

theorem writeCommand_apply (opcode : UInt16) (params : List UInt8) (timeout : UInt32)
    (w : World σ ChipEvent) :
    writeCommand chip opcode params timeout w =
      if (chip.waitBusy timeout w.env).1 = false then
        (false, ⟨(chip.waitBusy timeout w.env).2, w.log⟩)
      else (true, ⟨(chip.waitBusy timeout w.env).2, w.log ++ [.command opcode params]⟩) := by
  show (if (chip.waitBusy timeout w.env).1 = false then (pure false : ChipProg σ Bool)
    else do tell (.command opcode params); pure true) _ = _
  split
  · rfl
  · rfl

/-- Without its callback, `write_image` is the same. -/
theorem writeChunksReporting_silent (total chunks written : ℕ) (words : List UInt32)
    (w : World σ FlashEvent) :
    writeChunks chip chunks written words ⟨w.env, chipEvents w.log⟩ =
      ((writeChunksReporting chip total chunks written words w).1,
        ⟨(writeChunksReporting chip total chunks written words w).2.env,
          chipEvents (writeChunksReporting chip total chunks written words w).2.log⟩) := by
  induction chunks generalizing written words w with
  | zero => rfl
  | succ chunks ih =>
    cases words with
    | nil => rfl
    | cons word words =>
      rw [writeChunks, writeChunksReporting]
      simp only [bind_apply, Prog.relabel, writeCommand_apply]
      by_cases hready : (chip.waitBusy updaterBusyTimeoutMs w.env).1 = false
      · simp only [if_pos hready, if_true, List.map_nil, List.append_nil]
        rfl
      · simp only [if_neg hready, Bool.true_eq_false, if_false, bind_apply]
        rw [← ih]
        simp [TracedPrograms.tell, chipEvents]

theorem writeImageReporting_silent (image : List UInt32) (w : World σ FlashEvent) :
    writeImage chip image ⟨w.env, chipEvents w.log⟩ =
      ((writeImageReporting chip image w).1,
        ⟨(writeImageReporting chip image w).2.env,
          chipEvents (writeImageReporting chip image w).2.log⟩) :=
  writeChunksReporting_silent chip image.length image.length 0 image w

/-- The events of a write from some word on, and whether BUSY let it finish. -/
inductive WriteTrace (total : ℕ) : ℕ → List UInt32 → Bool → List FlashEvent → Prop
  | finished (written : ℕ) : WriteTrace total written [] true []
  | busy (written : ℕ) {words : List UInt32} (h : words ≠ []) :
      WriteTrace total written words false []
  | chunk {written : ℕ} {words : List UInt32} {ok : Bool} {es : List FlashEvent} (h : words ≠ [])
      (rest : WriteTrace total (written + (words.take updaterFlashChunkWords).length)
        (words.drop updaterFlashChunkWords) ok es) :
      WriteTrace total written words ok
        (.chip (.command updaterCmdWriteFlashEncrypted
            (writeParams written (words.take updaterFlashChunkWords))) ::
          .progress (written + (words.take updaterFlashChunkWords).length) total :: es)

theorem writeCommand_traces (opcode : UInt16) (params : List UInt8) (timeout : UInt32) :
    Traces (writeCommand chip opcode params timeout) fun sent es =>
      es = if sent = false then [] else [.command opcode params] := by
  apply Traces.ask_bind
  intro ready
  apply Traces.ite
  · intro _
    exact Traces.pure (if_pos rfl).symm
  · intro _
    exact Traces.tell_bind (Traces.pure rfl)

theorem writeChunksReporting_traces (total chunks written : ℕ) (words : List UInt32)
    (h : words.length ≤ chunks) :
    Traces (writeChunksReporting chip total chunks written words)
      (WriteTrace total written words) := by
  induction chunks generalizing written words with
  | zero =>
    obtain rfl : words = [] := List.length_eq_zero_iff.mp (by omega)
    exact Traces.pure (.finished _)
  | succ chunks ih =>
    cases words with
    | nil => exact Traces.pure (.finished _)
    | cons word words =>
      have hne : word :: words ≠ [] := List.cons_ne_nil _ _
      rw [writeChunksReporting]
      refine Traces.bind ((writeCommand_traces chip _ _ _).relabel FlashEvent.chip) ?_
      rintro sent _ ⟨_, rfl, rfl⟩
      apply Traces.ite
      · rintro rfl
        exact Traces.pure (.busy _ hne)
      · intro hsent
        rw [if_neg hsent]
        apply Traces.tell_bind
        have hrest : ((word :: words).drop updaterFlashChunkWords).length ≤ chunks := by
          have hpos : 0 < updaterFlashChunkWords := by decide
          rw [List.length_drop]
          omega
        exact (ih _ _ hrest).weaken fun ok es => .chunk hne

namespace WriteTrace

variable {total written : ℕ} {words : List UInt32} {ok : Bool} {es : List FlashEvent}

/-- What was sent, and what was not sent because BUSY stayed high. -/
theorem sent (h : WriteTrace total written words ok es) :
    ∃ rest : List UInt32, sentData es ++ rest.flatMap wordBytes = words.flatMap wordBytes ∧
      (ok = true ↔ rest = []) := by
  induction h with
  | finished => exact ⟨[], rfl, by simp⟩
  | busy _ hne => exact ⟨_, rfl, by simp [hne]⟩
  | @chunk written words ok es hne _ ih =>
    obtain ⟨rest, hsent, hok⟩ := ih
    refine ⟨rest, ?_, hok⟩
    calc (words.take updaterFlashChunkWords).flatMap wordBytes ++ sentData es ++
            rest.flatMap wordBytes
        = (words.take updaterFlashChunkWords).flatMap wordBytes ++
            (words.drop updaterFlashChunkWords).flatMap wordBytes := by
          rw [List.append_assoc, hsent]
      _ = words.flatMap wordBytes := by rw [← List.flatMap_append, List.take_append_drop]

/-- A command of a write after so many words: the offset of what was sent before, and a chunk. -/
def CommandAt (written : ℕ) (before : List FlashEvent) : FlashEvent → Prop
  | .chip event => ∃ chunk : List UInt32, chunk.length ≤ updaterFlashChunkWords ∧
      event = .command updaterCmdWriteFlashEncrypted
        (wordBytes (UInt32.ofNat (written * 4 + (sentData before).length)) ++
          chunk.flatMap wordBytes)
  | .progress _ _ => True

theorem commands (h : WriteTrace total written words ok es) :
    AtEach (fun before e _ => CommandAt written before e) es := by
  induction h with
  | finished => exact AtEach.nil
  | busy => exact AtEach.nil
  | @chunk written words ok es _ _ ih =>
    refine AtEach.cons ⟨words.take updaterFlashChunkWords, ?_, rfl⟩ (AtEach.cons trivial ?_)
    · rw [List.length_take]
      exact Nat.min_le_left _ _
    · refine AtEach.imp ih ?_
      rintro before (event | ⟨done, total⟩) - hcommand
      · obtain ⟨chunk, hchunk, rfl⟩ := hcommand
        refine ⟨chunk, hchunk, ?_⟩
        have hsent : (sentData (.chip (.command updaterCmdWriteFlashEncrypted
            (writeParams written (words.take updaterFlashChunkWords))) ::
              .progress (written + (words.take updaterFlashChunkWords).length) total ::
                before)).length =
            (words.take updaterFlashChunkWords).length * 4 + (sentData before).length := by
          rw [← wordBytes_length, ← List.length_append]
          rfl
        rw [hsent, Nat.add_mul, Nat.add_assoc]
      · trivial

/-- The callback counts up, from what was written before. -/
theorem increasing (h : WriteTrace total written words ok es) :
    (written :: progressCounts es).Pairwise (· < ·) := by
  induction h with
  | finished => exact List.pairwise_singleton _ _
  | busy => exact List.pairwise_singleton _ _
  | @chunk written words ok es hne _ ih =>
    have hpos : 0 < (words.take updaterFlashChunkWords).length := by
      have hwords : 0 < words.length := List.length_pos_iff.mpr hne
      have hchunk : 0 < updaterFlashChunkWords := by decide
      rw [List.length_take]
      omega
    have hcounts : ∀ count ∈ (written + (words.take updaterFlashChunkWords).length) ::
        progressCounts es, written < count := by
      intro count hcount
      rcases List.mem_cons.mp hcount with rfl | hcount
      · omega
      · have hlt := List.rel_of_pairwise_cons ih hcount
        omega
    exact List.pairwise_cons.mpr ⟨hcounts, ih⟩

/-- Every call names the size of the image. -/
theorem totals (h : WriteTrace total written words ok es) {done total' : ℕ}
    (hmem : .progress done total' ∈ es) : total' = total := by
  induction h with
  | finished => exact absurd hmem List.not_mem_nil
  | busy => exact absurd hmem List.not_mem_nil
  | chunk _ _ ih =>
    rcases List.mem_cons.mp hmem with hcommand | hmem
    · cases hcommand
    · rcases List.mem_cons.mp hmem with hprogress | hmem
      · cases hprogress
        rfl
      · exact ih hmem

/-- The last count is what the write would reach exactly when it reached it. -/
theorem last (h : WriteTrace total written words ok es) :
    ok = true ↔ (written :: progressCounts es).getLast? = some (written + words.length) := by
  induction h with
  | finished => simp [progressCounts]
  | busy _ hne => simp [progressCounts, hne]
  | @chunk written words ok es _ _ ih =>
    have hlength : written + (words.take updaterFlashChunkWords).length +
        (words.drop updaterFlashChunkWords).length = written + words.length := by
      rw [Nat.add_assoc, ← List.length_append, List.take_append_drop]
    rw [hlength] at ih
    exact ih

/-- A write that finishes has a last chunk, with all but that chunk sent before it. -/
theorem last_chunk (h : WriteTrace total written words true es) (hne : words ≠ []) :
    ∃ before params after, es = before ++ .chip (.command updaterCmdWriteFlashEncrypted params) ::
      after ∧ words.length * 4 ≤ (sentData before).length + 256 := by
  generalize htrue : true = finished at h
  induction h with
  | finished => exact absurd rfl hne
  | busy => cases htrue
  | @chunk written words ok es _ rest ih =>
    by_cases hrest : words.drop updaterFlashChunkWords = []
    · refine ⟨[], _, _, rfl, ?_⟩
      have hshort : words.length ≤ 64 := List.drop_eq_nil_iff.mp hrest
      have hnone : (sentData []).length = 0 := rfl
      omega
    · obtain ⟨before, params, after, rfl, hlength⟩ := ih hrest htrue
      refine ⟨.chip (.command updaterCmdWriteFlashEncrypted
          (writeParams written (words.take updaterFlashChunkWords))) ::
        .progress (written + (words.take updaterFlashChunkWords).length) total :: before,
        params, after, rfl, ?_⟩
      have hsent : sentData (.chip (.command updaterCmdWriteFlashEncrypted
          (writeParams written (words.take updaterFlashChunkWords))) ::
            .progress (written + (words.take updaterFlashChunkWords).length) total ::
              before) =
          (words.take updaterFlashChunkWords).flatMap wordBytes ++ sentData before := rfl
      have hsplit : (words.take updaterFlashChunkWords).length +
          (words.drop updaterFlashChunkWords).length = words.length := by
        rw [← List.length_append, List.take_append_drop]
      rw [hsent, List.length_append, wordBytes_length]
      omega

end WriteTrace

/-- What the chip and the callback see of an image. -/
structure Delivered (data : List UInt8) (ok : Bool) (es : List FlashEvent) : Prop where
  sent : sentData es <+: data
  whole : ok = true ↔ sentData es = data
  /-- Nothing but write commands, each with the offset of what was sent before it, in four bytes. -/
  commands : AtEach (fun before e _ => ∀ event, e = .chip event →
    ∃ (offset : UInt32) (words : List UInt32), words.length ≤ 64 ∧
      event = .command updaterCmdWriteFlashEncrypted
        (wordBytes offset ++ words.flatMap wordBytes) ∧
      offset.toNat = (sentData before).length % 4294967296) es
  increasing : (progressCounts es).Pairwise (· < ·)
  totals : ∀ done total, .progress done total ∈ es → total * 4 = data.length
  last : ok = true ↔ (progressCounts es).getLast? = some (data.length / 4)

/-- The array that a header is compiled to, written to the chip. -/
def flashRendered (image : FirmwareImage) (arrayName wordsName versionName : String) :
    Prog σ FlashEvent Bool :=
  writeImageReporting chip
    (compiledArray arrayName (renderLr1121ImageHeader image arrayName wordsName versionName))

theorem flashRendered_traces (image : FirmwareImage) (arrayName wordsName versionName : String)
    (h : image.data.length % 4 = 0) :
    ∃ words : List UInt32, words.flatMap wordBytes = image.data ∧
      words.length * 4 = image.data.length ∧
      Traces (flashRendered chip image arrayName wordsName versionName)
        (WriteTrace words.length 0 words) := by
  have hbytes : (compiledArray arrayName (renderLr1121ImageHeader image arrayName wordsName
      versionName)).flatMap wordBytes = image.data := compiledArray_bytes h
  refine ⟨_, hbytes, ?_, writeChunksReporting_traces chip _ _ 0 _ le_rfl⟩
  rw [← wordBytes_length, hbytes]

/-- However BUSY behaves, the chip gets the image from its start, and all of it when
`write_image` succeeds. -/
theorem rendered_image_delivered (image : FirmwareImage)
    (arrayName wordsName versionName : String)
    (h : validateImage image.data image.url = .ok ()) :
    Traces (flashRendered chip image arrayName wordsName versionName)
      (Delivered image.data) := by
  obtain ⟨hne, hmod⟩ := validateImage_ok h
  obtain ⟨words, hbytes, hlength, htraces⟩ :=
    flashRendered_traces chip image arrayName wordsName versionName hmod
  apply htraces.weaken
  intro ok es htrace
  obtain ⟨rest, hsent, hok⟩ := htrace.sent
  rw [hbytes] at hsent
  constructor
  · exact ⟨_, hsent⟩
  · rw [hok, ← hsent, List.self_eq_append_right, flatMap_wordBytes_eq_nil]
  · refine AtEach.imp htrace.commands ?_
    rintro before _ - hcommand event rfl
    obtain ⟨chunk, hchunk, rfl⟩ := hcommand
    rw [Nat.zero_mul, Nat.zero_add]
    exact ⟨_, chunk, hchunk, rfl, UInt32.toNat_ofNat⟩
  · exact (List.pairwise_cons.mp htrace.increasing).2
  · intro done total hmem
    rw [htrace.totals hmem, hlength]
  · have hwords_ne : words ≠ [] := by
      rintro rfl
      exact hne hlength.symm
    have hpos : 0 < words.length := List.length_pos_iff.mpr hwords_ne
    rw [htrace.last, List.getLast?_cons, ← hlength, Nat.mul_div_cancel _ (by decide)]
    cases (progressCounts es).getLast? with
    | none => simp; omega
    | some count => simp

/-- A chip whose BUSY line always falls in time, or never does. -/
def steadyChip (ready : Bool) : Chip Unit := ⟨fun _ s => (ready, s), fun s => (0, s)⟩

/-- An image of 70 words, which take a whole chunk and a short one. -/
def twoChunkImage : FirmwareImage :=
  ⟨(List.range 280).map UInt8.ofNat, 0x0104, "lr1121_transceiver_0104.bin"⟩

theorem two_chunk_image_delivered :
    validateImage twoChunkImage.data twoChunkImage.url = .ok () ∧
      Traces (flashRendered (steadyChip true) twoChunkImage "IMAGE" "IMAGE_WORDS" "VERSION")
        (Delivered twoChunkImage.data) :=
  ⟨by decide +kernel,
    rendered_image_delivered (steadyChip true) twoChunkImage _ _ _ (by decide +kernel)⟩

/-- An image of one word. -/
def shortImage : FirmwareImage := ⟨[0xDE, 0xAD, 0xBE, 0xEF], 0x0104, "lr1121_transceiver_0104.bin"⟩

theorem writeChunksReporting_ready (total chunks written : ℕ) (words : List UInt32)
    (w : World Unit FlashEvent) :
    (writeChunksReporting (steadyChip true) total chunks written words w).1 = true := by
  induction chunks generalizing written words w with
  | zero => rfl
  | succ chunks ih =>
    cases words with
    | nil => rfl
    | cons word words => exact ih _ _ _

/-- An image of more than 4 GiB. -/
def hugeImage : FirmwareImage :=
  ⟨List.replicate 4294967552 0, 0x0104, "lr1121_transceiver_0104.bin"⟩

/-- A write that BUSY ends early does not count up to the total, and an offset does not hold more
than four bytes. -/
theorem interrupted_and_wrapped :
    (validateImage shortImage.data shortImage.url = .ok () ∧
      (progressCounts (flashRendered (steadyChip false) shortImage "IMAGE" "IMAGE_WORDS" "VERSION"
        ⟨(), []⟩).2.log).getLast? ≠ some (shortImage.data.length / 4)) ∧
    validateImage hugeImage.data hugeImage.url = .ok () ∧
      ¬ AtEach (fun before e _ => ∀ opcode params, e = .chip (.command opcode params) →
        intFromBytes (params.take 4) = (sentData before).length)
        (flashRendered (steadyChip true) hugeImage "IMAGE" "IMAGE_WORDS" "VERSION"
          ⟨(), []⟩).2.log := by
  refine ⟨⟨by decide, by decide⟩, ?_, ?_⟩
  · rw [validateImage, hugeImage, List.length_replicate, if_neg (by decide), if_neg (by decide),
      if_neg (by decide)]
  · intro hexact
    obtain ⟨words, -, hlength, htraces⟩ := flashRendered_traces (steadyChip true) hugeImage
      "IMAGE" "IMAGE_WORDS" "VERSION" (by rw [hugeImage, List.length_replicate])
    obtain ⟨es, hlog, htrace⟩ := htraces ⟨(), []⟩
    have hready : (flashRendered (steadyChip true) hugeImage "IMAGE" "IMAGE_WORDS" "VERSION"
        ⟨(), []⟩).1 = true := writeChunksReporting_ready _ _ _ _ _
    rw [hready] at htrace
    have hhuge : words.length * 4 = 4294967552 := by
      rw [hlength, hugeImage, List.length_replicate]
    have hne : words ≠ [] := by
      rintro rfl
      exact absurd hhuge (by decide)
    obtain ⟨before, params, after, rfl, hsent⟩ := htrace.last_chunk hne
    obtain ⟨chunk, -, hcommand⟩ := htrace.commands _ _ _ rfl
    injection hcommand with _ hparams
    have hoffset := hexact before _ after hlog _ _ rfl
    have htake : params.take 4 = wordBytes (UInt32.ofNat (0 * 4 + (sentData before).length)) := by
      rw [hparams]
      rfl
    have hlt : intFromBytes (params.take 4) < 4294967296 :=
      intFromBytes_lt (by rw [htake]; rfl)
    omega

end HomeIoControl.FlashImages
