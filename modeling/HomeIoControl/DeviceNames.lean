import HomeIoControl.ProtocolCodecs

/-!
# Writing device names

A name given by the user is trimmed, read as UTF-8 and written as Latin-1 into a payload of fixed
size. What is accepted, what is stored, and when a device reports back the name it was given.
-/

namespace HomeIoControl.DeviceNames

open ProtocolFrames ProtocolCodecs

def deviceNameWriteCharLimit : ℕ := 15
def deviceNameWritePayloadSize : ℕ := deviceNameWriteCharLimit + 1
def latin1CodepointMax : UInt16 := 0x00FF
def asciiMax : UInt8 := 0x7F

inductive DeviceNameValidationError where
  | none
  | empty
  | tooLong
  | invalidUtf8
  | unsupportedChar
  deriving DecidableEq, Repr

/-- `std::isspace` in the C locale. -/
def isSpace (byte : UInt8) : Bool := byte = 0x20 ∨ 0x09 ≤ byte ∧ byte ≤ 0x0D

def trimAsciiWhitespace (value : List UInt8) : List UInt8 :=
  (value.dropWhile isSpace).rdropWhile isSpace

/-- The code point of a two-byte sequence. -/
def twoByteCodepoint (byte continuation : UInt8) : UInt16 :=
  (byte.toUInt16 &&& 0x1F) <<< 6 ||| (continuation.toUInt16 &&& 0x3F)

/-- The loop of `encode_device_name_payload`: the bytes of the payload written before it ends. -/
def encodeLoop (written : List UInt8) :
    List UInt8 → DeviceNameValidationError × List UInt8
  | [] => (.none, written)
  | byte :: rest =>
    if byte ≤ asciiMax then
      if written.length ≥ deviceNameWriteCharLimit then (.tooLong, written)
      else encodeLoop (written ++ [byte]) rest
    else if byte &&& 0xE0 = 0xC0 then
      match rest with
      | [] => (.invalidUtf8, written)
      | continuation :: rest =>
        let codepoint := twoByteCodepoint byte continuation
        if continuation &&& 0xC0 ≠ 0x80 then (.invalidUtf8, written)
        else if codepoint < 0x80 then (.invalidUtf8, written)
        else if codepoint > latin1CodepointMax then (.unsupportedChar, written)
        else if written.length ≥ deviceNameWriteCharLimit then (.tooLong, written)
        else encodeLoop (written ++ [codepoint.toUInt8]) rest
    else if byte &&& 0xF0 = 0xE0 ∨ byte &&& 0xF8 = 0xF0 then (.unsupportedChar, written)
    else (.invalidUtf8, written)

/-- What `encode_device_name_payload` returns and writes. -/
structure EncodedName where
  error : DeviceNameValidationError
  payload : List UInt8
  normalizedName : List UInt8
  deriving DecidableEq, Repr

/-- A payload that begins with some bytes and is zero behind them. -/
def zeroPadded (written : List UInt8) : List UInt8 :=
  written ++ List.replicate (deviceNameWritePayloadSize - written.length) 0

/-- `encode_device_name_payload`. -/
def encodeDeviceNamePayload (name : List UInt8) : EncodedName :=
  let trimmedName := trimAsciiWhitespace name
  if trimmedName = [] then ⟨.empty, zeroPadded [], []⟩
  else
    match encodeLoop [] trimmedName with
    | (.none, written) => ⟨.none, zeroPadded written, latin1ToUtf8 [] written⟩
    | (error, written) => ⟨error, zeroPadded written, []⟩

theorem dropWhile_head {p : UInt8 → Bool} {value : List UInt8} {byte : UInt8}
    (h : byte ∈ (value.dropWhile p).head?) : ¬ p byte := by
  obtain ⟨rest, hrest⟩ := List.head?_eq_some_iff.mp h
  have hne : value.dropWhile p ≠ [] := by simp [hrest]
  have hhead := List.head_dropWhile_not p hne
  simpa only [hrest, List.head_cons, Bool.not_eq_true] using hhead

/-- Trimming takes white space off both ends, and as much as there is. -/
theorem trimAsciiWhitespace_spec (value : List UInt8) :
    (∃ before after, value = before ++ trimAsciiWhitespace value ++ after ∧
        (∀ byte ∈ before, isSpace byte) ∧ ∀ byte ∈ after, isSpace byte) ∧
      (∀ byte ∈ (trimAsciiWhitespace value).head?, ¬ isSpace byte) ∧
      ∀ byte ∈ (trimAsciiWhitespace value).getLast?, ¬ isSpace byte := by
  refine ⟨⟨value.takeWhile isSpace, (value.dropWhile isSpace).rtakeWhile isSpace, ?_, ?_, ?_⟩,
    ?_, ?_⟩
  · rw [trimAsciiWhitespace, List.append_assoc, List.rdropWhile_append_rtakeWhile,
      List.takeWhile_append_dropWhile]
  · exact fun byte hbyte => List.mem_takeWhile_imp hbyte
  · exact fun byte hbyte => List.mem_rtakeWhile_imp hbyte
  · intro byte hbyte
    -- what is left of the middle begins as the middle does
    obtain ⟨after, hafter⟩ := List.rdropWhile_prefix isSpace (l := value.dropWhile isSpace)
    refine @dropWhile_head isSpace value byte ?_
    rw [← hafter, List.head?_append]
    simp only [trimAsciiWhitespace] at hbyte
    simp [Option.mem_def.mp hbyte]
  · intro byte hbyte
    obtain ⟨hne, rfl⟩ := List.mem_getLast?_eq_getLast hbyte
    exact List.rdropWhile_last_not _ _ hne

/-- The UTF-8 bytes of a text of Latin-1 characters. -/
def utf8 (text : List UInt8) : List UInt8 := text.flatMap latin1CharToUtf8

@[simp] theorem utf8_nil : utf8 [] = [] := rfl

@[simp] theorem utf8_cons (byte : UInt8) (text : List UInt8) :
    utf8 (byte :: text) = latin1CharToUtf8 byte ++ utf8 text := rfl

/-- A text that a payload has room for fits the name buffer. -/
theorem latin1ToUtf8_eq (result text : List UInt8)
    (h : result.length + 2 * text.length < deviceNameBufferSize) :
    latin1ToUtf8 result text = result ++ utf8 text := by
  induction text generalizing result with
  | nil => simp [latin1ToUtf8]
  | cons byte text ih =>
    have hchar : (latin1CharToUtf8 byte).length ≤ 2 := by unfold latin1CharToUtf8; split <;> simp
    simp only [List.length_cons] at h
    rw [latin1ToUtf8, if_neg (by omega), ih _ (by simp; omega)]
    simp

/-- The masks of the decoder, read as numbers. -/
theorem masks_toNat : ∀ b : UInt8,
    (b &&& 0xE0 = 0xC0 ↔ b.toNat / 32 = 6) ∧ (b &&& 0xC0 = 0x80 ↔ b.toNat / 64 = 2) ∧
      ((b >>> 6) ||| 0xC0).toNat = 192 + b.toNat / 64 % 4 ∧
      ((b &&& 0x3F) ||| 0x80).toNat = 128 + b.toNat % 64 :=
  forall_byte (by set_option maxRecDepth 4000 in decide)

theorem twoByteCodepoint_toNat (byte continuation : UInt8) :
    (twoByteCodepoint byte continuation).toNat =
      64 * (byte.toNat % 32) + continuation.toNat % 64 := by
  have hlow : continuation.toNat % 64 < 2 ^ 6 := Nat.mod_lt _ (by decide)
  have hor := Nat.two_pow_add_eq_or_of_lt hlow (byte.toNat % 32)
  have h31 : byte.toNat &&& 31 = byte.toNat % 32 := Nat.and_two_pow_sub_one_eq_mod _ 5
  have h63 : continuation.toNat &&& 63 = continuation.toNat % 64 :=
    Nat.and_two_pow_sub_one_eq_mod _ 6
  have hshift : (byte.toNat % 32) <<< 6 % 2 ^ 16 = 2 ^ 6 * (byte.toNat % 32) := by
    rw [Nat.shiftLeft_eq]
    omega
  simp only [twoByteCodepoint, UInt16.toNat_or, UInt16.toNat_shiftLeft, UInt16.toNat_and,
    UInt8.toNat_toUInt16]
  change (byte.toNat &&& 31) <<< 6 % 2 ^ 16 ||| (continuation.toNat &&& 63) = _
  rw [h31, h63, hshift, ← hor]

theorem high_of_lead {byte : UInt8} (h : byte &&& 0xE0 = 0xC0) : ¬ byte ≤ asciiMax := by
  have hlead := (masks_toNat byte).1.mp h
  intro hle
  have hnat : byte.toNat ≤ 127 := UInt8.le_iff_toNat_le.mp hle
  omega

theorem encodeLoop_ascii {byte : UInt8} (h : byte ≤ asciiMax) (rest written : List UInt8) :
    encodeLoop written (byte :: rest) =
      if written.length ≥ deviceNameWriteCharLimit then (.tooLong, written)
      else encodeLoop (written ++ [byte]) rest := by
  rw [encodeLoop.eq_def]
  simp only [if_pos h]

theorem encodeLoop_two {byte : UInt8} (h : byte &&& 0xE0 = 0xC0)
    (continuation : UInt8) (rest written : List UInt8) :
    encodeLoop written (byte :: continuation :: rest) =
      if continuation &&& 0xC0 ≠ 0x80 then (.invalidUtf8, written)
      else if twoByteCodepoint byte continuation < 0x80 then (.invalidUtf8, written)
      else if twoByteCodepoint byte continuation > latin1CodepointMax then
        (.unsupportedChar, written)
      else if written.length ≥ deviceNameWriteCharLimit then (.tooLong, written)
      else encodeLoop (written ++ [(twoByteCodepoint byte continuation).toUInt8]) rest := by
  rw [encodeLoop.eq_def]
  simp only [if_neg (high_of_lead h), if_pos h]

theorem latin1CharToUtf8_ascii {byte : UInt8} (h : byte ≤ asciiMax) :
    latin1CharToUtf8 byte = [byte] := by
  have hnat : byte.toNat ≤ 127 := UInt8.le_iff_toNat_le.mp h
  rw [latin1CharToUtf8, if_pos (UInt8.lt_iff_toNat_lt.mpr (by simp; omega))]

/-- A character beyond ASCII is decoded from its two bytes. -/
theorem twoByte_encoded {byte : UInt8} (h : ¬ byte ≤ asciiMax) :
    ∃ lead continuation, latin1CharToUtf8 byte = [lead, continuation] ∧
      lead &&& 0xE0 = 0xC0 ∧ continuation &&& 0xC0 = 0x80 ∧
      (twoByteCodepoint lead continuation).toNat = byte.toNat := by
  have hnat : 128 ≤ byte.toNat := by
    by_contra hlt
    exact h (UInt8.le_iff_toNat_le.mpr (show byte.toNat ≤ 127 by omega))
  have hlt := byte.toNat_lt
  obtain ⟨-, -, hlead, hcontinuation⟩ := masks_toNat byte
  refine ⟨(byte >>> 6) ||| 0xC0, (byte &&& 0x3F) ||| 0x80, ?_, ?_, ?_, ?_⟩
  · rw [latin1CharToUtf8, if_neg fun hsmall => ?_]
    have := UInt8.lt_iff_toNat_lt.mp hsmall
    simp at this
    omega
  · rw [(masks_toNat _).1, hlead]
    omega
  · rw [(masks_toNat _).2.1, hcontinuation]
    omega
  · rw [twoByteCodepoint_toNat, hlead, hcontinuation]
    omega

/-- What the decoder takes for a character of two bytes is one. -/
theorem twoByte_decoded {lead continuation : UInt8} (hlead : lead &&& 0xE0 = 0xC0)
    (hcontinuation : continuation &&& 0xC0 = 0x80)
    (hlow : 128 ≤ (twoByteCodepoint lead continuation).toNat)
    (hhigh : (twoByteCodepoint lead continuation).toNat ≤ 255) :
    latin1CharToUtf8 (twoByteCodepoint lead continuation).toUInt8 = [lead, continuation] := by
  have hvalue := twoByteCodepoint_toNat lead continuation
  have hbyte : (twoByteCodepoint lead continuation).toUInt8.toNat =
      64 * (lead.toNat % 32) + continuation.toNat % 64 := by
    rw [UInt16.toNat_toUInt8, hvalue]
    omega
  rw [(masks_toNat lead).1] at hlead
  rw [(masks_toNat continuation).2.1] at hcontinuation
  obtain ⟨-, -, hfirst, hsecond⟩ := masks_toNat (twoByteCodepoint lead continuation).toUInt8
  rw [latin1CharToUtf8, if_neg fun hsmall => ?_]
  · congr 1
    · apply UInt8.toNat_inj.mp
      omega
    · congr 1
      apply UInt8.toNat_inj.mp
      omega
  · have := UInt8.lt_iff_toNat_lt.mp hsmall
    simp at this
    omega

/-- The loop on the bytes of one character. -/
theorem encodeLoop_char (byte : UInt8) (rest written : List UInt8) :
    encodeLoop written (latin1CharToUtf8 byte ++ rest) =
      if written.length ≥ deviceNameWriteCharLimit then (.tooLong, written)
      else encodeLoop (written ++ [byte]) rest := by
  by_cases hascii : byte ≤ asciiMax
  · rw [latin1CharToUtf8_ascii hascii]
    exact encodeLoop_ascii hascii rest written
  · obtain ⟨lead, continuation, hbytes, hlead, hcontinuation, hvalue⟩ := twoByte_encoded hascii
    have hlt := byte.toNat_lt
    have hnat : ¬ byte.toNat ≤ 127 := fun hle => hascii (UInt8.le_iff_toNat_le.mpr hle)
    rw [hbytes, List.cons_append, List.cons_append, List.nil_append, encodeLoop_two hlead,
      if_neg (not_not.mpr hcontinuation), if_neg, if_neg]
    · have hback : (twoByteCodepoint lead continuation).toUInt8 = byte := by
        apply UInt8.toNat_inj.mp
        rw [UInt16.toNat_toUInt8, hvalue]
        omega
      rw [hback]
    · rw [gt_iff_lt, UInt16.lt_iff_toNat_lt, hvalue]
      simp [latin1CodepointMax]
      omega
    · rw [UInt16.lt_iff_toNat_lt, hvalue]
      simp
      omega

theorem encodeLoop_utf8 (text written : List UInt8)
    (h : written.length + text.length ≤ deviceNameWriteCharLimit) :
    encodeLoop written (utf8 text) = (.none, written ++ text) := by
  induction text generalizing written with
  | nil => simp [encodeLoop]
  | cons byte text ih =>
    simp only [List.length_cons] at h
    rw [utf8_cons, encodeLoop_char, if_neg (by omega), ih _ (by simp; omega)]
    simp

/-- `bytes` are a text of Latin-1 characters, which `result` has behind `written`. -/
def WritesText (written bytes result : List UInt8) : Prop :=
  ∃ text, bytes = utf8 text ∧ result = written ++ text ∧
    (text ≠ [] → result.length ≤ deviceNameWriteCharLimit)

theorem WritesText.cons {byte : UInt8} {written rest result : List UInt8}
    (hroom : ¬ written.length ≥ deviceNameWriteCharLimit)
    (h : WritesText (written ++ [byte]) rest result) :
    WritesText written (latin1CharToUtf8 byte ++ rest) result := by
  obtain ⟨text, rfl, rfl, hlength⟩ := h
  refine ⟨byte :: text, rfl, by simp, fun _ => ?_⟩
  by_cases htext : text = []
  · subst htext
    simp
    omega
  · exact hlength htext

/-- Only the bytes of a text of Latin-1 characters get through the loop. -/
theorem writesText_of_encodeLoop {bytes written result : List UInt8}
    (h : encodeLoop written bytes = (.none, result)) : WritesText written bytes result := by
  fun_induction encodeLoop written bytes
  case case1 written =>
    obtain ⟨-, rfl⟩ := Prod.mk.inj h
    exact ⟨[], rfl, by simp, by simp⟩
  case case3 written byte rest hascii hroom ih =>
    have hnext := (ih h).cons hroom
    rwa [latin1CharToUtf8_ascii hascii] at hnext
  case case9 written lead hhigh hlead continuation rest codepoint hcontinuation hlow hmax hroom ih =>
    have hnext := (ih h).cons hroom
    rwa [twoByte_decoded hlead (not_not.mp hcontinuation)] at hnext
    · exact not_lt.mp fun hlt => hlow (UInt16.lt_iff_toNat_lt.mpr hlt)
    · exact not_lt.mp fun hlt => hmax (UInt16.lt_iff_toNat_lt.mpr hlt)
  -- the other branches report an error
  all_goals cases h

theorem encodeLoop_none_iff {bytes result : List UInt8} :
    encodeLoop [] bytes = (.none, result) ↔
      bytes = utf8 result ∧ result.length ≤ deviceNameWriteCharLimit := by
  constructor
  · intro h
    obtain ⟨text, rfl, hresult, hlength⟩ := writesText_of_encodeLoop h
    rw [List.nil_append] at hresult
    subst hresult
    refine ⟨rfl, ?_⟩
    by_cases htext : result = []
    · simp [htext, deviceNameWriteCharLimit]
    · exact hlength htext
  · rintro ⟨rfl, hlength⟩
    simpa using encodeLoop_utf8 result [] (by simpa using hlength)

theorem utf8_eq_nil {text : List UInt8} : utf8 text = [] ↔ text = [] := by
  obtain _ | ⟨byte, text⟩ := text
  · simp
  · simp only [utf8_cons, List.append_eq_nil_iff, reduceCtorEq, iff_false, not_and]
    intro h
    unfold latin1CharToUtf8 at h
    split at h <;> cases h

/-- An accepted name is a text of Latin-1 characters, and is stored and reported as that text. -/
theorem encode_utf8 {name text : List UInt8} (hname : trimAsciiWhitespace name = utf8 text)
    (htext : text ≠ []) (hlength : text.length ≤ deviceNameWriteCharLimit) :
    encodeDeviceNamePayload name = ⟨.none, zeroPadded text, utf8 text⟩ := by
  have hloop := encodeLoop_none_iff.mpr ⟨hname, hlength⟩
  have hfit : 2 * text.length < deviceNameBufferSize := by
    simp only [deviceNameWriteCharLimit, deviceNameBufferSize] at *
    omega
  rw [encodeDeviceNamePayload]
  have hnonempty : trimAsciiWhitespace name ≠ [] := by
    rw [hname]
    exact mt utf8_eq_nil.mp htext
  simp only [if_neg hnonempty, hloop, latin1ToUtf8_eq [] text (by simpa using hfit),
    List.nil_append]

theorem encode_none {name : List UInt8} (h : (encodeDeviceNamePayload name).error = .none) :
    ∃ text, trimAsciiWhitespace name = utf8 text ∧ text ≠ [] ∧
      text.length ≤ deviceNameWriteCharLimit := by
  simp only [encodeDeviceNamePayload] at h
  split at h
  case isTrue => cases h
  case isFalse hne =>
    split at h
    case h_1 written hloop =>
      obtain ⟨hname, hlength⟩ := encodeLoop_none_iff.mp hloop
      exact ⟨written, hname, fun htext => hne (by rw [hname, htext]; rfl), hlength⟩
    case h_2 error written hnot hloop => exact (hnot h).elim

theorem normalizedName_of_error {name : List UInt8}
    (h : (encodeDeviceNamePayload name).error ≠ .none) :
    (encodeDeviceNamePayload name).normalizedName = [] := by
  simp only [encodeDeviceNamePayload] at h ⊢
  split
  · rfl
  · split
    case h_1 hne _ written hloop =>
      simp [hne, hloop] at h
    case h_2 => rfl

/-- The characters of a Latin-1 text. -/
def charsOf (text : List UInt8) : List Char := text.map fun byte => Char.ofNat byte.toNat

/-- The Latin-1 bytes of characters. -/
def latin1Of (chars : List Char) : List UInt8 := chars.map fun ch => UInt8.ofNat ch.toNat

theorem utf8EncodeChar_byte : ∀ byte : UInt8,
    String.utf8EncodeChar (Char.ofNat byte.toNat) = latin1CharToUtf8 byte :=
  forall_byte (by set_option maxRecDepth 4000 in decide)

theorem flatMap_charsOf (text : List UInt8) :
    (charsOf text).flatMap String.utf8EncodeChar = utf8 text := by
  simp [charsOf, utf8, List.flatMap_map, utf8EncodeChar_byte]

theorem toNat_char_byte : ∀ byte : UInt8, (Char.ofNat byte.toNat).toNat ≤ 0xFF :=
  forall_byte (by set_option maxRecDepth 4000 in decide)

theorem charsOf_small {text : List UInt8} {ch : Char} (h : ch ∈ charsOf text) :
    ch.toNat ≤ 0xFF := by
  obtain ⟨byte, -, rfl⟩ := List.mem_map.mp h
  exact toNat_char_byte byte

theorem charsOf_latin1Of {chars : List Char} (h : ∀ ch ∈ chars, ch.toNat ≤ 0xFF) :
    charsOf (latin1Of chars) = chars := by
  rw [charsOf, latin1Of, List.map_map]
  refine (List.map_congr_left fun ch hch => ?_).trans (List.map_id chars)
  have hsmall := h ch hch
  simp only [Function.comp_apply, UInt8.toNat_ofNat']
  rw [Nat.mod_eq_of_lt (by omega), Char.ofNat_toNat]
  rfl

/-- The names that can be written, in characters: not empty, Latin-1, and short enough. -/
def Writable (chars : List Char) : Prop :=
  chars ≠ [] ∧ (∀ ch ∈ chars, ch.toNat ≤ 0xFF) ∧ chars.length ≤ deviceNameWriteCharLimit

/-- A name is accepted exactly if what is left of it after trimming is the UTF-8 encoding of a
writable text. Then the payload holds its characters in Latin-1 and the name reported is the
trimmed one; a name that is not accepted is reported empty. Trimming takes white space off both
ends, and as much as there is. -/
theorem encode_language (name : List UInt8) :
    ((encodeDeviceNamePayload name).error = .none ↔
        ∃ chars, Writable chars ∧
          trimAsciiWhitespace name = chars.flatMap String.utf8EncodeChar) ∧
      (∀ chars, Writable chars →
        trimAsciiWhitespace name = chars.flatMap String.utf8EncodeChar →
        (encodeDeviceNamePayload name).payload = zeroPadded (latin1Of chars) ∧
          (encodeDeviceNamePayload name).normalizedName = trimAsciiWhitespace name) ∧
      ((encodeDeviceNamePayload name).error ≠ .none →
        (encodeDeviceNamePayload name).normalizedName = []) ∧
      (∃ before after, name = before ++ trimAsciiWhitespace name ++ after ∧
        (∀ byte ∈ before, isSpace byte) ∧ ∀ byte ∈ after, isSpace byte) ∧
      (∀ byte ∈ (trimAsciiWhitespace name).head?, ¬ isSpace byte) ∧
      ∀ byte ∈ (trimAsciiWhitespace name).getLast?, ¬ isSpace byte := by
  have hwritten {chars : List Char} (hchars : Writable chars)
      (hname : trimAsciiWhitespace name = chars.flatMap String.utf8EncodeChar) :
      encodeDeviceNamePayload name =
        ⟨.none, zeroPadded (latin1Of chars), trimAsciiWhitespace name⟩ := by
    obtain ⟨hne, hsmall, hlength⟩ := hchars
    have htext : trimAsciiWhitespace name = utf8 (latin1Of chars) := by
      rw [← flatMap_charsOf, charsOf_latin1Of hsmall, hname]
    rw [encode_utf8 htext (by simpa [latin1Of]) (by simpa [latin1Of]), htext]
  refine ⟨⟨fun h => ?_, ?_⟩, fun chars hchars hname => ?_, normalizedName_of_error,
    trimAsciiWhitespace_spec name⟩
  · obtain ⟨text, hname, hne, hlength⟩ := encode_none h
    exact ⟨charsOf text, ⟨by simpa [charsOf], fun ch hch => charsOf_small hch, by simpa [charsOf]⟩,
      by rw [flatMap_charsOf, hname]⟩
  · rintro ⟨chars, hchars, hname⟩
    rw [hwritten hchars hname]
  · rw [hwritten hchars hname]
    exact ⟨rfl, rfl⟩

/-- Texts that fit a payload are told apart by their bytes. -/
theorem utf8_injective {a b : List UInt8} (ha : a.length ≤ deviceNameWriteCharLimit)
    (hb : b.length ≤ deviceNameWriteCharLimit) (h : utf8 a = utf8 b) : a = b := by
  have hloop := encodeLoop_none_iff.mpr ⟨rfl, ha⟩
  rw [h, encodeLoop_none_iff.mpr ⟨rfl, hb⟩] at hloop
  exact (Prod.mk.inj hloop).2.symm

/-- What `decode_device_name_payload` takes for padding at the end. -/
def isPadding (byte : UInt8) : Bool := byte = namePaddingNul ∨ byte = namePaddingSpace

theorem rdropWhile_zeros (text : List UInt8) (n : ℕ) :
    (text ++ List.replicate n 0).rdropWhile isPadding = text.rdropWhile isPadding := by
  induction n with
  | zero => simp
  | succ n ih =>
    rw [List.replicate_succ', ← List.append_assoc, List.rdropWhile_concat_pos _ _ _ (by decide), ih]

theorem length_rdropWhile (text : List UInt8) :
    (text.rdropWhile isPadding).length ≤ text.length :=
  (List.rdropWhile_prefix isPadding text).length_le

/-- What is read back of a text that was written. -/
theorem decode_zeroPadded (first : UInt8) (rest : List UInt8)
    (hlength : (first :: rest).length ≤ deviceNameWriteCharLimit) :
    decodeDeviceNamePayload (zeroPadded (first :: rest)) =
      utf8 ((if first > namePaddingSpace then first :: rest else rest).rdropWhile isPadding) := by
  have hfit (text : List UInt8) (h : text.length ≤ deviceNameWriteCharLimit) :
      latin1ToUtf8 [] (text.rdropWhile isPadding) = utf8 (text.rdropWhile isPadding) := by
    have hdrop := length_rdropWhile text
    rw [latin1ToUtf8_eq, List.nil_append]
    simp only [List.length_nil, deviceNameBufferSize, deviceNameWriteCharLimit] at *
    omega
  simp only [List.length_cons] at hlength
  simp only [zeroPadded, decodeDeviceNamePayload, List.cons_append]
  split
  · rw [← List.cons_append]
    exact (congrArg _ (rdropWhile_zeros ..)).trans (hfit _ (by simpa using hlength))
  · exact (congrArg _ (rdropWhile_zeros ..)).trans (hfit _ (by omega))

/-- The trimmed names that are read back: no control character in front, and no NUL at the end. -/
def Readable (trimmedName : List UInt8) : Prop :=
  (∀ byte ∈ trimmedName.head?, byte > 0x20) ∧ ∀ byte ∈ trimmedName.getLast?, byte ≠ 0

theorem head_char : ∀ byte : UInt8,
    (latin1CharToUtf8 byte).head?.map (fun c => decide (c > 0x20)) = some (decide (byte > 0x20)) :=
  forall_byte (by set_option maxRecDepth 4000 in decide)

theorem last_char : ∀ byte : UInt8,
    (latin1CharToUtf8 byte).getLast?.map (fun c => (decide (c ≠ 0), isSpace c)) =
      some (decide (byte ≠ 0), isSpace byte) :=
  forall_byte (by set_option maxRecDepth 4000 in decide)

theorem head_utf8 (first : UInt8) (rest : List UInt8) :
    ∃ byte, (utf8 (first :: rest)).head? = some byte ∧ (byte > 0x20 ↔ first > 0x20) := by
  obtain ⟨byte, hbyte, heq⟩ := Option.map_eq_some_iff.mp (head_char first)
  refine ⟨byte, ?_, decide_eq_decide.mp heq⟩
  rw [utf8_cons, List.head?_append, hbyte]
  rfl

theorem last_utf8 (text : List UInt8) (last : UInt8) :
    ∃ byte, (utf8 (text ++ [last])).getLast? = some byte ∧ (byte ≠ 0 ↔ last ≠ 0) ∧
      isSpace byte = isSpace last := by
  obtain ⟨byte, hbyte, heq⟩ := Option.map_eq_some_iff.mp (last_char last)
  obtain ⟨hzero, hspace⟩ := Prod.mk.inj heq
  refine ⟨byte, ?_, decide_eq_decide.mp hzero, hspace⟩
  rw [utf8, List.flatMap_append, List.getLast?_append]
  simp [hbyte]

/-- A text that does not end in white space is read back from a payload exactly if it is
readable. -/
theorem decode_zeroPadded_iff {text : List UInt8} (hne : text ≠ [])
    (hlength : text.length ≤ deviceNameWriteCharLimit)
    (hspaces : ∀ byte ∈ (utf8 text).getLast?, ¬ isSpace byte) :
    decodeDeviceNamePayload (zeroPadded text) = utf8 text ↔ Readable (utf8 text) := by
  obtain _ | ⟨first, rest⟩ := text
  · exact absurd rfl hne
  obtain ⟨init, last, hlast⟩ : ∃ init last, first :: rest = init ++ [last] :=
    ⟨_, _, (List.dropLast_append_getLast hne).symm⟩
  obtain ⟨head, hhead, hfirst⟩ := head_utf8 first rest
  obtain ⟨final, hfinal, hzero, hspace⟩ := last_utf8 init last
  rw [← hlast] at hfinal
  have hnospace : isSpace last = false := by
    rw [← hspace]
    simpa using hspaces final hfinal
  have hreadable : Readable (utf8 (first :: rest)) ↔ first > 0x20 ∧ last ≠ 0 := by
    rw [Readable, hhead, hfinal, ← hfirst, ← hzero]
    simp
  rw [hreadable, decode_zeroPadded first rest hlength]
  by_cases hcontrol : first > namePaddingSpace
  · rw [if_pos hcontrol]
    have hdrop := length_rdropWhile (first :: rest)
    constructor
    · intro heq
      have htext := utf8_injective (by omega) hlength heq
      refine ⟨hcontrol, fun hnul => ?_⟩
      rw [hlast, hnul, List.rdropWhile_concat_pos _ _ _ (by decide)] at htext
      have := congrArg List.length htext
      have hinit := length_rdropWhile init
      simp at this
      omega
    · rintro ⟨-, hnul⟩
      rw [hlast, List.rdropWhile_concat_neg]
      simp only [isPadding, decide_eq_true_eq, not_or]
      refine ⟨hnul, fun heq => ?_⟩
      rw [heq] at hnospace
      cases hnospace
  · -- the first character is skipped, and what is left is shorter
    rw [if_neg hcontrol]
    have hdrop := length_rdropWhile rest
    simp only [List.length_cons] at hlength
    constructor
    · intro heq
      have htext := utf8_injective (by omega) (by simpa using hlength) heq
      have := congrArg List.length htext
      simp at this
      omega
    · exact fun hread => absurd hread.1 hcontrol

/-- An accepted name is read back as it was reported exactly if it is readable. -/
theorem decode_encode_iff (name : List UInt8) (h : (encodeDeviceNamePayload name).error = .none) :
    decodeDeviceNamePayload (encodeDeviceNamePayload name).payload =
        (encodeDeviceNamePayload name).normalizedName ↔
      Readable (trimAsciiWhitespace name) := by
  obtain ⟨text, hname, hne, hlength⟩ := encode_none h
  have hspaces := (trimAsciiWhitespace_spec name).2.2
  rw [hname] at hspaces
  rw [encode_utf8 hname hne hlength, hname]
  exact decode_zeroPadded_iff hne hlength hspaces

/-- A name between blanks, with a character of two bytes. -/
def loungeName : List UInt8 := [0x20, 0x53, 0x61, 0x6C, 0xC3, 0xB3, 0x6E, 0x20, 0x32, 0x09, 0x20]

theorem decode_encode_lounge :
    (encodeDeviceNamePayload loungeName).error = .none ∧
      (decodeDeviceNamePayload (encodeDeviceNamePayload loungeName).payload =
          (encodeDeviceNamePayload loungeName).normalizedName ↔
        Readable (trimAsciiWhitespace loungeName)) :=
  ⟨by decide, decode_encode_iff loungeName (by decide)⟩

/-- A name that begins with a control character is accepted, but read back without it. -/
theorem control_character_lost :
    ¬ ∀ name, (encodeDeviceNamePayload name).error = .none →
      decodeDeviceNamePayload (encodeDeviceNamePayload name).payload =
        (encodeDeviceNamePayload name).normalizedName := by
  intro h
  have hread := h [0x01, 0x41] (by decide)
  exact absurd hread (by decide)

end HomeIoControl.DeviceNames
