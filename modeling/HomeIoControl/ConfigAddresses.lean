import HomeIoControl.DeviceRegistries
import HomeIoControl.PythonIntegers

/-!
# Identifiers in a configuration

The build takes an identifier for the upper case of a text of the right length that Python reads
as an integer in base 16; the firmware reads pairs of hexadecimal digits. The two agree but for
the texts that Python reads and that are not all digits.
-/

namespace HomeIoControl.ConfigAddresses

open ProtocolFrames DeviceRegistries PythonIntegers

/-- An identifier of some number of digits, with the texts of its two errors. -/
def validateHex (u : Unicode) (digits : ℕ) (wrongLength wrongDigits : String) (value : String) :
    Except String String :=
  let text := u.upperText value.toList
  if text.length ≠ digits then .error wrongLength
  else
    match intOfHex u text with
    | none => .error wrongDigits
    | some _ => .ok (String.ofList text)

def validateNodeId (u : Unicode) : String → Except String String :=
  validateHex u 6 "Node ID must be exactly 6 hex characters (3 bytes)"
    "Node ID must be valid hexadecimal"

def validateSystemKey (u : Unicode) : String → Except String String :=
  validateHex u 32 "System key must be exactly 32 hex characters (16 bytes)"
    "System key must be valid hexadecimal"

def validateDeviceId (u : Unicode) : String → Except String String :=
  validateHex u 6 "Device ID must be exactly 6 hex characters (3 bytes)"
    "Device ID must be valid hexadecimal"

/-- `hex_to_bytes`. A character outside ASCII is no digit, nor is any of the bytes it is written
in. -/
def hexToBytes (hex : String) (len : ℕ) : Option (List UInt8) :=
  (hexPairs hex.toList).filter fun bytes => bytes.length = len

/-- The firmware reads the identifier as an address and writes that address as the identifier. -/
def NamesAddress (hex : String) : Prop := ∃ id, hexToNodeId hex = some id ∧ nodeIdToString id = hex

/-- The firmware reads the identifier as a key. -/
def NamesKey (hex : String) : Prop := ∃ key, hexToBytes hex 16 = some key

/-- A text whose upper case has the right length and is an integer to Python, though it is not all
digits: there is a sign, a blank, a mark, an underscore or a digit of another script in it. -/
def Misread (u : Unicode) (digits : ℕ) (value : String) : Prop :=
  (u.upperText value.toList).length = digits ∧ HexInteger u (u.upperText value.toList) ∧
    ∃ ch ∈ u.upperText value.toList, isHexDigit ch = false

theorem hexNibble_ascii {ch : Char} (h : (hexNibble ch).isSome) : ch.toNat < 128 := by
  by_contra hlarge
  have hkeep : ch.toUpper = ch := by
    refine dif_neg ?_
    rintro ⟨-, hz⟩
    exact hlarge (Nat.lt_of_le_of_lt (UInt32.le_iff_toNat_le.mp hz) (by decide))
  have hdigit : ¬ ('0' ≤ ch ∧ ch ≤ '9') := fun hle =>
    hlarge (Nat.lt_of_le_of_lt (UInt32.le_iff_toNat_le.mp hle.2) (by decide))
  have hletter : ¬ ('A' ≤ ch ∧ ch ≤ 'F') := fun hle =>
    hlarge (Nat.lt_of_le_of_lt (UInt32.le_iff_toNat_le.mp hle.2) (by decide))
  simp [hexNibble, hkeep, hdigit, hletter] at h

theorem isHexDigit_ascii {ch : Char} (h : isHexDigit ch = true) : ch.toNat < 128 := by
  by_contra hlarge
  have hbound : ∀ top : Char, top.toNat < 128 → ¬ ch ≤ top := fun top htop hle =>
    hlarge (Nat.lt_of_le_of_lt (UInt32.le_iff_toNat_le.mp hle) htop)
  simp [isHexDigit, hexValue, hbound '9' (by decide), hbound 'F' (by decide),
    hbound 'f' (by decide)] at h

/-- A character that the firmware takes for a digit is one. -/
theorem isHexDigit_of_hexNibble {ch : Char} (h : (hexNibble ch).isSome) : isHexDigit ch = true := by
  have hall : ∀ k < 128, (hexNibble (Char.ofNat k)).isSome → isHexDigit (Char.ofNat k) = true := by
    decide
  obtain ⟨k, hk, rfl⟩ := ascii_char (hexNibble_ascii h)
  exact hall k hk h

/-- An upper-case digit is the one written for its value. -/
theorem upper_hexDigit {ch : Char} (h : isHexDigit ch = true) (hupper : ¬ ('a' ≤ ch ∧ ch ≤ 'z')) :
    ∃ n < 16, ch = hexDigit n := by
  have hall : ∀ k < 128, isHexDigit (Char.ofNat k) = true →
      ¬ ('a' ≤ Char.ofNat k ∧ Char.ofNat k ≤ 'z') → ∃ n < 16, Char.ofNat k = hexDigit n := by
    decide
  obtain ⟨k, hk, rfl⟩ := ascii_char (isHexDigit_ascii h)
  exact hall k hk h hupper

theorem isHexDigit_of_hexPairs {text : List Char} {bytes : List UInt8}
    (h : hexPairs text = some bytes) : ∀ ch ∈ text, isHexDigit ch = true := by
  induction text using hexPairs.induct generalizing bytes with
  | case1 => exact List.forall_mem_nil _
  | case2 => exact absurd h (by simp [hexPairs])
  | case3 high low rest i j bytes' hrest hlow hhigh ih =>
    have hfirst := isHexDigit_of_hexNibble (Option.isSome_of_eq_some hhigh)
    have hsecond := isHexDigit_of_hexNibble (Option.isSome_of_eq_some hlow)
    exact List.forall_mem_cons.mpr ⟨hfirst, List.forall_mem_cons.mpr ⟨hsecond, ih hrest⟩⟩
  | case4 high low rest hnone _ =>
    rw [hexPairs] at h
    split at h
    · next i j bytes' hhigh hlow hrest => exact absurd hrest (hnone i j bytes' hhigh hlow)
    · exact absurd h (by simp)

/-- An even number of upper-case digits is written for some bytes. -/
theorem bytes_of_digits (n : ℕ) {text : List Char} (hlen : text.length = 2 * n)
    (hdigits : ∀ ch ∈ text, ∃ value < 16, ch = hexDigit value) :
    ∃ bytes : List UInt8, bytes.length = n ∧ text = bytes.flatMap hexByte := by
  induction n generalizing text with
  | zero => exact ⟨[], rfl, List.length_eq_zero_iff.mp hlen⟩
  | succ n ih =>
    rcases text with - | ⟨high, - | ⟨low, rest⟩⟩ <;>
      simp only [List.length_cons, List.length_nil] at hlen
    · omega
    · omega
    obtain ⟨i, hi, rfl⟩ := hdigits high (by simp)
    obtain ⟨j, hj, rfl⟩ := hdigits low (by simp)
    have hshort : rest.length = 2 * n := by omega
    obtain ⟨bytes, hbytes, rfl⟩ := ih hshort fun ch hch => hdigits ch (by simp [hch])
    refine ⟨UInt8.ofNat (16 * i + j) :: bytes, by simp [hbytes], ?_⟩
    have hbyte : (UInt8.ofNat (16 * i + j)).toNat = 16 * i + j :=
      UInt8.toNat_ofNat_of_lt (show 16 * i + j < 256 by omega)
    have hhigh : (16 * i + j) / 16 = i := by omega
    have hlow : (16 * i + j) % 16 = j := by omega
    rw [List.flatMap_cons, hexByte, hbyte, hhigh, hlow]
    rfl

theorem validateHex_ok {u : Unicode} {digits : ℕ} {wrongLength wrongDigits value hex : String}
    (h : validateHex u digits wrongLength wrongDigits value = .ok hex) :
    hex.toList = u.upperText value.toList ∧ hex.toList.length = digits ∧
      HexInteger u hex.toList := by
  simp only [validateHex] at h
  split_ifs at h with hlen
  split at h
  · exact absurd h (by simp)
  · next n hint =>
    obtain rfl := Except.ok.inj h
    rw [String.toList_ofList]
    exact ⟨rfl, not_not.mp hlen, (intOfHex_isSome_iff u _).mp (hint ▸ rfl)⟩

theorem validateHex_of {u : Unicode} {digits : ℕ} {value : String}
    (hlen : (u.upperText value.toList).length = digits)
    (hint : HexInteger u (u.upperText value.toList)) (wrongLength wrongDigits : String) :
    validateHex u digits wrongLength wrongDigits value =
      .ok (String.ofList (u.upperText value.toList)) := by
  obtain ⟨n, hn⟩ := Option.isSome_iff_exists.mp ((intOfHex_isSome_iff u _).mpr hint)
  simp only [validateHex, if_neg (not_not.mpr hlen), hn]

/-- An accepted text of digits is written for some bytes. -/
theorem accepted_bytes {u : Unicode} {n : ℕ} {value hex : String}
    (hmisread : ¬ Misread u (2 * n) value) (hhex : hex.toList = u.upperText value.toList)
    (hlen : hex.toList.length = 2 * n) (hint : HexInteger u hex.toList) :
    ∃ bytes : List UInt8, bytes.length = n ∧ hex.toList = bytes.flatMap hexByte := by
  refine bytes_of_digits n hlen fun ch hch => ?_
  have hdigit : isHexDigit ch = true := by
    by_contra hother
    rw [hhex] at hlen hint hch
    exact hmisread ⟨hlen, hint, ch, hch, by simpa using hother⟩
  rw [hhex] at hch
  obtain ⟨ch', -, hupper⟩ := List.mem_flatMap.mp hch
  exact upper_hexDigit hdigit (u.upper_not_lower ch' ch hupper)

/-- An identifier validated by `validate` is good exactly where its text is not misread. -/
theorem accepted_iff {u : Unicode} {n : ℕ} (good : String → Prop)
    (hgood : ∀ (hex : String) (bytes : List UInt8), bytes.length = n →
      hex.toList = bytes.flatMap hexByte → good hex)
    (hdigits : ∀ hex, good hex → ∀ ch ∈ hex.toList, isHexDigit ch = true)
    (wrongLength wrongDigits value : String) :
    (∀ hex, validateHex u (2 * n) wrongLength wrongDigits value = .ok hex → good hex) ↔
      ¬ Misread u (2 * n) value := by
  constructor
  · rintro hall ⟨hlen, hint, ch, hch, hother⟩
    have hok := hall _ (validateHex_of hlen hint wrongLength wrongDigits)
    have hdigit := hdigits _ hok ch (by rwa [String.toList_ofList])
    rw [hdigit] at hother
    exact absurd hother (by decide)
  · intro hmisread hex hok
    obtain ⟨hhex, hlen, hint⟩ := validateHex_ok hok
    obtain ⟨bytes, hbytes, htext⟩ := accepted_bytes hmisread hhex hlen hint
    exact hgood hex bytes hbytes htext

theorem namesAddress_of_bytes (hex : String) (bytes : List UInt8) (hbytes : bytes.length = 3)
    (htext : hex.toList = bytes.flatMap hexByte) : NamesAddress hex := by
  obtain ⟨b0, b1, b2, rfl⟩ := List.length_eq_three.mp hbytes
  have hid : nodeIdToString ⟨b0, b1, b2⟩ = hex := by
    rw [← String.toList_inj, htext]
    simp [nodeIdToString]
  exact ⟨⟨b0, b1, b2⟩, hid ▸ hexToNodeId_nodeIdToString _, hid⟩

theorem digits_of_namesAddress (hex : String) (h : NamesAddress hex) :
    ∀ ch ∈ hex.toList, isHexDigit ch = true := by
  obtain ⟨id, hid, -⟩ := h
  cases hpairs : hexPairs hex.toList with
  | none => simp [hexToNodeId, hpairs] at hid
  | some bytes => exact isHexDigit_of_hexPairs hpairs

theorem namesKey_of_bytes (hex : String) (bytes : List UInt8) (hbytes : bytes.length = 16)
    (htext : hex.toList = bytes.flatMap hexByte) : NamesKey hex := by
  refine ⟨bytes, ?_⟩
  rw [hexToBytes, htext, hexPairs_flatMap]
  simp [hbytes]

theorem digits_of_namesKey (hex : String) (h : NamesKey hex) :
    ∀ ch ∈ hex.toList, isHexDigit ch = true := by
  obtain ⟨key, hkey⟩ := h
  exact isHexDigit_of_hexPairs (Option.filter_eq_some_iff.mp hkey).1

/-- Where two identifiers name addresses, they are the same text for the same address. -/
theorem namesAddress_inj {hex hex' : String} (h : NamesAddress hex) (h' : NamesAddress hex') :
    hex = hex' ↔ hexToNodeId hex = hexToNodeId hex' := by
  obtain ⟨id, hid, rfl⟩ := h
  obtain ⟨id', hid', rfl⟩ := h'
  constructor
  · exact congrArg _
  · intro heq
    obtain rfl : id = id' := Option.some.inj (hid.symm.trans (heq.trans hid'))
    rfl

/-- What the build accepts is an address, or a key, to the firmware exactly where the text is not
misread; among such addresses the text is the address. -/
theorem accepted_identifiers (u : Unicode) (value : String) :
    ((∀ hex, validateNodeId u value = .ok hex → NamesAddress hex) ↔ ¬ Misread u 6 value) ∧
      ((∀ hex, validateDeviceId u value = .ok hex → NamesAddress hex) ↔ ¬ Misread u 6 value) ∧
      ((∀ hex, validateSystemKey u value = .ok hex → NamesKey hex) ↔ ¬ Misread u 32 value) ∧
      ∀ hex hex', NamesAddress hex → NamesAddress hex' →
        (hex = hex' ↔ hexToNodeId hex = hexToNodeId hex') := by
  refine ⟨?_, ?_, ?_, fun hex hex' => namesAddress_inj⟩
  · exact accepted_iff NamesAddress namesAddress_of_bytes digits_of_namesAddress _ _ value
  · exact accepted_iff NamesAddress namesAddress_of_bytes digits_of_namesAddress _ _ value
  · exact accepted_iff NamesKey namesKey_of_bytes digits_of_namesKey _ _ value

/-- The mark of base 16 takes the place of two digits. -/
theorem marked_node_id :
    ¬ ∀ hex, validateNodeId asciiOnly "0x12ab" = .ok hex → NamesAddress hex := by
  intro hall
  obtain ⟨id, hid, -⟩ := hall "0X12AB" (by decide)
  have hnone : hexToNodeId "0X12AB" = none := by decide
  rw [hnone] at hid
  exact absurd hid (by simp)

end HomeIoControl.ConfigAddresses
