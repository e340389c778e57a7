import Mathlib.Data.Nat.Basic
import Mathlib.Data.List.Basic

/-! # Two-way frames: channels, sizes, node addresses, control bytes and the wire format -/

namespace HomeIoControl.ProtocolFrames

def nodeIdSize : ℕ := 3
def hmacSize : ℕ := 6
def aesKeySize : ℕ := 16
def frameMinSize : ℕ := 9
def frameMaxDeclaredSize : ℕ := 32
def frameMaxDataSize : ℕ := 23
def frameCrcSize : ℕ := 2
def frameMaxTrailerSize : ℕ := hmacSize
def frameMaxWireSize : ℕ := frameMaxDeclaredSize + frameMaxTrailerSize + frameCrcSize

def freqCh1 : UInt32 := 868250000
def freqCh2 : UInt32 := 868950000
def freqCh3 : UInt32 := 869850000

def ctrl0End : UInt8 := 0x80
def ctrl0Start : UInt8 := 0x40
def ctrl0Protocol1w : UInt8 := 0x20
def ctrl0LengthMask : UInt8 := 0x1F
def ctrl1LowPower : UInt8 := 0x20

def cmdExecute : UInt8 := 0x00
def cmdActivateMode : UInt8 := 0x01
def cmdPrivate : UInt8 := 0x03
def cmdPrivateResp : UInt8 := 0x04
def cmdPrivate2 : UInt8 := 0x0C
def cmdPrivate2Resp : UInt8 := 0x0D
def cmdIdentify : UInt8 := 0x1E
def cmdWritePrivate : UInt8 := 0x20
def cmdWritePrivateAck : UInt8 := 0x21
def cmdDiscoverReq : UInt8 := 0x28
def cmdDiscoverResp : UInt8 := 0x29
def cmdDiscoverSpeReq : UInt8 := 0x2A
def cmdDiscoverSpeResp : UInt8 := 0x2B
def cmdDiscoverConfirm : UInt8 := 0x2C
def cmdDiscoverConfirmAck : UInt8 := 0x2D
def cmdDiscoverAltReq : UInt8 := 0x2E
def cmdOnewayAddController : UInt8 := 0x30
def cmdKeyInit : UInt8 := 0x31
def cmdKeyTransfer : UInt8 := 0x32
def cmdKeyConfirm : UInt8 := 0x33
def cmdAddressReq : UInt8 := 0x36
def cmdAddressResp : UInt8 := 0x37
def cmdChallengeReq : UInt8 := 0x3C
def cmdChallengeResp : UInt8 := 0x3D
def cmdUnknown4aResp : UInt8 := 0x4B
def cmdGetName : UInt8 := 0x50
def cmdGetNameResp : UInt8 := 0x51
def cmdSetName : UInt8 := 0x52
def cmdSetNameResp : UInt8 := 0x53
def cmdGetInfo1 : UInt8 := 0x54
def cmdGetInfo1Resp : UInt8 := 0x55
def cmdGetInfo2 : UInt8 := 0x56
def cmdGetInfo2Resp : UInt8 := 0x57
def cmdGetGeneralInfo3 : UInt8 := 0x58
def cmdGetGeneralInfo3Resp : UInt8 := 0x59
def cmdSetConfig1 : UInt8 := 0x6F
def cmdSetConfig1Resp : UInt8 := 0x70
def cmdStatusUpdate : UInt8 := 0x71
def cmdStatusUpdateResp : UInt8 := 0x72
def cmdErrorResp : UInt8 := 0xFE

/-- A 3-byte node address. -/
structure NodeId where
  b0 : UInt8
  b1 : UInt8
  b2 : UInt8
  deriving DecidableEq, Repr

namespace NodeId

def bytes (id : NodeId) : List UInt8 := [id.b0, id.b1, id.b2]

@[simp] theorem length_bytes (id : NodeId) : id.bytes.length = 3 := rfl

end NodeId

/-- The authenticator trailer carried outside the declared length. -/
abbrev Mac := Vector UInt8 6

/-- A parsed frame. `data` holds the `data_len` payload bytes, `mac` the trailer when `has_mac`. -/
structure IoFrame where
  ctrl0 : UInt8
  ctrl1 : UInt8
  dst : NodeId
  src : NodeId
  cmd : UInt8
  data : List UInt8
  mac : Option Mac
  data_le : data.length ≤ frameMaxDataSize
  deriving DecidableEq

namespace IoFrame

def dataLen (f : IoFrame) : ℕ := f.data.length

/-- `f.data[i]`; the bytes past `data_len` are zero. -/
def dataAt (f : IoFrame) (i : ℕ) : UInt8 := f.data.getD i 0

end IoFrame

theorem empty_payload_le : ([] : List UInt8).length ≤ frameMaxDataSize := Nat.zero_le _

/-- `init_frame`: an empty frame with the given flags. -/
def initFrame (is2w start «end» lowPower : Bool) : IoFrame where
  ctrl0 := (if «end» then ctrl0End else 0) ||| (if start then ctrl0Start else 0) |||
    (if is2w then 0 else ctrl0Protocol1w)
  ctrl1 := if lowPower then ctrl1LowPower else 0
  dst := ⟨0, 0, 0⟩
  src := ⟨0, 0, 0⟩
  cmd := 0
  data := []
  mac := none
  data_le := Nat.zero_le _

def setDst (f : IoFrame) (id : NodeId) : IoFrame := { f with dst := id }

def setSrc (f : IoFrame) (id : NodeId) : IoFrame := { f with src := id }

/-- `set_cmd`: refuses a payload that the declared length cannot describe. -/
def setCmd (f : IoFrame) (cmd : UInt8) (params : List UInt8) : Option IoFrame :=
  if h : params.length ≤ frameMaxDataSize then
    some { f with
      cmd := cmd
      data := params
      data_le := h
      ctrl0 := (f.ctrl0 &&& ~~~ctrl0LengthMask) |||
        (UInt8.ofNat (frameMinSize + params.length - 1) &&& ctrl0LengthMask) }
  else none

/-- The length that the low bits of CTRL0 declare. -/
def declaredLength (c0 : UInt8) : ℕ := (c0 &&& ctrl0LengthMask).toNat + 1

def frameLength (f : IoFrame) : ℕ := declaredLength f.ctrl0

def crcPolynomialReversed : UInt16 := 0x8408

/-- One bit of `crc_ccitt`. -/
def crcBit (crc : UInt16) : UInt16 :=
  if crc &&& 1 ≠ 0 then (crc >>> 1) ^^^ crcPolynomialReversed else crc >>> 1

/-- `crc_ccitt`: reflected, from zero. -/
def crcCcitt (data : List UInt8) : UInt16 :=
  data.foldl (fun crc byte => Nat.repeat crcBit 8 (crc ^^^ byte.toUInt16)) 0

def isStart (f : IoFrame) : Bool := f.ctrl0 &&& ctrl0Start != 0

def isEnd (f : IoFrame) : Bool := f.ctrl0 &&& ctrl0End != 0

def is1w (f : IoFrame) : Bool := f.ctrl0 &&& ctrl0Protocol1w != 0

def frameCarriesMacTrailer (cmd : UInt8) : Bool := cmd = cmdOnewayAddController

/-- `serialize` into a buffer large enough for any frame; `none` is the return value 0. -/
def serialize (f : IoFrame) : Option (List UInt8) :=
  if frameLength f < frameMinSize then none
  else if frameMinSize + f.dataLen ≠ frameLength f then none
  else if f.mac.isSome ∧ frameCarriesMacTrailer f.cmd = false then none
  else some ([f.ctrl0, f.ctrl1] ++ f.dst.bytes ++ f.src.bytes ++ [f.cmd] ++ f.data ++
    (f.mac.map Vector.toList).getD [])

/-- A fact about every byte, checked on the 256 numbers. -/
theorem forall_byte {p : UInt8 → Prop} (h : ∀ n : Fin 256, p (UInt8.ofNat n)) (b : UInt8) :
    p b := by
  simpa using h ⟨b.toNat, b.toNat_lt⟩

theorem declaredLength_le (c0 : UInt8) : declaredLength c0 ≤ frameMaxDeclaredSize := by
  have hmask : (c0 &&& ctrl0LengthMask).toNat ≤ 31 := by
    rw [UInt8.toNat_and]
    exact Nat.and_le_right
  simp only [declaredLength, frameMaxDeclaredSize]
  omega

theorem payload_le {c0 : UInt8} {n : ℕ} (h : n + frameMinSize = declaredLength c0) :
    n ≤ frameMaxDataSize := by
  have hle := declaredLength_le c0
  simp only [frameMinSize, frameMaxDeclaredSize, frameMaxDataSize] at *
  omega

theorem take_payload_le (c0 : UInt8) (payload : List UInt8) :
    (payload.take (declaredLength c0 - frameMinSize)).length ≤ frameMaxDataSize := by
  have hle := declaredLength_le c0
  simp only [frameMinSize, frameMaxDeclaredSize, frameMaxDataSize, List.length_take] at *
  omega

/-- `parse`: the buffer has exactly the declared length, or the trailer on top of it. -/
def parse (buf : List UInt8) : Option IoFrame :=
  match buf with
  | c0 :: c1 :: d0 :: d1 :: d2 :: s0 :: s1 :: s2 :: cmd :: payload =>
    if declaredLength c0 < frameMinSize then none
    else if h : payload.length + frameMinSize = declaredLength c0 then
      some ⟨c0, c1, ⟨d0, d1, d2⟩, ⟨s0, s1, s2⟩, cmd, payload, none, payload_le h⟩
    else if payload.length + frameMinSize = declaredLength c0 + hmacSize ∧
        frameCarriesMacTrailer cmd = true then
      some ⟨c0, c1, ⟨d0, d1, d2⟩, ⟨s0, s1, s2⟩, cmd,
        payload.take (declaredLength c0 - frameMinSize),
        some (Vector.ofFn fun i => payload.getD (declaredLength c0 - frameMinSize + i) 0),
        take_payload_le c0 payload⟩
    else none
  | _ => none

/-- What is serialized parses back to the same frame. -/
theorem parse_serialize {f : IoFrame} {buf : List UInt8} (h : serialize f = some buf) :
    parse buf = some f := by
  unfold serialize at h
  split_ifs at h with hmin hlen htrailer
  have hdata : f.data.length + frameMinSize = declaredLength f.ctrl0 := by
    have heq := not_not.mp hlen
    rw [Nat.add_comm, frameLength, IoFrame.dataLen] at heq
    exact heq
  rw [← Option.some.inj h]
  cases hmac : f.mac with
  | none =>
    have hbuf : [f.ctrl0, f.ctrl1] ++ f.dst.bytes ++ f.src.bytes ++ [f.cmd] ++ f.data ++
        (Option.map Vector.toList (none : Option Mac)).getD [] =
        f.ctrl0 :: f.ctrl1 :: f.dst.b0 :: f.dst.b1 :: f.dst.b2 :: f.src.b0 :: f.src.b1 ::
          f.src.b2 :: f.cmd :: f.data := by
      simp [NodeId.bytes]
    rw [hbuf, parse, if_neg (show ¬ declaredLength f.ctrl0 < frameMinSize from hmin), dif_pos hdata]
    rw [← hmac]
  | some m =>
    have hbuf : [f.ctrl0, f.ctrl1] ++ f.dst.bytes ++ f.src.bytes ++ [f.cmd] ++ f.data ++
        (Option.map Vector.toList (some m)).getD [] =
        f.ctrl0 :: f.ctrl1 :: f.dst.b0 :: f.dst.b1 :: f.dst.b2 :: f.src.b0 :: f.src.b1 ::
          f.src.b2 :: f.cmd :: (f.data ++ m.toList) := by
      simp [NodeId.bytes]
    have hcmd : frameCarriesMacTrailer f.cmd = true := by
      by_contra hcarries
      exact htrailer ⟨by rw [hmac]; rfl, Bool.eq_false_iff.mpr hcarries⟩
    have hlong : (f.data ++ m.toList).length + frameMinSize =
        declaredLength f.ctrl0 + hmacSize := by
      rw [List.length_append, Vector.length_toList, hmacSize]
      omega
    have hne : (f.data ++ m.toList).length + frameMinSize ≠ declaredLength f.ctrl0 := by
      rw [hlong, hmacSize]
      omega
    have htake : declaredLength f.ctrl0 - frameMinSize = f.data.length := by omega
    have hdata' : (f.data ++ m.toList).take (declaredLength f.ctrl0 - frameMinSize) = f.data := by
      rw [htake, List.take_left]
    have hmac' : (Vector.ofFn fun i : Fin 6 =>
        (f.data ++ m.toList).getD (declaredLength f.ctrl0 - frameMinSize + i) 0) = m := by
      apply Vector.ext
      intro i hi
      rw [htake]
      simp [List.getD_eq_getElem?_getD]
    rw [hbuf, parse, if_neg (show ¬ declaredLength f.ctrl0 < frameMinSize from hmin), dif_neg hne,
      if_pos ⟨hlong, hcmd⟩]
    congr 1
    cases f
    simp_all

private theorem and_or_length (c0 n : UInt8) :
    ((c0 &&& ~~~ctrl0LengthMask) ||| (n &&& ctrl0LengthMask)) &&& ctrl0LengthMask =
      n &&& ctrl0LengthMask := by
  apply UInt8.eq_of_toBitVec_eq
  apply BitVec.eq_of_getLsbD_eq
  intro i hi
  simp only [UInt8.toBitVec_and, UInt8.toBitVec_or, UInt8.toBitVec_not, BitVec.getLsbD_and,
    BitVec.getLsbD_or, BitVec.getLsbD_not]
  cases ctrl0LengthMask.toBitVec.getLsbD i <;> simp

/-- A frame with its command set declares its payload's length. -/
theorem frameLength_setCmd {f g : IoFrame} {cmd : UInt8} {params : List UInt8}
    (h : setCmd f cmd params = some g) : frameLength g = frameMinSize + params.length := by
  unfold setCmd at h
  split_ifs at h with hlen
  rw [← Option.some.inj h]
  have hle : params.length ≤ 23 := hlen
  simp only [frameLength, declaredLength, and_or_length, frameMinSize]
  rw [UInt8.toNat_and, UInt8.toNat_ofNat', show ctrl0LengthMask.toNat = 2 ^ 5 - 1 from rfl,
    Nat.and_two_pow_sub_one_eq_mod]
  omega

/-- A frame with its command set and no trailer serializes. -/
theorem serialize_setCmd {f g : IoFrame} {cmd : UInt8} {params : List UInt8}
    (h : setCmd f cmd params = some g) (hmac : f.mac = none) :
    ∃ buf, serialize g = some buf := by
  have hlength := frameLength_setCmd h
  unfold setCmd at h
  split_ifs at h with hlen
  have hg := Option.some.inj h
  have hdata : g.dataLen = params.length := by
    rw [← hg]
    rfl
  have hmac' : g.mac = none := by
    rw [← hg]
    exact hmac
  unfold serialize
  rw [if_neg (by omega), if_neg (by omega), if_neg (by simp [hmac'])]
  exact ⟨_, rfl⟩

/-- A buffer of the minimum size starts with a whole header. -/
theorem header_of_length {buf : List UInt8} (h : frameMinSize ≤ buf.length) :
    ∃ c0 c1 d0 d1 d2 s0 s1 s2 cmd payload,
      buf = c0 :: c1 :: d0 :: d1 :: d2 :: s0 :: s1 :: s2 :: cmd :: payload := by
  match buf, h with
  | c0 :: c1 :: d0 :: d1 :: d2 :: s0 :: s1 :: s2 :: cmd :: payload, _ =>
    exact ⟨c0, c1, d0, d1, d2, s0, s1, s2, cmd, payload, rfl⟩
  | [], h | [_], h | [_, _], h | [_, _, _], h | [_, _, _, _], h | [_, _, _, _, _], h
  | [_, _, _, _, _, _], h | [_, _, _, _, _, _, _], h | [_, _, _, _, _, _, _, _], h =>
    simp [frameMinSize] at h

/-- `parse` accepts a buffer of the declared length, or one longer by the trailer when its
command carries one, provided that the declared length covers a header. -/
theorem parse_isSome_iff (buf : List UInt8) :
    (parse buf).isSome ↔ frameMinSize ≤ declaredLength (buf.getD 0 0) ∧
      (buf.length = declaredLength (buf.getD 0 0) ∨
        buf.length = declaredLength (buf.getD 0 0) + hmacSize ∧
          buf.getD 8 0 = cmdOnewayAddController) := by
  by_cases hmin : frameMinSize ≤ buf.length
  · obtain ⟨c0, c1, d0, d1, d2, s0, s1, s2, cmd, payload, rfl⟩ := header_of_length hmin
    have hlength : (c0 :: c1 :: d0 :: d1 :: d2 :: s0 :: s1 :: s2 :: cmd :: payload).length =
        payload.length + frameMinSize := rfl
    rw [hlength, List.getD_cons_zero, show (c0 :: c1 :: d0 :: d1 :: d2 :: s0 :: s1 :: s2 :: cmd ::
      payload).getD 8 0 = cmd from rfl, parse]
    simp only [frameCarriesMacTrailer, decide_eq_true_eq]
    split_ifs with hdeclared hplain htrailer
    · simp [Nat.not_le.mpr hdeclared]
    · simp [hplain, Nat.not_lt.mp hdeclared]
    · simp [htrailer, Nat.not_lt.mp hdeclared]
    · simp [hplain, htrailer]
  · have hnone : parse buf = none := by
      unfold parse
      split
      · simp [frameMinSize] at hmin
      · rfl
    rw [hnone]
    constructor
    · intro h
      cases h
    · rintro ⟨hdeclared, hlen | ⟨hlen, -⟩⟩ <;> omega

/-- What parses serializes back to the same buffer. -/
theorem serialize_parse {f : IoFrame} {buf : List UInt8} (h : parse buf = some f) :
    serialize f = some buf := by
  unfold parse at h
  split at h
  · next c0 c1 d0 d1 d2 s0 s1 s2 cmd payload =>
    split_ifs at h with hdeclared hplain htrailer
    · rw [← Option.some.inj h]
      have hlen : ¬ frameMinSize + payload.length ≠ declaredLength c0 := by omega
      simp only [serialize, frameLength, IoFrame.dataLen]
      rw [if_neg hdeclared, if_neg hlen, if_neg (by simp)]
      simp [NodeId.bytes]
    · rw [← Option.some.inj h]
      obtain ⟨hlong, hcmd⟩ := htrailer
      have htake : (payload.take (declaredLength c0 - frameMinSize)).length =
          declaredLength c0 - frameMinSize := by
        rw [List.length_take]
        omega
      have hlen : ¬ frameMinSize + (payload.take (declaredLength c0 - frameMinSize)).length ≠
          declaredLength c0 := by omega
      have hmac : (Vector.ofFn fun i : Fin 6 =>
          payload.getD (declaredLength c0 - frameMinSize + i) 0).toList =
          payload.drop (declaredLength c0 - frameMinSize) := by
        simp only [hmacSize] at hlong
        apply List.ext_getElem
        · rw [Vector.length_toList, List.length_drop]
          omega
        · intro i hi hi'
          rw [List.length_drop] at hi'
          rw [Vector.getElem_toList, Vector.getElem_ofFn, List.getElem_drop,
            List.getD_eq_getElem?_getD, List.getElem?_eq_getElem (by omega), Option.getD_some]
      simp only [serialize, frameLength, IoFrame.dataLen]
      rw [if_neg hdeclared, if_neg hlen, if_neg (by simp [hcmd]), Option.map_some,
        Option.getD_some, hmac]
      simp [NodeId.bytes, List.take_append_drop]
  · cases h

/-- A buffer whose declared length does not cover a header is refused, although its length and
command have the shape of a trailer. -/
theorem parse_refuses_short_declaration :
    let buf : List UInt8 := [0x04, 0, 0, 0, 0, 0, 0, 0, 0x30, 0, 0]
    frameMinSize ≤ buf.length ∧ buf.length = declaredLength (buf.getD 0 0) + hmacSize ∧
      buf.getD 8 0 = cmdOnewayAddController ∧ parse buf = none := by
  decide

/-- `parse` and `serialize` are inverse to each other, on exactly the buffers of a declared
length, and every frame that is built serializes. -/
theorem frame_codec :
    (∀ buf f, parse buf = some f → serialize f = some buf) ∧
    (∀ f buf, serialize f = some buf → parse buf = some f) ∧
    (∀ buf, (parse buf).isSome ↔ frameMinSize ≤ declaredLength (buf.getD 0 0) ∧
      (buf.length = declaredLength (buf.getD 0 0) ∨
        buf.length = declaredLength (buf.getD 0 0) + hmacSize ∧
          buf.getD 8 0 = cmdOnewayAddController)) ∧
    (∀ is2w start «end» lowPower cmd params f,
      setCmd (initFrame is2w start «end» lowPower) cmd params = some f →
        ∃ buf, serialize f = some buf) :=
  ⟨fun _ _ => serialize_parse, fun _ _ => parse_serialize, parse_isSome_iff,
    fun _ _ _ _ _ _ _ h => serialize_setCmd h rfl⟩

end HomeIoControl.ProtocolFrames
