import HomeIoControl.AuthenticatedSpans
import HomeIoControl.CorpusFrames
import Mathlib.Data.List.GetD

/-!
# The corpus tools' port of the cryptography

The proprietary part of the cryptography once more, over unbounded integers with masks and over
byte strings of any length, and its agreement with the firmware. A function that raises returns
`none`; the block cipher of the library is a parameter.
-/

namespace HomeIoControl.CorpusCrypto

open ProtocolFrames ProtocolCrypto CorpusFrames AuthenticatedSpans

/-- `TRANSFER_KEY`. -/
def transferKeyBytes : List UInt8 :=
  [0x34, 0xC3, 0x46, 0x6E, 0xD8, 0x8F, 0x4E, 0x8E, 0x16, 0xAA, 0x47, 0x39, 0x49, 0x88, 0x43, 0x73]

/-- `compute_checksum`, on integers. -/
def computeChecksum (byte c1 c2 : ℕ) : ℕ × ℕ :=
  let tmp := (byte ^^^ c2) &&& 0xFF
  let newC2 := ((c1 &&& 0x7F) <<< 1) &&& 0xFF
  let newC2 := if tmp ≥ 128 then newC2 ||| 1 else newC2
  if c1 &&& 0x80 = 0 then (newC2, (tmp <<< 1) &&& 0xFF)
  else ((newC2 ^^^ 0x55) &&& 0xFF, ((tmp <<< 1) ^^^ 0x5B) &&& 0xFF)

/-- Assigning an element of a `bytearray`; an integer that is no byte raises. -/
def setItem (bytes : List UInt8) (i value : ℕ) : Option (List UInt8) :=
  if i < bytes.length ∧ value < 256 then some (bytes.set i (UInt8.ofNat value)) else none

/-- The loop over the span, from index `i` on. -/
def spanLoop : ℕ → List UInt8 → List UInt8 → ℕ → ℕ → Option (List UInt8 × ℕ × ℕ)
  | _, [], iv, c1, c2 => some (iv, c1, c2)
  | i, byte :: data, iv, c1, c2 => do
    let c := computeChecksum byte.toNat c1 c2
    let iv ← (if i < 8 then setItem iv i byte.toNat else some iv)
    spanLoop (i + 1) data iv c.1 c.2

/-- The loop that pads bytes `i` to 7. -/
def padLoop (i : ℕ) (iv : List UInt8) : Option (List UInt8) :=
  (List.range' i (8 - i)).foldlM (fun iv i => setItem iv i ivPadding.toNat) iv

/-- The lines that `construct_iv` and `construct_iv_1w_sequence` share. -/
def ivCore (data : List UInt8) : Option (List UInt8) := do
  let (iv, c1, c2) ← spanLoop 0 data (List.replicate 16 0) 0 0
  let iv ← padLoop data.length iv
  let iv ← setItem iv 8 c1
  setItem iv 9 c2

/-- `construct_iv`. -/
def constructIv (data challenge : List UInt8) : Option (List UInt8) :=
  if challenge.length ≠ hmacSize then none
  else do
    let iv ← ivCore data
    some (iv.take 10 ++ challenge ++ iv.drop 16)

/-- `construct_iv_1w_sequence`. -/
def constructIv1wSequence (data : List UInt8) (sequence : ℕ) : Option (List UInt8) := do
  let iv ← ivCore data
  let iv ← setItem iv 10 ((sequence >>> 8) &&& 0xFF)
  let iv ← setItem iv 11 (sequence &&& 0xFF)
  [12, 13, 14, 15].foldlM (fun iv i => setItem iv i ivPadding.toNat) iv

/-- `construct_iv_1w_node`. -/
def constructIv1wNode (node : List UInt8) : Option (List UInt8) :=
  if node.length ≠ 3 then none else (List.range 16).mapM fun i => node[i % 3]?

section Cipher

variable (aes : BlockCipher)

/-- `aes128_ecb_encrypt_block`. -/
def ecbEncryptBlock (block key : List UInt8) : Option (List UInt8) := do
  let block ← exactly 16 block
  let key ← exactly 16 key
  some (aes block key).toList

def createHmac (data challenge key : List UInt8) : Option (List UInt8) := do
  let iv ← constructIv data challenge
  let encrypted ← ecbEncryptBlock aes iv key
  some (encrypted.take hmacSize)

def create1wHmac (data : List UInt8) (sequence : ℕ) (controllerKey : List UInt8) :
    Option (List UInt8) := do
  let iv ← constructIv1wSequence data sequence
  let encrypted ← ecbEncryptBlock aes iv controllerKey
  some (encrypted.take hmacSize)

/-- `crypt_key` under its default transfer key. -/
def cryptKey (data challenge inKey : List UInt8) : Option (List UInt8) :=
  if inKey.length ≠ 16 then none
  else do
    let iv ← constructIv data challenge
    let encIv ← ecbEncryptBlock aes iv transferKeyBytes
    some (List.zipWith (· ^^^ ·) inKey encIv)

/-- `crypt_1w_key` under its default transfer key. -/
def crypt1wKey (node inKey : List UInt8) : Option (List UInt8) :=
  if inKey.length ≠ 16 then none
  else do
    let iv ← constructIv1wNode node
    let encIv ← ecbEncryptBlock aes iv transferKeyBytes
    some (List.zipWith (· ^^^ ·) inKey encIv)

end Cipher

/-- One bit of `crc_ccitt`. -/
def crcBit (crc : ℕ) : ℕ := if crc &&& 0x0001 ≠ 0 then (crc >>> 1) ^^^ 0x8408 else crc >>> 1

def crcCcitt (data : List UInt8) : ℕ :=
  data.foldl (fun crc byte => Nat.repeat crcBit 8 (crc ^^^ byte.toNat)) 0x0000 &&& 0xFFFF

theorem carry_toNat : ∀ c : UInt8,
    ((c.toNat &&& 0x7F) <<< 1) &&& 0xFF = ((c &&& 0x7F) <<< 1).toNat ∧
      (((c.toNat &&& 0x7F) <<< 1) &&& 0xFF) ||| 1 = (((c &&& 0x7F) <<< 1) ||| 1).toNat ∧
      (c.toNat <<< 1) &&& 0xFF = (c <<< 1).toNat ∧
      ((c.toNat <<< 1) ^^^ 0x5B) &&& 0xFF = ((c <<< 1) ^^^ 0x5B).toNat ∧
      (c.toNat ^^^ 0x55) &&& 0xFF = (c ^^^ 0x55).toNat ∧
      (c.toNat &&& 0x80 = 0 ↔ c &&& 0x80 = 0) ∧ c.toNat &&& 0xFF = c.toNat :=
  forall_byte (by set_option maxRecDepth 4000 in decide)

/-- The masks keep the port's integers on the firmware's bytes. -/
theorem computeChecksum_toNat (byte : UInt8) (c : UInt8 × UInt8) :
    computeChecksum byte.toNat c.1.toNat c.2.toNat =
      ((ProtocolCrypto.computeChecksum c byte).1.toNat,
        (ProtocolCrypto.computeChecksum c byte).2.toNat) := by
  have htmp : (byte.toNat ^^^ c.2.toNat) &&& 0xFF = (byte ^^^ c.2).toNat := by
    rw [← UInt8.toNat_xor]
    exact (carry_toNat _).2.2.2.2.2.2
  have hcarried : (if (byte ^^^ c.2).toNat ≥ 128
      then (((c.1.toNat &&& 0x7F) <<< 1) &&& 0xFF) ||| 1
      else ((c.1.toNat &&& 0x7F) <<< 1) &&& 0xFF) =
      (carried c.1 (byte ^^^ c.2)).toNat := by
    obtain ⟨hclear, hset, -⟩ := carry_toNat c.1
    rw [hset, hclear, ← apply_ite UInt8.toNat, carried]
    rfl
  obtain ⟨-, -, hshift, hfeedback, -⟩ := carry_toNat (byte ^^^ c.2)
  obtain ⟨-, -, -, -, hmix, -⟩ := carry_toNat (carried c.1 (byte ^^^ c.2))
  obtain ⟨-, -, -, -, -, htop, -⟩ := carry_toNat c.1
  simp only [computeChecksum, htmp, hcarried, computeChecksum_eq, hshift, hfeedback, hmix, htop]
  split <;> rfl

theorem setItem_byte {bytes : List UInt8} {i : ℕ} (hi : i < bytes.length) (byte : UInt8) :
    setItem bytes i byte.toNat = some (bytes.set i byte) := by
  rw [setItem, if_pos ⟨hi, byte.toNat_lt⟩, UInt8.ofNat_toNat]

theorem getD_set {bytes : List UInt8} {i : ℕ} (hi : i < bytes.length) (byte : UInt8) (k : ℕ) :
    (bytes.set i byte).getD k 0 = if k = i then byte else bytes.getD k 0 := by
  rw [List.getD_eq_getElem?_getD, List.getElem?_set]
  by_cases h : i = k
  · subst h
    simp [hi]
  · simp [h, Ne.symm h]

/-- The loop copies the bytes below index 8 and folds the checksum over all of them. -/
theorem spanLoop_eq (data : List UInt8) (i : ℕ) (iv : List UInt8) (hiv : iv.length = 16)
    (c : UInt8 × UInt8) :
    ∃ iv', spanLoop i data iv c.1.toNat c.2.toNat =
        some (iv', (data.foldl ProtocolCrypto.computeChecksum c).1.toNat,
          (data.foldl ProtocolCrypto.computeChecksum c).2.toNat) ∧
      iv'.length = 16 ∧ ∀ k < 16, iv'.getD k 0 =
        if i ≤ k ∧ k < 8 ∧ k < i + data.length then data.getD (k - i) 0 else iv.getD k 0 := by
  induction data generalizing i iv c with
  | nil => exact ⟨iv, rfl, hiv, fun k _ => by rw [if_neg (by simp; omega)]⟩
  | cons byte data ih =>
    obtain ⟨next, hset, hnext, hread⟩ :
        ∃ next, (if i < 8 then setItem iv i byte.toNat else some iv) = some next ∧
          next.length = 16 ∧ ∀ k, next.getD k 0 = if k = i ∧ k < 8 then byte else iv.getD k 0 := by
      by_cases hi : i < 8
      · refine ⟨iv.set i byte, ?_, by simpa using hiv, fun k => ?_⟩
        · rw [if_pos hi, setItem_byte (by omega)]
        · rw [getD_set (by omega)]
          congr 1
          simp only [eq_iff_iff]
          omega
      · exact ⟨iv, if_neg hi, hiv, fun k => by rw [if_neg (by omega)]⟩
    obtain ⟨iv', hrun, hlength, hbytes⟩ :=
      ih (i + 1) next hnext (ProtocolCrypto.computeChecksum c byte)
    refine ⟨iv', ?_, hlength, fun k hk => ?_⟩
    · rw [spanLoop, hset, computeChecksum_toNat]
      exact hrun
    · rw [hbytes k hk, hread k]
      rcases Nat.lt_trichotomy k i with h | rfl | h
      · rw [if_neg (by omega), if_neg (by omega), if_neg (by omega)]
      · rw [if_neg (by omega)]
        simp
      · obtain ⟨m, rfl⟩ := Nat.exists_eq_add_of_lt h
        have hindex : i + m + 1 - i = m + 1 := by omega
        have hindex' : i + m + 1 - (i + 1) = m := by omega
        rw [hindex, hindex', List.getD_cons_succ, if_neg (show ¬ (i + m + 1 = i ∧ _) by omega)]
        simp only [List.length_cons]
        congr 1
        simp only [eq_iff_iff]
        omega

theorem assignments_eq (n i : ℕ) (h : n ≠ 0 → i + n ≤ 16) (iv : List UInt8) (hiv : iv.length = 16)
    (byte : UInt8) :
    ∃ iv', (List.range' i n).foldlM (fun iv i => setItem iv i byte.toNat) iv = some iv' ∧
      iv'.length = 16 ∧
      ∀ k < 16, iv'.getD k 0 = if i ≤ k ∧ k < i + n then byte else iv.getD k 0 := by
  induction n generalizing i iv with
  | zero => exact ⟨iv, rfl, hiv, fun k _ => by rw [if_neg (by omega)]⟩
  | succ n ih =>
    obtain ⟨iv', hrun, hlength, hbytes⟩ := ih (i + 1) (by omega) (iv.set i byte) (by simpa)
    refine ⟨iv', ?_, hlength, fun k hk => ?_⟩
    · rw [List.range'_succ, List.foldlM_cons, setItem_byte (by omega)]
      exact hrun
    · rw [hbytes k hk, getD_set (by omega)]
      split_ifs <;> first | rfl | omega

theorem eq_of_getD {a b : List UInt8} (ha : a.length = 16) (hb : b.length = 16)
    (h : ∀ k < 16, a.getD k 0 = b.getD k 0) : a = b := by
  apply List.ext_getElem (ha.trans hb.symm)
  intro k hka hkb
  simpa [List.getD_eq_getElem?_getD, hka, hkb] using h k (ha ▸ hka)

theorem prefix_getD (data : List UInt8) (k : ℕ) (hk : k < 16) :
    ((constructIvPrefix data).toList ++ List.replicate 6 0).getD k 0 =
      if k < 8 then data.getD k ivPadding
      else if k = 8 then (data.foldl ProtocolCrypto.computeChecksum (0, 0)).1
      else if k = 9 then (data.foldl ProtocolCrypto.computeChecksum (0, 0)).2 else 0 := by
  have hlist : (constructIvPrefix data).toList =
      (List.ofFn fun i : Fin 8 => data.getD i ivPadding) ++
        [(data.foldl ProtocolCrypto.computeChecksum (0, 0)).1,
          (data.foldl ProtocolCrypto.computeChecksum (0, 0)).2] := by
    rw [constructIvPrefix]
    exact (Vector.toList_append ..).trans (by rw [Vector.toList_ofFn]; rfl)
  rw [hlist, List.append_assoc]
  rcases Nat.lt_or_ge k 8 with h | h
  · rw [if_pos h, List.getD_append _ _ _ _ (by simpa using h), List.getD_eq_getElem _ _ (by simpa)]
    exact List.getElem_ofFn ..
  · obtain ⟨m, rfl⟩ := Nat.exists_eq_add_of_le h
    rw [if_neg (by omega), List.getD_append_right _ _ _ _ (by simp)]
    obtain _ | _ | m := m
    · simp
    · simp
    · rw [if_neg (by omega), if_neg (by omega)]
      rw [List.length_ofFn, show 8 + (m + 1 + 1) - 8 = m + 2 by omega]
      exact List.getD_replicate 0 (by omega)

/-- The prefix of the firmware's vector, followed by six bytes not yet assigned. -/
theorem ivCore_eq (data : List UInt8) :
    ivCore data = some ((constructIvPrefix data).toList ++ List.replicate 6 0) := by
  obtain ⟨copied, hspan, hcopied, hcopy⟩ :=
    spanLoop_eq data 0 (List.replicate 16 0) (by simp) (0, 0)
  obtain ⟨padded, hpad, hpadded, hfill⟩ :=
    assignments_eq (8 - data.length) data.length (by omega) copied hcopied ivPadding
  set c := data.foldl ProtocolCrypto.computeChecksum (0, 0) with hc
  have hrun : ivCore data = some ((padded.set 8 c.1).set 9 c.2) := by
    have hspan' : spanLoop 0 data (List.replicate 16 0) 0 0 = _ := hspan
    simp only [ivCore, padLoop, hspan', Option.bind_eq_bind, Option.bind_some, hpad]
    rw [setItem_byte (by omega), Option.bind_some, setItem_byte (by simp; omega)]
  rw [hrun]
  congr 1
  refine eq_of_getD (by simpa) (by simp) fun k hk => ?_
  rw [getD_set (by simp; omega), getD_set (by omega), hfill k hk, hcopy k hk, prefix_getD data k hk,
    ← hc]
  rcases Nat.lt_or_ge k 8 with h8 | h8
  · rw [if_neg (by omega), if_neg (by omega), if_pos h8]
    rcases Nat.lt_or_ge k data.length with hlt | hge
    · rw [if_neg (by omega), if_pos (by omega)]
      simp [hlt]
    · rw [if_pos (by omega)]
      simp [hge]
  · rw [if_neg (show ¬ k < 8 by omega), if_neg (show ¬ (data.length ≤ k ∧ _) by omega),
      if_neg (show ¬ (0 ≤ k ∧ _) by omega)]
    rw [List.getD_replicate 0 hk]
    split_ifs <;> first | rfl | omega

theorem constructIv_eq (data : List UInt8) (challenge : Challenge) :
    constructIv data challenge.toList =
      some (ProtocolCrypto.constructIv data challenge).toList := by
  have hlist : (ProtocolCrypto.constructIv data challenge).toList =
      (constructIvPrefix data).toList ++ challenge.toList := Vector.toList_append ..
  simp [constructIv, ivCore_eq, hmacSize, hlist]

theorem constructIv1wSequence_eq (data : List UInt8) (sequence : UInt16) :
    constructIv1wSequence data sequence.toNat =
      some (ProtocolCrypto.constructIv1wSequence data sequence).toList := by
  have hlist : (ProtocolCrypto.constructIv1wSequence data sequence).toList =
      (constructIvPrefix data).toList ++ [(sequence >>> 8).toUInt8, sequence.toUInt8, ivPadding,
        ivPadding, ivPadding, ivPadding] := (Vector.toList_append ..).trans rfl
  have hhigh : (sequence.toNat >>> 8) &&& 0xFF = (sequence >>> 8).toUInt8.toNat := by
    simp [Nat.and_two_pow_sub_one_eq_mod _ 8]
  have hlow : sequence.toNat &&& 0xFF = sequence.toUInt8.toNat := by
    simp [Nat.and_two_pow_sub_one_eq_mod _ 8]
  simp only [constructIv1wSequence, ivCore_eq, hhigh, hlow, Option.bind_eq_bind, Option.bind_some,
    List.foldlM_cons, List.foldlM_nil, hlist]
  -- six assignments behind the ten bytes of the prefix
  repeat rw [setItem_byte (by simp), Option.bind_some]
  simp

theorem constructIv1wNode_eq (node : NodeId) :
    constructIv1wNode node.bytes = some (ProtocolCrypto.constructIv1wNode node).toList := rfl

theorem crcBit_toNat (crc : UInt16) : crcBit crc.toNat = (ProtocolFrames.crcBit crc).toNat := by
  have hlow : crc.toNat &&& 1 ≠ 0 ↔ crc &&& 1 ≠ 0 := by
    rw [ne_eq, ne_eq, ← UInt16.toNat_inj, UInt16.toNat_and]
    rfl
  simp only [crcBit, ProtocolFrames.crcBit, hlow, crcPolynomialReversed]
  split <;> simp

theorem crcCcitt_eq (data : List UInt8) : crcCcitt data = (ProtocolFrames.crcCcitt data).toNat := by
  have hbits (n : ℕ) (crc : UInt16) :
      Nat.repeat crcBit n crc.toNat = (Nat.repeat ProtocolFrames.crcBit n crc).toNat := by
    induction n with
    | zero => rfl
    | succ n ih => rw [Nat.repeat, ih, crcBit_toNat]; rfl
  have hfold (crc : UInt16) :
      data.foldl (fun crc byte => Nat.repeat crcBit 8 (crc ^^^ byte.toNat)) crc.toNat =
        (data.foldl (fun crc byte => Nat.repeat ProtocolFrames.crcBit 8 (crc ^^^ byte.toUInt16))
          crc).toNat := by
    induction data generalizing crc with
    | nil => rfl
    | cons byte data ih =>
      rw [List.foldl_cons, List.foldl_cons, ← ih, ← hbits, UInt16.toNat_xor, UInt8.toNat_toUInt16]
  have hstart := hfold 0
  rw [crcCcitt, ProtocolFrames.crcCcitt, show (0x0000 : ℕ) = (0 : UInt16).toNat from rfl, hstart,
    Nat.and_two_pow_sub_one_eq_mod _ 16, Nat.mod_eq_of_lt (UInt16.toNat_lt _)]

section Cipher

variable (aes : BlockCipher)

@[simp] theorem ecbEncryptBlock_toList (block key : Block) :
    ecbEncryptBlock aes block.toList key.toList = some (aes block key).toList := by
  simp [ecbEncryptBlock]

theorem transferKeyBytes_eq : transferKeyBytes = transferKey.toList := rfl

theorem createHmac_eq (data : List UInt8) (challenge : Challenge) (key : Block) :
    createHmac aes data challenge.toList key.toList =
      some ((aes (ProtocolCrypto.constructIv data challenge) key).toList.take hmacSize) := by
  simp [createHmac, constructIv_eq]

theorem create1wHmac_eq (data : List UInt8) (sequence : UInt16) (key : Block) :
    create1wHmac aes data sequence.toNat key.toList =
      some (CorpusFrames.create1wHmac aes data sequence key) := by
  simp [create1wHmac, constructIv1wSequence_eq, CorpusFrames.create1wHmac]

theorem zipWith_xor (a b : Block) :
    List.zipWith (· ^^^ ·) a.toList b.toList = (xorBlocks a b).toList := by
  simp [xorBlocks]

theorem cryptKey_eq (data : List UInt8) (challenge : Challenge) (inKey : Block) :
    cryptKey aes data challenge.toList inKey.toList =
      some (xorBlocks inKey
        (aes (ProtocolCrypto.constructIv data challenge) transferKey)).toList := by
  simp [cryptKey, constructIv_eq, transferKeyBytes_eq, zipWith_xor]

theorem crypt1wKey_eq (node : NodeId) (inKey : Block) :
    crypt1wKey aes node.bytes inKey.toList =
      some (xorBlocks inKey (aes (ProtocolCrypto.constructIv1wNode node) transferKey)).toList := by
  simp [crypt1wKey, constructIv1wNode_eq, transferKeyBytes_eq, zipWith_xor]

/-- With the block cipher of AES the port returns the bytes of the firmware, on every span. -/
theorem port_agrees (haes : ∀ block key, aes block key = aes128Encrypt block key)
    (data : List UInt8) (challenge : Challenge) (sequence : UInt16) (node : NodeId)
    (key : Block) :
    constructIv data challenge.toList = some (ProtocolCrypto.constructIv data challenge).toList ∧
      constructIv1wSequence data sequence.toNat =
        some (ProtocolCrypto.constructIv1wSequence data sequence).toList ∧
      constructIv1wNode node.bytes = some (ProtocolCrypto.constructIv1wNode node).toList ∧
      createHmac aes data challenge.toList key.toList =
        some (ProtocolCrypto.createHmac data challenge key).toList ∧
      create1wHmac aes data sequence.toNat key.toList =
        some (ProtocolCrypto.create1wHmac data sequence key).toList ∧
      cryptKey aes data challenge.toList key.toList =
        some (ProtocolCrypto.cryptKey data challenge key).toList ∧
      crypt1wKey aes node.bytes key.toList = some (ProtocolCrypto.crypt1wKey node key).toList ∧
      crcCcitt data = (ProtocolFrames.crcCcitt data).toNat := by
  refine ⟨constructIv_eq data challenge, constructIv1wSequence_eq data sequence,
    constructIv1wNode_eq node, ?_, ?_, ?_, ?_, crcCcitt_eq data⟩
  · rw [createHmac_eq, haes, hmacSize, ← Vector.toList_take]
    rfl
  · rw [create1wHmac_eq, CorpusFrames.create1wHmac, haes, hmacSize, ← Vector.toList_take]
    rfl
  · rw [cryptKey_eq, haes]
    rfl
  · rw [crypt1wKey_eq, haes]
    rfl

theorem port_agrees_aes :
    createHmac aes128Encrypt [0x32] (Vector.replicate 6 7).toList transferKey.toList =
      some (ProtocolCrypto.createHmac [0x32] (Vector.replicate 6 7) transferKey).toList :=
  (port_agrees aes128Encrypt (fun _ _ => rfl) [0x32] (Vector.replicate 6 7) 0 ⟨0, 0, 0⟩
    transferKey).2.2.2.1

end Cipher

end HomeIoControl.CorpusCrypto
