import HomeIoControl.ProtocolCrypto
import Mathlib.Data.Finite.Prod
import Mathlib.Tactic.IntervalCases

/-!
# AES-128 decryption

The decryption side of the AES-128 helper, and the two directions in which it undoes the
encryption side.
-/

namespace HomeIoControl.AesInverse

open ProtocolFrames ProtocolCrypto

set_option maxRecDepth 2000 in
def aesInvSbox : Array UInt8 := #[
  0x52, 0x09, 0x6A, 0xD5, 0x30, 0x36, 0xA5, 0x38, 0xBF, 0x40, 0xA3, 0x9E, 0x81, 0xF3, 0xD7, 0xFB,
  0x7C, 0xE3, 0x39, 0x82, 0x9B, 0x2F, 0xFF, 0x87, 0x34, 0x8E, 0x43, 0x44, 0xC4, 0xDE, 0xE9, 0xCB,
  0x54, 0x7B, 0x94, 0x32, 0xA6, 0xC2, 0x23, 0x3D, 0xEE, 0x4C, 0x95, 0x0B, 0x42, 0xFA, 0xC3, 0x4E,
  0x08, 0x2E, 0xA1, 0x66, 0x28, 0xD9, 0x24, 0xB2, 0x76, 0x5B, 0xA2, 0x49, 0x6D, 0x8B, 0xD1, 0x25,
  0x72, 0xF8, 0xF6, 0x64, 0x86, 0x68, 0x98, 0x16, 0xD4, 0xA4, 0x5C, 0xCC, 0x5D, 0x65, 0xB6, 0x92,
  0x6C, 0x70, 0x48, 0x50, 0xFD, 0xED, 0xB9, 0xDA, 0x5E, 0x15, 0x46, 0x57, 0xA7, 0x8D, 0x9D, 0x84,
  0x90, 0xD8, 0xAB, 0x00, 0x8C, 0xBC, 0xD3, 0x0A, 0xF7, 0xE4, 0x58, 0x05, 0xB8, 0xB3, 0x45, 0x06,
  0xD0, 0x2C, 0x1E, 0x8F, 0xCA, 0x3F, 0x0F, 0x02, 0xC1, 0xAF, 0xBD, 0x03, 0x01, 0x13, 0x8A, 0x6B,
  0x3A, 0x91, 0x11, 0x41, 0x4F, 0x67, 0xDC, 0xEA, 0x97, 0xF2, 0xCF, 0xCE, 0xF0, 0xB4, 0xE6, 0x73,
  0x96, 0xAC, 0x74, 0x22, 0xE7, 0xAD, 0x35, 0x85, 0xE2, 0xF9, 0x37, 0xE8, 0x1C, 0x75, 0xDF, 0x6E,
  0x47, 0xF1, 0x1A, 0x71, 0x1D, 0x29, 0xC5, 0x89, 0x6F, 0xB7, 0x62, 0x0E, 0xAA, 0x18, 0xBE, 0x1B,
  0xFC, 0x56, 0x3E, 0x4B, 0xC6, 0xD2, 0x79, 0x20, 0x9A, 0xDB, 0xC0, 0xFE, 0x78, 0xCD, 0x5A, 0xF4,
  0x1F, 0xDD, 0xA8, 0x33, 0x88, 0x07, 0xC7, 0x31, 0xB1, 0x12, 0x10, 0x59, 0x27, 0x80, 0xEC, 0x5F,
  0x60, 0x51, 0x7F, 0xA9, 0x19, 0xB5, 0x4A, 0x0D, 0x2D, 0xE5, 0x7A, 0x9F, 0x93, 0xC9, 0x9C, 0xEF,
  0xA0, 0xE0, 0x3B, 0x4D, 0xAE, 0x2A, 0xF5, 0xB0, 0xC8, 0xEB, 0xBB, 0x3C, 0x83, 0x53, 0x99, 0x61,
  0x17, 0x2B, 0x04, 0x7E, 0xBA, 0x77, 0xD6, 0x26, 0xE1, 0x69, 0x14, 0x63, 0x55, 0x21, 0x0C, 0x7D]

def invSubByte (b : UInt8) : UInt8 := aesInvSbox.getD b.toNat 0

def aesInvSubBytes (state : Block) : Block := state.map invSubByte

def aesInvShiftRows (t : Block) : Block :=
  #v[t.get 0, t.get 13, t.get 10, t.get 7, t.get 4, t.get 1, t.get 14, t.get 11,
     t.get 8, t.get 5, t.get 2, t.get 15, t.get 12, t.get 9, t.get 6, t.get 3]

/-- One column of `aes_inv_mix_columns`. -/
def aesInvMixColumn (a0 a1 a2 a3 : UInt8) : Vector UInt8 4 :=
  #v[aesMul a0 0x0E ^^^ aesMul a1 0x0B ^^^ aesMul a2 0x0D ^^^ aesMul a3 0x09,
     aesMul a0 0x09 ^^^ aesMul a1 0x0E ^^^ aesMul a2 0x0B ^^^ aesMul a3 0x0D,
     aesMul a0 0x0D ^^^ aesMul a1 0x09 ^^^ aesMul a2 0x0E ^^^ aesMul a3 0x0B,
     aesMul a0 0x0B ^^^ aesMul a1 0x0D ^^^ aesMul a2 0x09 ^^^ aesMul a3 0x0E]

def aesInvMixColumns (s : Block) : Block :=
  aesInvMixColumn (s.get 0) (s.get 1) (s.get 2) (s.get 3) ++
    aesInvMixColumn (s.get 4) (s.get 5) (s.get 6) (s.get 7) ++
    aesInvMixColumn (s.get 8) (s.get 9) (s.get 10) (s.get 11) ++
    aesInvMixColumn (s.get 12) (s.get 13) (s.get 14) (s.get 15)

/-- `aes128_decrypt`; the rounds run from 9 down to 1. -/
def aes128Decrypt (block key : Block) : Block :=
  let roundKeys := aesExpandKey key
  let state := (List.range' 1 9).reverse.foldl
    (fun state round =>
      aesInvMixColumns (aesAddRoundKey (aesInvSubBytes (aesInvShiftRows state)) roundKeys round))
    (aesAddRoundKey block roundKeys 10)
  aesAddRoundKey (aesInvSubBytes (aesInvShiftRows state)) roundKeys 0

theorem and_high_bit : ∀ b : UInt8, b &&& 0x80 = 0 ∨ b &&& 0x80 = 0x80 :=
  forall_byte (by set_option maxRecDepth 4000 in decide)

theorem and_xor_distrib (a b mask : UInt8) :
    (a ^^^ b) &&& mask = (a &&& mask) ^^^ (b &&& mask) := by
  apply UInt8.toNat_inj.mp
  simp [Nat.and_xor_distrib_right]

/-- Doubling in the field, one turn of the loop of `aes_mul`. -/
def doubled (a : UInt8) : UInt8 := if a &&& 0x80 ≠ 0 then (a <<< 1) ^^^ 0x1B else a <<< 1

theorem doubled_xor (a b : UInt8) : doubled (a ^^^ b) = doubled a ^^^ doubled b := by
  simp only [doubled, UInt8.shiftLeft_xor, and_xor_distrib]
  generalize a <<< 1 = a', b <<< 1 = b'
  rcases and_high_bit a with ha | ha <;> rcases and_high_bit b with hb | hb <;> rw [ha, hb]
  · simp
  · simp [UInt8.xor_assoc]
  · change a' ^^^ b' ^^^ 0x1B = (a' ^^^ 0x1B) ^^^ b'
    ac_rfl
  · change a' ^^^ b' = (a' ^^^ 0x1B) ^^^ (b' ^^^ 0x1B)
    calc a' ^^^ b' = a' ^^^ b' ^^^ (0x1B ^^^ 0x1B) := by simp
      _ = (a' ^^^ 0x1B) ^^^ (b' ^^^ 0x1B) := by ac_rfl

theorem aesMulLoop_xor (rounds : ℕ) (a b factor r s : UInt8) :
    aesMulLoop rounds (a ^^^ b) factor (r ^^^ s) =
      aesMulLoop rounds a factor r ^^^ aesMulLoop rounds b factor s := by
  induction rounds generalizing a b factor r s with
  | zero => rfl
  | succ rounds ih =>
    change aesMulLoop rounds (doubled (a ^^^ b)) _ _ =
      aesMulLoop rounds (doubled a) _ _ ^^^ aesMulLoop rounds (doubled b) _ _
    rw [doubled_xor, ← ih]
    congr 1
    split
    · ac_rfl
    · rfl

theorem aesMul_xor (a b factor : UInt8) :
    aesMul (a ^^^ b) factor = aesMul a factor ^^^ aesMul b factor := by
  simpa [aesMul] using aesMulLoop_xor 8 a b factor 0 0

section Coefficients

variable (a : UInt8)

theorem aesMul_two : aesMul a 0x02 = doubled a := by
  change 0 ^^^ doubled a = _
  rw [UInt8.zero_xor]

theorem aesMul_three : aesMul a 0x03 = a ^^^ doubled a := by
  change 0 ^^^ a ^^^ doubled a = _
  rw [UInt8.zero_xor]

theorem aesMul_nine : aesMul a 0x09 = a ^^^ doubled (doubled (doubled a)) := by
  change 0 ^^^ a ^^^ doubled (doubled (doubled a)) = _
  rw [UInt8.zero_xor]

theorem aesMul_eleven : aesMul a 0x0B = a ^^^ doubled a ^^^ doubled (doubled (doubled a)) := by
  change 0 ^^^ a ^^^ doubled a ^^^ doubled (doubled (doubled a)) = _
  rw [UInt8.zero_xor]

theorem aesMul_thirteen :
    aesMul a 0x0D = a ^^^ doubled (doubled a) ^^^ doubled (doubled (doubled a)) := by
  change 0 ^^^ a ^^^ doubled (doubled a) ^^^ doubled (doubled (doubled a)) = _
  rw [UInt8.zero_xor]

theorem aesMul_fourteen :
    aesMul a 0x0E = doubled a ^^^ doubled (doubled a) ^^^ doubled (doubled (doubled a)) := by
  change 0 ^^^ doubled a ^^^ doubled (doubled a) ^^^ doubled (doubled (doubled a)) = _
  rw [UInt8.zero_xor]

theorem xor_xor_self (b : UInt8) : a ^^^ (a ^^^ b) = b := by
  rw [← UInt8.xor_assoc, UInt8.xor_self, UInt8.zero_xor]

theorem xor_left_comm (b c : UInt8) : a ^^^ (b ^^^ c) = b ^^^ (a ^^^ c) := by ac_rfl

/-- The entries of the product of the two matrices: one on the diagonal, none elsewhere. -/
theorem invMix_mix :
    aesMul (aesMul a 0x02) 0x0E ^^^ aesMul a 0x0B ^^^ aesMul a 0x0D ^^^
        aesMul (aesMul a 0x03) 0x09 = a ∧
      aesMul (aesMul a 0x03) 0x0E ^^^ aesMul (aesMul a 0x02) 0x0B ^^^ aesMul a 0x0D ^^^
        aesMul a 0x09 = 0 ∧
      aesMul a 0x0E ^^^ aesMul (aesMul a 0x03) 0x0B ^^^ aesMul (aesMul a 0x02) 0x0D ^^^
        aesMul a 0x09 = 0 ∧
      aesMul a 0x0E ^^^ aesMul a 0x0B ^^^ aesMul (aesMul a 0x03) 0x0D ^^^
        aesMul (aesMul a 0x02) 0x09 = 0 := by
  simp only [aesMul_two, aesMul_three, aesMul_nine, aesMul_eleven, aesMul_thirteen,
    aesMul_fourteen, doubled_xor]
  -- as polynomials the products have degree four at most, so every power cancels by itself
  refine ⟨?_, ?_, ?_, ?_⟩ <;>
    simp only [UInt8.xor_assoc, UInt8.xor_comm, xor_left_comm, xor_xor_self, UInt8.xor_self,
      UInt8.xor_zero]

end Coefficients

/-- The sum of the four products of one row of the inverse matrix with the mixed column. -/
theorem invMix_row (a b c d : UInt8) :
    aesMul (aesMul a 0x02 ^^^ aesMul b 0x03 ^^^ c ^^^ d) 0x0E ^^^
      aesMul (a ^^^ aesMul b 0x02 ^^^ aesMul c 0x03 ^^^ d) 0x0B ^^^
      aesMul (a ^^^ b ^^^ aesMul c 0x02 ^^^ aesMul d 0x03) 0x0D ^^^
      aesMul (aesMul a 0x03 ^^^ b ^^^ c ^^^ aesMul d 0x02) 0x09 = a := by
  simp only [aesMul_xor]
  calc _ = (aesMul (aesMul a 0x02) 0x0E ^^^ aesMul a 0x0B ^^^ aesMul a 0x0D ^^^
          aesMul (aesMul a 0x03) 0x09) ^^^
        (aesMul (aesMul b 0x03) 0x0E ^^^ aesMul (aesMul b 0x02) 0x0B ^^^ aesMul b 0x0D ^^^
          aesMul b 0x09) ^^^
        (aesMul c 0x0E ^^^ aesMul (aesMul c 0x03) 0x0B ^^^ aesMul (aesMul c 0x02) 0x0D ^^^
          aesMul c 0x09) ^^^
        (aesMul d 0x0E ^^^ aesMul d 0x0B ^^^ aesMul (aesMul d 0x03) 0x0D ^^^
          aesMul (aesMul d 0x02) 0x09) := by ac_rfl
    _ = a := by
      rw [(invMix_mix a).1, (invMix_mix b).2.1, (invMix_mix c).2.2.1, (invMix_mix d).2.2.2]
      simp

/-- Mixing a column and mixing it back; the four rows are rotations of one. -/
theorem aesInvMixColumn_mix (a b c d : UInt8) :
    aesInvMixColumn (aesMixColumn a b c d)[0] (aesMixColumn a b c d)[1]
      (aesMixColumn a b c d)[2] (aesMixColumn a b c d)[3] = #v[a, b, c, d] := by
  apply Vector.ext
  intro i hi
  simp only [aesMixColumn, aesInvMixColumn, Vector.getElem_mk, List.getElem_toArray,
    List.getElem_cons_zero, List.getElem_cons_succ]
  obtain rfl | rfl | rfl | rfl : i = 0 ∨ i = 1 ∨ i = 2 ∨ i = 3 := by omega
  · exact invMix_row a b c d
  · exact Eq.trans (by simp only [List.getElem_cons_zero, List.getElem_cons_succ]; ac_rfl)
      (invMix_row b c d a)
  · exact Eq.trans (by simp only [List.getElem_cons_zero, List.getElem_cons_succ]; ac_rfl)
      (invMix_row c d a b)
  · exact Eq.trans (by simp only [List.getElem_cons_zero, List.getElem_cons_succ]; ac_rfl)
      (invMix_row d a b c)

theorem sbox_inverted :
    aesSbox.toList.map (fun b => aesInvSbox.toList.getD b.toNat 0) =
      (List.range 256).map UInt8.ofNat := by
  decide +kernel

theorem invSubByte_subByte (b : UInt8) : invSubByte (subByte b) = b := by
  have hb := b.toNat_lt
  have hlt : b.toNat < aesSbox.toList.length := by
    have hsize : aesSbox.toList.length = 256 := by decide +kernel
    omega
  have hentry := congrArg (·[b.toNat]?) sbox_inverted
  simp only [List.getElem?_map, List.getElem?_eq_getElem hlt, Option.map_some,
    List.getElem?_range hb, UInt8.ofNat_toNat, Option.some.injEq] at hentry
  simpa [invSubByte, subByte, Array.getD_eq_getD_getElem?, ← Array.getElem?_toList,
    List.getD_eq_getElem?_getD, List.getElem?_eq_getElem hlt] using hentry

variable (state : Block)

@[simp] theorem aesInvSubBytes_sub : aesInvSubBytes (aesSubBytes state) = state := by
  apply Vector.ext
  intro i hi
  simp [aesInvSubBytes, aesSubBytes, invSubByte_subByte]

@[simp] theorem aesInvShiftRows_shift : aesInvShiftRows (aesShiftRows state) = state := by
  apply Vector.ext
  intro i hi
  interval_cases i <;> rfl

theorem getElem_columns (u v w x : Vector UInt8 4) (i : ℕ) (hi : i < 4 + 4 + 4 + 4) :
    (u ++ v ++ w ++ x)[i] =
      if h : i < 4 then u[i] else if h : i < 8 then v[i - 4] else if h : i < 12 then w[i - 8]
        else x[i - 12] := by
  rw [Vector.getElem_append]
  split
  case isFalse => rw [dif_neg (show ¬ i < 4 by omega), dif_neg (show ¬ i < 8 by omega)]
  case isTrue =>
    rw [Vector.getElem_append]
    split
    case isFalse => rw [dif_neg (show ¬ i < 4 by omega)]
    case isTrue => rw [Vector.getElem_append]

theorem aesInvMixColumns_append (u v w x : Vector UInt8 4) :
    aesInvMixColumns (u ++ v ++ w ++ x) =
      aesInvMixColumn u[0] u[1] u[2] u[3] ++ aesInvMixColumn v[0] v[1] v[2] v[3] ++
        aesInvMixColumn w[0] w[1] w[2] w[3] ++ aesInvMixColumn x[0] x[1] x[2] x[3] := by
  have hget : ∀ i : Fin 16, (u ++ v ++ w ++ x).get i = (u ++ v ++ w ++ x)[i.val] := fun _ => rfl
  simp [aesInvMixColumns, hget, getElem_columns]

@[simp] theorem aesInvMixColumns_mix : aesInvMixColumns (aesMixColumns state) = state := by
  rw [aesMixColumns, aesInvMixColumns_append]
  simp only [aesInvMixColumn_mix]
  apply Vector.ext
  intro i hi
  rw [getElem_columns]
  interval_cases i <;> rfl

@[simp] theorem aesAddRoundKey_twice (roundKeys : List UInt8) (round : ℕ) :
    aesAddRoundKey (aesAddRoundKey state roundKeys round) roundKeys round = state :=
  xorBlocks_cancel state _

/-- Rounds run backwards undo rounds run forwards, seen through `view`. -/
theorem foldl_reverse_undo {σ τ ρ : Type} {next : σ → ρ → σ} {back : τ → ρ → τ} (view : σ → τ)
    (h : ∀ s r, back (view (next s r)) r = view s) (rounds : List ρ) (s : σ) :
    rounds.reverse.foldl back (view (rounds.foldl next s)) = view s := by
  induction rounds generalizing s with
  | nil => rfl
  | cons round rounds ih => 
    simp only [List.reverse_cons, List.foldl_append, List.foldl_cons, List.foldl_nil, ih, h]

theorem decrypt_encrypt (block key : Block) :
    aes128Decrypt (aes128Encrypt block key) key = block := by
  simp only [aes128Decrypt, aes128Encrypt, aesAddRoundKey_twice]
  rw [foldl_reverse_undo fun state => aesShiftRows (aesSubBytes state)]
  · simp
  · intro state round
    simp

theorem finite_block : Finite Block := by
  have hbyte : Finite UInt8 := Finite.of_injective UInt8.toFin fun _ _ => UInt8.toFin_inj.mp
  exact Finite.of_injective (fun (block : Block) (i : Fin 16) => block[i]) fun a b h =>
    Vector.ext fun i hi => congrFun h ⟨i, hi⟩

/-- Encryption and decryption under one key undo each other, in both orders. -/
theorem aes128_inverse (block key : Block) :
    aes128Decrypt (aes128Encrypt block key) key = block ∧
      aes128Encrypt (aes128Decrypt block key) key = block := by
  have hleft : Function.LeftInverse (aes128Decrypt · key) (aes128Encrypt · key) :=
    fun block => decrypt_encrypt block key
  -- a block has finitely many values, so what undoes encryption is also undone by it
  have hfinite := finite_block
  have hright := hleft.rightInverse_of_surjective
    (Finite.injective_iff_surjective.mp hleft.injective)
  exact ⟨hleft block, hright block⟩

end HomeIoControl.AesInverse
