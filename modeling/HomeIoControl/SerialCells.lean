import Mathlib.Data.List.Basic
import Mathlib.Data.List.TakeDrop
import Mathlib.Tactic.Common

/-!
# Bytes as bits, and bytes as serial cells

A buffer shows its bytes from the most significant bit; a serial line sends a byte as a cell of
ten bits, a low start bit, the byte from its least significant bit, and a high stop bit. A reader
of cells stops at the first ten bits that are not a cell.
-/

namespace HomeIoControl.SerialCells

def msbBits (b : UInt8) : List Bool := (List.range 8).map fun i => b.toNat.testBit (7 - i)

/-- The bits of a buffer, each byte from its most significant bit. -/
def bitsOf (bytes : List UInt8) : List Bool := bytes.flatMap msbBits

@[simp] theorem length_msbBits (b : UInt8) : (msbBits b).length = 8 := rfl

theorem getElem?_msbBits (b : UInt8) {i : ℕ} (h : i < 8) :
    (msbBits b)[i]? = some (b.toNat.testBit (7 - i)) := by
  rw [msbBits, List.getElem?_map, List.getElem?_range h, Option.map_some]

@[simp] theorem bitsOf_nil : bitsOf [] = [] := rfl

@[simp] theorem bitsOf_cons (b : UInt8) (bytes : List UInt8) :
    bitsOf (b :: bytes) = msbBits b ++ bitsOf bytes := rfl

@[simp] theorem length_bitsOf (bytes : List UInt8) : (bitsOf bytes).length = 8 * bytes.length := by
  induction bytes with
  | nil => rfl
  | cons b bytes ih =>
    rw [bitsOf_cons, List.length_append, ih, length_msbBits, List.length_cons]
    omega

theorem msbBits_injective {a b : UInt8} (h : msbBits a = msbBits b) : a = b := by
  apply UInt8.toNat_inj.mp
  apply Nat.eq_of_testBit_eq
  intro i
  by_cases hi : i < 8
  · have hbit := congrArg (fun bits => bits[7 - i]?) h
    have hback : 7 - (7 - i) = i := by omega
    simpa [getElem?_msbBits _ (show 7 - i < 8 by omega), hback] using hbit
  · have hwide : 2 ^ 8 ≤ 2 ^ i := Nat.pow_le_pow_right (by decide) (Nat.not_lt.mp hi)
    rw [Nat.testBit_lt_two_pow (Nat.lt_of_lt_of_le a.toNat_lt hwide),
      Nat.testBit_lt_two_pow (Nat.lt_of_lt_of_le b.toNat_lt hwide)]

theorem bitsOf_injective {xs ys : List UInt8} (h : bitsOf xs = bitsOf ys) : xs = ys := by
  induction xs generalizing ys with
  | nil =>
    cases ys with
    | nil => rfl
    | cons y ys => cases h
  | cons x xs ih =>
    cases ys with
    | nil => cases h
    | cons y ys =>
      rw [bitsOf_cons, bitsOf_cons] at h
      obtain ⟨hbyte, hrest⟩ := List.append_inj h rfl
      rw [msbBits_injective hbyte, ih hrest]

theorem getElem?_bitsOf {bytes : List UInt8} {p : ℕ} (h : p < 8 * bytes.length) :
    (bitsOf bytes)[p]? = some ((bytes.getD (p / 8) 0).toNat.testBit (7 - p % 8)) := by
  induction bytes generalizing p with
  | nil => simp at h
  | cons b bytes ih =>
    rw [bitsOf_cons]
    by_cases hp : p < 8
    · rw [List.getElem?_append_left (by simpa using hp), getElem?_msbBits b hp,
        Nat.div_eq_of_lt hp, Nat.mod_eq_of_lt hp]
      rfl
    · have hrest : p - 8 < 8 * bytes.length := by
        rw [List.length_cons] at h
        omega
      rw [List.getElem?_append_right (by simpa using Nat.not_lt.mp hp), length_msbBits, ih hrest]
      have hdiv : p / 8 = (p - 8) / 8 + 1 := by omega
      have hmod : p % 8 = (p - 8) % 8 := by omega
      rw [hdiv, hmod, List.getD_cons_succ]

theorem bitsOf_take (n : ℕ) (bytes : List UInt8) :
    bitsOf (bytes.take n) = (bitsOf bytes).take (8 * n) := by
  induction bytes generalizing n with
  | nil => simp
  | cons b bytes ih =>
    cases n with
    | zero => simp
    | succ n =>
      have hhead : (msbBits b).take (8 * (n + 1)) = msbBits b :=
        List.take_of_length_le (by rw [length_msbBits]; omega)
      have hcount : 8 * (n + 1) - 8 = 8 * n := by omega
      rw [List.take_succ_cons, bitsOf_cons, bitsOf_cons, ih, List.take_append, length_msbBits,
        hhead, hcount]

/-- Set one bit of a buffer. -/
def setBit (bytes : List UInt8) (p : ℕ) : List UInt8 :=
  bytes.modify (p / 8) (· ||| 1 <<< UInt8.ofNat (7 - p % 8))

private theorem msbBits_or (b : UInt8) {i : ℕ} (h : i < 8) :
    msbBits (b ||| 1 <<< UInt8.ofNat (7 - i)) = (msbBits b).set i true := by
  have hmask : ((1 : UInt8) <<< UInt8.ofNat (7 - i)).toNat = 2 ^ (7 - i) := by
    have hmasks : ∀ i : Fin 8, ((1 : UInt8) <<< UInt8.ofNat (7 - i)).toNat = 2 ^ (7 - i.val) := by
      decide
    exact hmasks ⟨i, h⟩
  apply List.ext_getElem?
  intro j
  by_cases hj : j < 8
  · rw [getElem?_msbBits _ hj, UInt8.toNat_or, Nat.testBit_or, hmask, Nat.testBit_two_pow]
    by_cases hij : i = j
    · rw [hij, List.getElem?_set_self (by simpa using hj)]
      simp
    · have hne : ¬ 7 - i = 7 - j := by omega
      rw [List.getElem?_set_ne hij, getElem?_msbBits _ hj]
      simp [hne]
  · rw [List.getElem?_eq_none (by simpa using hj), List.getElem?_eq_none (by simpa using hj)]

theorem bitsOf_setBit {bytes : List UInt8} {p : ℕ} (h : p < 8 * bytes.length) :
    bitsOf (setBit bytes p) = (bitsOf bytes).set p true := by
  induction bytes generalizing p with
  | nil => simp at h
  | cons b bytes ih =>
    by_cases hp : p < 8
    · rw [setBit, Nat.div_eq_of_lt hp, Nat.mod_eq_of_lt hp, List.modify_zero_cons, bitsOf_cons,
        bitsOf_cons, msbBits_or b hp, List.set_append_left _ _ (by simpa using hp)]
    · have hrest : p - 8 < 8 * bytes.length := by
        rw [List.length_cons] at h
        omega
      have hdiv : p / 8 = (p - 8) / 8 + 1 := by omega
      have hmod : p % 8 = (p - 8) % 8 := by omega
      have htail := ih hrest
      rw [setBit] at htail
      rw [setBit, hdiv, hmod, List.modify_succ_cons, bitsOf_cons, bitsOf_cons, htail,
        List.set_append_right _ _ (by simpa using Nat.not_lt.mp hp), length_msbBits]

def lsbBits (b : UInt8) : List Bool := (List.range 8).map fun i => b.toNat.testBit i

/-- The byte of eight bits, least significant first. -/
def ofLsbBits (bits : List Bool) : UInt8 :=
  bits.foldr (fun bit value => value <<< 1 ||| if bit then 1 else 0) 0

/-- Start bit, data bits, stop bit. -/
def cell (b : UInt8) : List Bool := false :: (lsbBits b ++ [true])

def cells (bytes : List UInt8) : List Bool := bytes.flatMap cell

/-- Up to `max` bytes, read cell by cell until the bits are not a cell. -/
def readCells : ℕ → List Bool → List UInt8
  | 0, _ => []
  | max + 1, bits =>
    if 10 ≤ bits.length ∧ bits.getD 0 true = false ∧ bits.getD 9 false = true then
      ofLsbBits ((bits.drop 1).take 8) :: readCells max (bits.drop 10)
    else []

@[simp] theorem length_lsbBits (b : UInt8) : (lsbBits b).length = 8 := rfl

@[simp] theorem length_cell (b : UInt8) : (cell b).length = 10 := rfl

theorem ofLsbBits_lsbBits (b : UInt8) : ofLsbBits (lsbBits b) = b := by
  have hbytes : ∀ n : Fin 256, ofLsbBits (lsbBits (UInt8.ofNat n)) = UInt8.ofNat n := by
    decide +kernel
  simpa using hbytes ⟨b.toNat, b.toNat_lt⟩

@[simp] theorem cells_nil : cells [] = [] := rfl

@[simp] theorem cells_cons (b : UInt8) (bytes : List UInt8) :
    cells (b :: bytes) = cell b ++ cells bytes := rfl

@[simp] theorem length_cells (bytes : List UInt8) : (cells bytes).length = 10 * bytes.length := by
  induction bytes with
  | nil => rfl
  | cons b bytes ih =>
    rw [cells_cons, List.length_append, ih, length_cell, List.length_cons]
    omega

@[simp] theorem readCells_nil (max : ℕ) : readCells max [] = [] := by
  cases max <;> simp [readCells]

theorem readCells_cell (max : ℕ) (b : UInt8) (rest : List Bool) :
    readCells (max + 1) (cell b ++ rest) = b :: readCells max rest := by
  have hdata : ((cell b ++ rest).drop 1).take 8 = lsbBits b := by
    rw [cell, List.cons_append, List.drop_one, List.tail_cons, List.append_assoc,
      List.take_left' (length_lsbBits b)]
  have hrest : (cell b ++ rest).drop 10 = rest := by
    rw [List.drop_left' (length_cell b)]
  have hstop : (cell b ++ rest).getD 9 false = true := rfl
  rw [readCells, if_pos ⟨by simp, rfl, hstop⟩, hdata, hrest, ofLsbBits_lsbBits]

/-- A reader recovers the bytes of cells, and goes on behind them. -/
theorem readCells_cells {max : ℕ} {bytes : List UInt8} (h : bytes.length ≤ max)
    (rest : List Bool) :
    readCells max (cells bytes ++ rest) = bytes ++ readCells (max - bytes.length) rest := by
  induction bytes generalizing max with
  | nil => rfl
  | cons b bytes ih =>
    cases max with
    | zero => simp at h
    | succ max =>
      rw [cells_cons, List.append_assoc, readCells_cell, ih (Nat.le_of_succ_le_succ h),
        List.length_cons, Nat.add_sub_add_right, List.cons_append]

/-- Nothing is read from a line that idles high. -/
theorem readCells_idle (max : ℕ) (bits : List Bool) : readCells max (true :: bits) = [] := by
  cases max <;> simp [readCells]

/-- A reader that sees fewer bits reads the same bytes, as far as they are complete. -/
theorem readCells_take (max n : ℕ) (bits : List Bool) :
    readCells max (bits.take n) = (readCells max bits).take (n / 10) := by
  induction max generalizing n bits with
  | zero => simp [readCells]
  | succ max ih =>
    by_cases hn : 10 ≤ n
    · have hdrop : (bits.take n).drop 10 = (bits.drop 10).take (n - 10) := List.drop_take ..
      have hdata : ((bits.take n).drop 1).take 8 = (bits.drop 1).take 8 := by
        rw [List.drop_take, List.take_take, Nat.min_eq_left (by omega)]
      have hget : ∀ i < 10, ∀ d, (bits.take n).getD i d = bits.getD i d := by
        intro i hi d
        rw [List.getD_eq_getElem?_getD, List.getD_eq_getElem?_getD,
          List.getElem?_take_of_lt (by omega)]
      have hlength : 10 ≤ (bits.take n).length ↔ 10 ≤ bits.length := by
        rw [List.length_take]
        omega
      have hdiv : n / 10 = (n - 10) / 10 + 1 := by omega
      rw [readCells, readCells, hdata, hget 0 (by decide), hget 9 (by decide), hdrop, ih, hdiv]
      simp only [hlength]
      split_ifs <;> simp
    · have hshort : ¬ 10 ≤ (bits.take n).length := by
        rw [List.length_take]
        omega
      rw [readCells, if_neg (fun h => hshort h.1), Nat.div_eq_of_lt (by omega), List.take_zero]

theorem length_readCells_le (max : ℕ) (bits : List Bool) : (readCells max bits).length ≤ max := by
  induction max generalizing bits with
  | zero => simp [readCells]
  | succ max ih =>
    rw [readCells]
    split_ifs
    · exact Nat.succ_le_succ (ih _)
    · exact Nat.zero_le _

end HomeIoControl.SerialCells
