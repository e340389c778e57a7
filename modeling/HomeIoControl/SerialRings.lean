import Mathlib.Order.Basic
import Mathlib.Data.Nat.Basic
import Mathlib.Algebra.Order.Group.Nat
import Mathlib.Tactic.Common

/-!
# Positions on a ring of machine words

A counter that runs through `w`-bit words visits the positions `0, 1, 2, …` counted from its
first word. Words are compared by how far ahead one lies of the other: from a fixed base, or
within half of the ring.
-/

namespace HomeIoControl.SerialRings

variable {w : ℕ}

/-- The word at a position counted from the base. -/
def ringValue (base : BitVec w) (position : ℕ) : BitVec w := base + BitVec.ofNat w position

/-- Going forward from `base`, the word `a` is met before the word `b`. -/
def AheadFrom (base a b : BitVec w) : Prop := (a - base).toNat < (b - base).toNat

/-- Serial-number order: `b` lies ahead of `a` by less than half of the ring. -/
def SerialLt (a b : BitVec w) : Prop := 0 < (b - a).toNat ∧ 2 * (b - a).toNat < 2 ^ w

instance (base a b : BitVec w) : Decidable (AheadFrom base a b) :=
  inferInstanceAs (Decidable (_ < _))

instance (a b : BitVec w) : Decidable (SerialLt a b) := inferInstanceAs (Decidable (_ ∧ _))

@[simp] theorem ringValue_zero (base : BitVec w) : ringValue base 0 = base := by
  simp [ringValue]

theorem ringValue_add (base : BitVec w) (p n : ℕ) :
    ringValue base (p + n) = ringValue base p + BitVec.ofNat w n := by
  simp [ringValue, BitVec.ofNat_add, BitVec.add_assoc]

theorem ringValue_sub_base (base : BitVec w) (p : ℕ) :
    ringValue base p - base = BitVec.ofNat w p := by
  rw [ringValue, BitVec.add_comm, BitVec.add_sub_cancel]

theorem ringValue_add_sub (base : BitVec w) (p n : ℕ) :
    ringValue base (p + n) - ringValue base p = BitVec.ofNat w n := by
  rw [ringValue_add, BitVec.add_comm, BitVec.add_sub_cancel]

theorem ringValue_add_eq_self {base : BitVec w} {p n : ℕ} (hn : n < 2 ^ w) :
    ringValue base (p + n) = ringValue base p ↔ n = 0 := by
  constructor
  · intro h
    have hzero := ringValue_add_sub base p n
    rw [h, BitVec.sub_self] at hzero
    have hnat := congrArg BitVec.toNat hzero
    simpa [Nat.mod_eq_of_lt hn, eq_comm] using hnat
  · rintro rfl
    rfl

/-- Within one turn of the ring, a later position lies ahead of an earlier one. -/
theorem aheadFrom_of_lt {base : BitVec w} {p q : ℕ} (hpq : p < q) (hq : q < 2 ^ w) :
    AheadFrom base (ringValue base p) (ringValue base q) := by
  have hp : p < 2 ^ w := hpq.trans hq
  simpa [AheadFrom, ringValue_sub_base, Nat.mod_eq_of_lt hp, Nat.mod_eq_of_lt hq] using hpq

theorem AheadFrom.ne {base a b : BitVec w} (h : AheadFrom base a b) : b ≠ a := by
  rintro rfl
  exact Nat.lt_irrefl _ h

/-- Within half a turn the order is the serial-number order. -/
theorem serialLt_of_lt {base : BitVec w} {p q : ℕ} (hpq : p < q) (hhalf : 2 * (q - p) < 2 ^ w) :
    SerialLt (ringValue base p) (ringValue base q) := by
  have hsub := ringValue_add_sub base p (q - p)
  rw [Nat.add_sub_of_le hpq.le] at hsub
  have hlt : q - p < 2 ^ w := by omega
  simp only [SerialLt, hsub, BitVec.toNat_ofNat, Nat.mod_eq_of_lt hlt]
  exact ⟨by omega, hhalf⟩

end HomeIoControl.SerialRings
