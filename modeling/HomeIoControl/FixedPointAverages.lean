import Mathlib.Algebra.Order.Ring.Int
import Mathlib.Data.Int.Order.Lemmas
import Mathlib.Tactic.Linarith
import Mathlib.Tactic.Ring

/-!
# Averages kept in fixed point

An exponential average of weight `1 / n` is kept `n` times as large: each sample adds itself and
takes the rounded average away. The average stays among the samples, and a steady sample is
reached and not left.
-/

namespace HomeIoControl.FixedPointAverages

/-- The quotient by `n`, rounded half away from zero. -/
def nearest (n s : ℤ) : ℤ := Int.tdiv (s + if 0 ≤ s then n / 2 else -(n / 2)) n

/-- The scaled average after one more sample. -/
def blend (n s x : ℤ) : ℤ := s + x - nearest n s

variable {n : ℤ} (hn : 0 < n)

include hn

theorem nearest_of_nonneg {s : ℤ} (h : 0 ≤ s) : nearest n s = (s + n / 2) / n := by
  have hhalf : 0 ≤ n / 2 := Int.ediv_nonneg hn.le (by decide)
  rw [nearest, if_pos h, Int.tdiv_eq_ediv_of_nonneg (by omega)]

theorem nearest_zero : nearest n 0 = 0 := by
  rw [nearest_of_nonneg hn le_rfl]
  exact Int.ediv_eq_zero_of_lt (by omega) (by omega)

theorem nearest_neg (s : ℤ) : nearest n (-s) = -nearest n s := by
  rcases lt_trichotomy s 0 with h | rfl | h
  · rw [nearest, nearest, if_pos (by omega), if_neg (by omega), ← Int.neg_tdiv]
    congr 1
    ring
  · rw [Int.neg_zero, nearest_zero hn, Int.neg_zero]
  · rw [nearest, nearest, if_neg (by omega), if_pos h.le, ← Int.neg_tdiv]
    congr 1
    ring

theorem nearest_mul (k : ℤ) : nearest n (n * k) = k := by
  have hnat : ∀ k : ℤ, 0 ≤ k → nearest n (n * k) = k := by
    intro k hk
    rw [nearest_of_nonneg hn (by positivity), Int.add_comm, Int.add_mul_ediv_left _ _ hn.ne',
      Int.ediv_eq_zero_of_lt (by omega) (by omega), Int.zero_add]
  rcases le_total 0 k with hk | hk
  · exact hnat k hk
  · have hneg := hnat (-k) (by omega)
    rw [Int.mul_neg, nearest_neg hn] at hneg
    omega

theorem nearest_mono {s t : ℤ} (h : s ≤ t) : nearest n s ≤ nearest n t := by
  apply Int.tdiv_le_tdiv hn
  split_ifs <;> omega

/-- Rounding grows no faster than what is rounded. -/
theorem sub_nearest_mono {s t : ℤ} (h : s ≤ t) : s - nearest n s ≤ t - nearest n t := by
  have hpos : ∀ s t : ℤ, 0 ≤ s → s ≤ t → nearest n t - nearest n s ≤ t - s := by
    intro s t hs hst
    have hstep : (t + n / 2) / n ≤ (s + n / 2) / n + (t - s) := by
      rw [← Int.add_mul_ediv_left _ _ hn.ne']
      apply Int.ediv_le_ediv hn
      nlinarith
    rw [nearest_of_nonneg hn hs, nearest_of_nonneg hn (hs.trans hst)]
    omega
  rcases le_or_gt 0 s with hs | hs
  · have := hpos s t hs h
    omega
  · have hs' := hpos 0 (-s) le_rfl (by omega)
    rw [nearest_zero hn, nearest_neg hn] at hs'
    rcases le_or_gt 0 t with ht | ht
    · have ht' := hpos 0 t le_rfl ht
      rw [nearest_zero hn] at ht'
      omega
    · have := hpos (-t) (-s) (by omega) (by omega)
      rw [nearest_neg hn, nearest_neg hn] at this
      omega

/-- What lies between two multiples is rounded to between the factors. -/
theorem nearest_between {s lo hi : ℤ} (hlo : n * lo ≤ s) (hhi : s ≤ n * hi) :
    lo ≤ nearest n s ∧ nearest n s ≤ hi := by
  have hbelow := nearest_mono hn hlo
  have habove := nearest_mono hn hhi
  rw [nearest_mul hn] at hbelow habove
  exact ⟨hbelow, habove⟩

theorem blend_mono {s t : ℤ} (h : s ≤ t) (x : ℤ) : blend n s x ≤ blend n t x := by
  have := sub_nearest_mono hn h
  simp only [blend]
  omega

/-- An average of exactly the sample is kept. -/
theorem blend_mul (x : ℤ) : blend n (n * x) x = n * x := by
  rw [blend, nearest_mul hn]
  ring

/-- The average stays among the samples. -/
theorem blend_between {s x lo hi : ℤ} (hlo : n * lo ≤ s) (hhi : s ≤ n * hi) (hx : lo ≤ x)
    (hx' : x ≤ hi) : n * lo ≤ blend n s x ∧ blend n s x ≤ n * hi := by
  have hbelow := blend_mono hn hlo x
  have habove := blend_mono hn hhi x
  simp only [blend, nearest_mul hn] at hbelow habove ⊢
  omega

/-- The scaled average after the same sample several times. -/
def steady (n x s : ℤ) : ℕ → ℤ
  | 0 => s
  | m + 1 => steady n x (blend n s x) m

/-- An average that is not yet the sample comes closer to it. -/
theorem blend_closer {s x : ℤ} (h : nearest n s ≠ x) :
    (n * x - blend n s x).natAbs < (n * x - s).natAbs := by
  have hkeep := blend_mul hn x
  rcases lt_or_gt_of_ne h with hlt | hgt
  · have hs : s ≤ n * x := by
      by_contra hover
      have := nearest_mono hn (not_le.mp hover).le
      rw [nearest_mul hn] at this
      omega
    have hle := blend_mono hn hs x
    rw [hkeep] at hle
    simp only [blend] at hle ⊢
    omega
  · have hs : n * x ≤ s := by
      by_contra hunder
      have := nearest_mono hn (not_le.mp hunder).le
      rw [nearest_mul hn] at this
      omega
    have hle := blend_mono hn hs x
    rw [hkeep] at hle
    simp only [blend] at hle ⊢
    omega

omit hn in
theorem blend_settled {s x : ℤ} (h : nearest n s = x) : blend n s x = s := by
  rw [blend, h]
  ring

omit hn in
theorem steady_settled {s x : ℤ} (h : nearest n s = x) (m : ℕ) : steady n x s m = s := by
  induction m with
  | zero => rfl
  | succ m ih => rw [steady, blend_settled h, ih]

/-- The sample is reached within as many samples as the scaled average is away from it, and then
kept. -/
theorem steady_settles (x : ℤ) (m : ℕ) (s : ℤ) (h : (n * x - s).natAbs ≤ m) :
    nearest n (steady n x s m) = x := by
  induction m generalizing s with
  | zero =>
    obtain rfl : s = n * x := by omega
    exact nearest_mul hn x
  | succ m ih =>
    by_cases hs : nearest n s = x
    · rw [steady_settled hs, hs]
    · have := blend_closer hn hs
      exact ih (blend n s x) (by omega)

end HomeIoControl.FixedPointAverages
