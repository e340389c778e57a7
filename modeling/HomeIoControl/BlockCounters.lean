import Mathlib.Data.List.Pairwise
import Mathlib.Data.Nat.Basic
import Mathlib.Algebra.Order.Group.Nat
import Mathlib.Tactic.Common

/-!
# Counters that reserve blocks durably

A counter hands out the positions `0, 1, 2, …`. Before it hands out a position it makes the end
of a block of `stride` positions durable; a loss of power forgets everything that is not
durable, and the counter resumes at the durable end. The state carries what makes this safe, so
that no operation can hand a position out twice.
-/

namespace HomeIoControl.BlockCounters

/-- A counter with its history. `durable` is the first position that no durable reservation
covers, `staged` a reservation written but not yet durable, and `live` the pair of the next
position and the end of the reserved block while the power is on. -/
structure BlockCounter (stride : ℕ) where
  handed : List ℕ
  durable : ℕ
  staged : Option ℕ
  live : Option (ℕ × ℕ)
  sorted : handed.Pairwise (· < ·)
  handed_lt_durable : ∀ p ∈ handed, p < durable
  handed_lt_next : ∀ n r, live = some (n, r) → ∀ p ∈ handed, p < n
  block : ∀ n r, live = some (n, r) →
    n ≤ r ∧ r ≤ n + stride ∧ (durable = r ∨ r = n ∧ durable = n + stride)
  staged_end : ∀ s, staged = some s → ∃ n, live = some (n, n) ∧ s = n + stride

namespace BlockCounter

variable {stride : ℕ}

/-- A counter that never ran. -/
def fresh (stride : ℕ) : BlockCounter stride where
  handed := []
  durable := 0
  staged := none
  live := none
  sorted := .nil
  handed_lt_durable := by simp
  handed_lt_next := by simp
  block := by simp
  staged_end := by simp

/-- The power fails: only the durable reservation is left. -/
def losePower (c : BlockCounter stride) : BlockCounter stride :=
  { c with
    staged := none
    live := none
    handed_lt_next := by simp
    block := by simp
    staged_end := by simp }

/-- Resume at the durable end, with nothing reserved. -/
def resume (c : BlockCounter stride) (off : c.live = none) : BlockCounter stride :=
  { c with
    live := some (c.durable, c.durable)
    handed_lt_next := by
      rintro n r h p hp
      cases h
      exact c.handed_lt_durable p hp
    block := by
      rintro n r h
      cases h
      exact ⟨le_rfl, Nat.le_add_right _ _, .inl rfl⟩
    staged_end := by
      intro s hs
      obtain ⟨n, hn, -⟩ := c.staged_end s hs
      simp [off] at hn }

/-- Write the end of the next block, without making it durable. -/
def stage (c : BlockCounter stride) {n : ℕ} (exhausted : c.live = some (n, n)) :
    BlockCounter stride :=
  { c with
    staged := some (n + stride)
    staged_end := by
      rintro s h
      cases h
      exact ⟨n, exhausted, rfl⟩ }

/-- Make what is staged durable. -/
def commit (c : BlockCounter stride) : BlockCounter stride :=
  { c with
    durable := c.staged.getD c.durable
    staged := none
    handed_lt_durable := by
      intro p hp
      cases hs : c.staged with
      | none => exact c.handed_lt_durable p hp
      | some s =>
        obtain ⟨n, hn, rfl⟩ := c.staged_end s hs
        exact (c.handed_lt_next n n hn p hp).trans_le (Nat.le_add_right _ _)
    block := by
      intro n r h
      cases hs : c.staged with
      | none => exact c.block n r h
      | some s =>
        obtain ⟨m, hm, rfl⟩ := c.staged_end s hs
        rw [h] at hm
        cases hm
        exact ⟨le_rfl, Nat.le_add_right _ _, .inr ⟨rfl, rfl⟩⟩
    staged_end := by simp }

/-- Use a block whose end is durable. -/
def extend (c : BlockCounter stride) {n : ℕ} (exhausted : c.live = some (n, n))
    (reserved : c.durable = n + stride) (settled : c.staged = none) : BlockCounter stride :=
  { c with
    live := some (n, n + stride)
    handed_lt_next := by
      rintro m r h p hp
      cases h
      exact c.handed_lt_next n n exhausted p hp
    block := by
      rintro m r h
      cases h
      exact ⟨Nat.le_add_right _ _, le_rfl, .inl reserved⟩
    staged_end := by simp [settled] }

/-- Hand out the next position of the reserved block. -/
def handOut (c : BlockCounter stride) {n r : ℕ} (on : c.live = some (n, r)) (room : n < r) :
    BlockCounter stride :=
  { c with
    handed := c.handed ++ [n]
    live := some (n + 1, r)
    sorted := by
      rw [List.pairwise_append]
      refine ⟨c.sorted, List.pairwise_singleton _ _, ?_⟩
      intro p hp q hq
      rw [List.mem_singleton.mp hq]
      exact c.handed_lt_next n r on p hp
    handed_lt_durable := by
      intro p hp
      have hblock := c.block n r on
      rcases List.mem_append.mp hp with hp | hp
      · exact c.handed_lt_durable p hp
      · rw [List.mem_singleton.mp hp]
        omega
    handed_lt_next := by
      rintro m s h p hp
      cases h
      rcases List.mem_append.mp hp with hp | hp
      · exact (c.handed_lt_next n r on p hp).trans (Nat.lt_succ_self n)
      · rw [List.mem_singleton.mp hp]
        exact Nat.lt_succ_self n
    block := by
      rintro m s h
      cases h
      have hblock := c.block n r on
      omega
    staged_end := by
      intro s hs
      obtain ⟨m, hm, -⟩ := c.staged_end s hs
      rw [on] at hm
      cases hm
      exact absurd room (Nat.lt_irrefl _) }

@[simp] theorem losePower_live (c : BlockCounter stride) : c.losePower.live = none := rfl

@[simp] theorem losePower_staged (c : BlockCounter stride) : c.losePower.staged = none := rfl

@[simp] theorem losePower_durable (c : BlockCounter stride) :
    c.losePower.durable = c.durable := rfl

@[simp] theorem losePower_handed (c : BlockCounter stride) : c.losePower.handed = c.handed := rfl

@[simp] theorem commit_live (c : BlockCounter stride) : c.commit.live = c.live := rfl

@[simp] theorem commit_staged (c : BlockCounter stride) : c.commit.staged = none := rfl

@[simp] theorem commit_handed (c : BlockCounter stride) : c.commit.handed = c.handed := rfl

@[simp] theorem stage_handed (c : BlockCounter stride) {n : ℕ} (h : c.live = some (n, n)) :
    (c.stage h).handed = c.handed := rfl

theorem commit_durable (c : BlockCounter stride) :
    c.commit.durable = c.staged.getD c.durable := rfl

/-- A commit adds one whole block, or nothing. -/
theorem commit_durable_cases (c : BlockCounter stride) :
    c.commit.durable = c.durable ∨ c.commit.durable = c.durable + stride := by
  rw [commit_durable]
  cases hs : c.staged with
  | none => exact .inl rfl
  | some s =>
    obtain ⟨n, hn, rfl⟩ := c.staged_end s hs
    have hblock := c.block n n hn
    simp only [Option.getD_some]
    omega

end BlockCounter

end HomeIoControl.BlockCounters
