import Mathlib.Data.List.Basic
import Mathlib.Tactic.Common

/-!
# Filters for repeats

What is heard has a key, and each key a source. A source that repeats a key within a window of
time, with no other key of its own in between, is to be heard once. A filter that remembers only
the last thing it let through, and reads time from a clock that wraps, does so exactly while
nothing disturbs it.
-/

namespace HomeIoControl.RepeatFilters

universe u v

/-- A key that was let through, and when. -/
structure Passed (κ : Type u) where
  key : κ
  time : ℕ
  deriving DecidableEq

variable {κ : Type u} {ς : Type v}

/-- The key was let through within the window, and nothing else of its source since. -/
def IsFreshRepeat (source : κ → ς) (window : ℕ) (history : List (Passed κ)) (key : κ)
    (time : ℕ) : Prop :=
  ∃ before p after, history = before ++ p :: after ∧ p.key = key ∧ time < p.time + window ∧
    ∀ q ∈ after, source q.key = source key → q.key = key

/-- The key was the last that was let through, and the wrapping clock reads less than the window
since then. -/
def RepeatsLast (window wrap : ℕ) (history : List (Passed κ)) (key : κ) (time : ℕ) : Prop :=
  ∃ p, history.getLast? = some p ∧ p.key = key ∧ (time - p.time) % wrap < window

/-- A fresh repeat is heard before anything of another source was let through, and a clock
reading within the window is no wrapped one. -/
structure Undisturbed (source : κ → ς) (window wrap : ℕ) (history : List (Passed κ)) (key : κ)
    (time : ℕ) : Prop where
  alone : IsFreshRepeat source window history key time →
    ∀ p, history.getLast? = some p → source p.key = source key
  unwrapped : RepeatsLast window wrap history key time →
    ∀ p, history.getLast? = some p → time < p.time + window

/-- What was let through, in the order of time and up to a time. -/
def InOrder (history : List (Passed κ)) (now : ℕ) : Prop :=
  history.Pairwise (fun p q => p.time ≤ q.time) ∧ ∀ p ∈ history, p.time ≤ now

theorem InOrder.later {history : List (Passed κ)} {now now' : ℕ} (h : InOrder history now)
    (hle : now ≤ now') : InOrder history now' :=
  ⟨h.1, fun p hp => Nat.le_trans (h.2 p hp) hle⟩

theorem InOrder.push {history : List (Passed κ)} {now : ℕ} (h : InOrder history now) (key : κ) :
    InOrder (history ++ [⟨key, now⟩]) now := by
  constructor
  · refine List.pairwise_append.mpr ⟨h.1, List.pairwise_singleton _ _, ?_⟩
    intro p hp q hq
    rw [List.mem_singleton.mp hq]
    exact h.2 p hp
  · intro p hp
    rcases List.mem_append.mp hp with hp | hp
    · exact h.2 p hp
    · obtain rfl := List.mem_singleton.mp hp
      exact Nat.le_refl now

variable {source : κ → ς} {window wrap : ℕ} {history : List (Passed κ)} {key : κ} {time : ℕ}

/-- A fresh repeat whose source let nothing else through last repeats the last key. -/
private theorem last_of_fresh (ordered : InOrder history time)
    (hfresh : IsFreshRepeat source window history key time) :
    ∃ p, history.getLast? = some p ∧ time < p.time + window ∧
      (source p.key = source key → p.key = key) := by
  obtain ⟨before, p, after, rfl, hkey, htime, hafter⟩ := hfresh
  rcases List.eq_nil_or_concat after with rfl | ⟨init, q, hlast⟩
  · exact ⟨p, by simp, htime, fun _ => hkey⟩
  · rw [List.concat_eq_append] at hlast
    subst hlast
    refine ⟨q, ?_, ?_, hafter q (by simp)⟩
    · rw [← List.cons_append, ← List.append_assoc, List.getLast?_concat]
    · have htail := (List.pairwise_append.mp ordered.1).2.1
      have hle : p.time ≤ q.time := (List.pairwise_cons.mp htail).1 q (by simp)
      omega

/-- The last key, within the window, is a fresh repeat. -/
private theorem fresh_of_last {p : Passed κ} (hlast : history.getLast? = some p)
    (hkey : p.key = key) (htime : time < p.time + window) :
    IsFreshRepeat source window history key time := by
  obtain ⟨init, hinit⟩ := List.getLast?_eq_some_iff.mp hlast
  exact ⟨init, p, [], hinit, hkey, htime, fun q hq => absurd hq List.not_mem_nil⟩

/-- The filter and the law agree exactly while nothing disturbs the filter. -/
theorem repeatsLast_iff_isFreshRepeat (ordered : InOrder history time) (hwrap : window ≤ wrap) :
    (RepeatsLast window wrap history key time ↔
        IsFreshRepeat source window history key time) ↔
      Undisturbed source window wrap history key time := by
  constructor
  · intro hagree
    refine ⟨?_, ?_⟩
    · intro hfresh p hp
      obtain ⟨p', hp', hkey, -⟩ := hagree.mpr hfresh
      have hsame : p = p' := Option.some.inj (hp.symm.trans hp')
      rw [hsame, hkey]
    · intro hrepeats p hp
      obtain ⟨p', hp', htime, -⟩ := last_of_fresh ordered (hagree.mp hrepeats)
      have hsame : p = p' := Option.some.inj (hp.symm.trans hp')
      rw [hsame]
      exact htime
  · intro hundisturbed
    constructor
    · intro hrepeats
      obtain ⟨p, hp, hkey, -⟩ := id hrepeats
      exact fresh_of_last hp hkey (hundisturbed.unwrapped hrepeats p hp)
    · intro hfresh
      obtain ⟨p, hp, htime, hkey⟩ := last_of_fresh ordered hfresh
      have hold : p.time ≤ time := ordered.2 p (List.mem_of_getLast? hp)
      have hsmall : (time - p.time) % wrap = time - p.time := Nat.mod_eq_of_lt (by omega)
      exact ⟨p, hp, hkey (hundisturbed.alone hfresh p hp), by omega⟩

end HomeIoControl.RepeatFilters
