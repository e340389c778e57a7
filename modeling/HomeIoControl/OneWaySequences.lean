import Mathlib.Data.Int.GCD
import Mathlib.Data.Nat.ModEq
import Mathlib.Tactic.IntervalCases
import Mathlib.Tactic.Linarith
import Mathlib.Tactic.LinearCombination
import Mathlib.Tactic.Ring
import Mathlib.Tactic.NormNum.GCD
import HomeIoControl.ProtocolFrames

/-! # Persistent rolling-sequence counters for one-way transmit -/

namespace HomeIoControl.OneWaySequences

open ProtocolFrames

def onewaySequenceStride : UInt16 := 8

def fnv1OffsetBasis : UInt32 := 2166136261
def fnv1Prime : UInt32 := 16777619

def fnvStep (hash : UInt32) (b : UInt8) : UInt32 := (hash ^^^ b.toUInt32) * fnv1Prime

/-- `preference_key`: FNV-1 over the prefix `1W` and the three address bytes. -/
def preferenceKey (nodeId : NodeId) : UInt32 :=
  nodeId.bytes.foldl fnvStep (fnvStep (fnvStep fnv1OffsetBasis 0x31) 0x57)

private theorem xor_byte_div (h : UInt32) (b : UInt8) :
    (h ^^^ b.toUInt32).toNat / 256 = h.toNat / 256 := by
  have hb : b.toNat / 256 = 0 := Nat.div_eq_of_lt b.toNat_lt
  have := Nat.xor_div_two_pow (a := h.toNat) (b := b.toNat) (n := 8)
  simpa [hb] using this

private theorem fnvStep_toNat (h : UInt32) (b : UInt8) :
    (fnvStep h b).toNat = (h ^^^ b.toUInt32).toNat * 16777619 % 4294967296 := by
  simp [fnvStep, fnv1Prime, UInt32.toNat_mul]

private theorem xor_byte_cancel {h : UInt32} {a b : UInt8}
    (heq : (h ^^^ a.toUInt32).toNat = (h ^^^ b.toUInt32).toNat) : a = b := by
  have h₁ := UInt32.toNat_inj.mp heq
  have h₂ := (UInt32.xor_right_inj h).mp h₁
  have h₃ := congrArg UInt32.toNat h₂
  exact UInt8.toNat_inj.mp (by simpa using h₃)

private theorem small_multiple {d g e k m : ℤ} (hd : -255 ≤ d ∧ d ≤ 255)
    (hg : -510 ≤ g ∧ g ≤ 510) (he : -255 ≤ e ∧ e ≤ 255)
    (hlow : 162409 * d + 403 * g - e = 16777216 * k) (hhigh : 38 * d + g + k = 256 * m) :
    d = 0 ∧ g = 0 ∧ e = 0 := by
  have hk : -2 ≤ k ∧ k ≤ 2 := by omega
  obtain ⟨hk₁, hk₂⟩ := hk
  interval_cases k
  · obtain rfl | rfl | rfl : d = -206 ∨ d = -207 ∨ d = -208 := by omega
    all_goals omega
  · obtain rfl | rfl : d = -103 ∨ d = -104 := by omega
    all_goals omega
  · obtain rfl | rfl | rfl : d = -1 ∨ d = 0 ∨ d = 1 := by omega
    all_goals omega
  · obtain rfl | rfl : d = 103 ∨ d = 104 := by omega
    all_goals omega
  · obtain rfl | rfl | rfl : d = 206 ∨ d = 207 ∨ d = 208 := by omega
    all_goals omega

private theorem no_collision {d g e q : ℤ} (hd : -255 ≤ d ∧ d ≤ 255) (hg : -510 ≤ g ∧ g ≤ 510)
    (he : -255 ≤ e ∧ e ≤ 255)
    (h : (d * 16777619 + g) * 16777619 = e + 4294967296 * q) : d = 0 ∧ g = 0 ∧ e = 0 := by
  apply small_multiple (k := 256 * q - 16777216 * d - 806 * d - g)
    (m := q - 65536 * d - 3 * d) hd hg he
  · linear_combination h
  · ring

private theorem mul_prime_cancel {x x' : ℕ} (hx : x < 4294967296) (hx' : x' < 4294967296)
    (h : x * 16777619 % 4294967296 = x' * 16777619 % 4294967296) : x = x' := by
  have hmod : x ≡ x' [MOD 4294967296] :=
    Nat.ModEq.cancel_right_of_coprime (c := 16777619) (by norm_num) h
  rwa [Nat.ModEq, Nat.mod_eq_of_lt hx, Nat.mod_eq_of_lt hx'] at hmod

private theorem byte_apart {x x' : ℕ} (h : x / 256 = x' / 256) :
    -255 ≤ (x : ℤ) - x' ∧ (x : ℤ) - x' ≤ 255 := by
  omega

/-- One multiplication over the integers, with what its word drops. -/
private theorem round_eq {x y : ℕ} (h : y = x * 16777619 % 4294967296) :
    ∃ dropped : ℤ, (x : ℤ) * 16777619 = 4294967296 * dropped + y := by
  refine ⟨(x * 16777619 / 4294967296 : ℕ), ?_⟩
  rw [h]
  exact_mod_cast (Nat.div_add_mod (x * 16777619) 4294967296).symm

private theorem two_rounds {x x' y y' u u' z z' : ℕ}
    (hx : x / 256 = x' / 256) (hy : y = x * 16777619 % 4294967296)
    (hy' : y' = x' * 16777619 % 4294967296) (hu : u / 256 = y / 256) (hu' : u' / 256 = y' / 256)
    (hz : z = u * 16777619 % 4294967296) (hz' : z' = u' * 16777619 % 4294967296)
    (h : z / 256 = z' / 256) : x = x' ∧ u = u' ∧ z = z' := by
  obtain ⟨hlow, hhigh⟩ := byte_apart hu
  obtain ⟨hlow', hhigh'⟩ := byte_apart hu'
  obtain ⟨q, hq⟩ := round_eq hy
  obtain ⟨q', hq'⟩ := round_eq hy'
  obtain ⟨r, hr⟩ := round_eq hz
  obtain ⟨r', hr'⟩ := round_eq hz'
  obtain ⟨hd, hg, he⟩ := no_collision (d := (x : ℤ) - x') (g := ((u : ℤ) - y) - ((u' : ℤ) - y'))
    (e := (z : ℤ) - z') (q := r - r' + 16777619 * (q - q')) (byte_apart hx)
    ⟨by linarith only [hlow, hhigh'], by linarith only [hhigh, hlow']⟩ (byte_apart h)
    (by linear_combination 16777619 * (hq - hq') + hr - hr')
  have hxx : x = x' := Int.ofNat_inj.mp (sub_eq_zero.mp hd)
  have hyy : y = y' := by rw [hy, hy', hxx]
  have huu : u = u' := by
    rw [hyy] at hg
    exact Int.ofNat_inj.mp (by linarith only [hg])
  exact ⟨hxx, huu, Int.ofNat_inj.mp (sub_eq_zero.mp he)⟩

/-- Three rounds of the hash keep every three bytes apart. -/
theorem fnvRounds_injective (h : UInt32) {a a' b b' c c' : UInt8}
    (heq : fnvStep (fnvStep (fnvStep h a) b) c = fnvStep (fnvStep (fnvStep h a') b') c') :
    a = a' ∧ b = b' ∧ c = c' := by
  have hmul := congrArg UInt32.toNat heq
  rw [fnvStep_toNat, fnvStep_toNat (fnvStep (fnvStep h a') b')] at hmul
  have hlast := mul_prime_cancel (UInt32.toNat_lt _) (UInt32.toNat_lt _) hmul
  have hdiv := congrArg (· / 256) hlast
  simp only [xor_byte_div] at hdiv
  obtain ⟨hx, hu, hz⟩ := two_rounds ((xor_byte_div h a).trans (xor_byte_div h a').symm)
    (fnvStep_toNat h a) (fnvStep_toNat h a') (xor_byte_div _ b) (xor_byte_div _ b')
    (fnvStep_toNat _ b) (fnvStep_toNat _ b') hdiv
  obtain rfl := xor_byte_cancel hx
  obtain rfl := xor_byte_cancel hu
  exact ⟨rfl, rfl, xor_byte_cancel hlast⟩

theorem preferenceKey_injective : Function.Injective preferenceKey := by
  rintro ⟨a, b, c⟩ ⟨a', b', c'⟩ h
  obtain ⟨rfl, rfl, rfl⟩ := fnvRounds_injective _ h
  rfl

/-- What the flash holds, and what was saved since the last sync. -/
structure Preferences where
  flash : UInt32 → Option UInt16
  staged : UInt32 → Option UInt16

/-- How the backend answers one operation; the power may also fail before the answer. -/
inductive Reply where
  | ok
  | failed
  | powerLost
  deriving DecidableEq

/-- The answer of a backend that keeps its power. -/
def replyOf (ok : Bool) : Reply := if ok then .ok else .failed

inductive Outcome (α : Type) where
  | returned (result : α)
  | powerLost

namespace Preferences

def empty : Preferences := ⟨fun _ => none, fun _ => none⟩

def load (p : Preferences) (key : UInt32) : Option UInt16 := (p.staged key).or (p.flash key)

def save (p : Preferences) (key : UInt32) (value : UInt16) : Preferences :=
  { p with staged := Function.update p.staged key (some value) }

def sync (p : Preferences) : Preferences := ⟨p.load, fun _ => none⟩

/-- A reboot loses what was saved without a sync. -/
def reboot (p : Preferences) : Preferences := { p with staged := fun _ => none }

end Preferences

/-- `persist`: save, then sync, each of which may fail. -/
def persist (saveReply syncReply : Reply) (p : Preferences) (pref : UInt32) (value : UInt16) :
    Preferences × Outcome Bool :=
  match saveReply with
  | .powerLost => (p, .powerLost)
  | .failed => (p, .returned false)
  | .ok =>
    match syncReply with
    | .powerLost => (p.save pref value, .powerLost)
    | .failed => (p.save pref value, .returned false)
    | .ok => ((p.save pref value).sync, .returned true)

theorem persist_true {saveReply syncReply : Reply} {p p' : Preferences} {pref : UInt32}
    {value : UInt16} (h : persist saveReply syncReply p pref value = (p', .returned true)) :
    p' = (p.save pref value).sync := by
  unfold persist at h
  cases saveReply <;> cases syncReply <;> simp_all

structure Counter where
  nodeId : NodeId
  next : UInt16
  reserved : UInt16
  pref : UInt32
  deriving DecidableEq

/-- The registered counters, in the order of registration. -/
abbrev OneWaySequenceStore := List Counter

namespace OneWaySequenceStore

def find (store : OneWaySequenceStore) (nodeId : NodeId) : Option Counter :=
  List.find? (fun c => c.nodeId = nodeId) store

/-- Write through the pointer that `find_` returned: the first counter of the address. -/
def write (nodeId : NodeId) (counter : Counter) : OneWaySequenceStore → OneWaySequenceStore
  | [] => []
  | c :: cs => if c.nodeId = nodeId then counter :: cs else c :: write nodeId counter cs

/-- Where a counter starts at setup: the higher of what is persisted and what is configured. -/
def resumeFrom (initialSequence : UInt16) : Option UInt16 → UInt16
  | some persisted => if persisted > initialSequence then persisted else initialSequence
  | none => initialSequence

def addIdentity (store : OneWaySequenceStore) (p : Preferences) (nodeId : NodeId)
    (initialSequence : UInt16) : OneWaySequenceStore :=
  match store.find nodeId with
  | some _ => store
  | none =>
    let next := resumeFrom initialSequence (p.load (preferenceKey nodeId))
    store ++ [⟨nodeId, next, next, preferenceKey nodeId⟩]

/-- `next`: reserve and hand out a sequence; `none` is the return value `false`. -/
def next (store : OneWaySequenceStore) (p : Preferences) (saveReply syncReply : Reply)
    (nodeId : NodeId) : OneWaySequenceStore × Preferences × Outcome (Option UInt16) :=
  match store.find nodeId with
  | none => (store, p, .returned none)
  | some counter =>
    if counter.next = counter.reserved then
      let newReservation := counter.next + onewaySequenceStride
      match persist saveReply syncReply p counter.pref newReservation with
      | (p, .powerLost) => (store, p, .powerLost)
      | (p, .returned false) => (store, p, .returned none)
      | (p, .returned true) =>
        (write nodeId { counter with next := counter.next + 1, reserved := newReservation } store,
          p, .returned (some counter.next))
    else
      (write nodeId { counter with next := counter.next + 1 } store, p,
        .returned (some counter.next))

theorem next_exhausted {store : OneWaySequenceStore} {nodeId : NodeId} {counter : Counter}
    (hfind : store.find nodeId = some counter) (hexhausted : counter.next = counter.reserved)
    (p : Preferences) (saveReply syncReply : Reply) :
    store.next p saveReply syncReply nodeId =
      match persist saveReply syncReply p counter.pref (counter.next + onewaySequenceStride) with
      | (p, .powerLost) => (store, p, .powerLost)
      | (p, .returned false) => (store, p, .returned none)
      | (p, .returned true) =>
        (write nodeId { counter with
            next := counter.next + 1, reserved := counter.next + onewaySequenceStride } store,
          p, .returned (some counter.next)) := by
  simp only [next, hfind, if_pos hexhausted]

theorem next_reserved {store : OneWaySequenceStore} {nodeId : NodeId} {counter : Counter}
    (hfind : store.find nodeId = some counter) (hleft : counter.next ≠ counter.reserved)
    (p : Preferences) (saveReply syncReply : Reply) :
    store.next p saveReply syncReply nodeId =
      (write nodeId { counter with next := counter.next + 1 } store, p,
        .returned (some counter.next)) := by
  simp only [next, hfind, if_neg hleft]

/-- `seed`: move the counter of an address to any value, and persist it. -/
def seed (store : OneWaySequenceStore) (p : Preferences) (saveReply syncReply : Reply)
    (nodeId : NodeId) (value : UInt16) : OneWaySequenceStore × Preferences × Outcome Bool :=
  match store.find nodeId with
  | none => (store, p, .returned false)
  | some counter =>
    match persist saveReply syncReply p counter.pref value with
    | (p, .powerLost) => (store, p, .powerLost)
    | (p, .returned false) => (store, p, .returned false)
    | (p, .returned true) =>
      (write nodeId { counter with next := value, reserved := value } store, p, .returned true)

def peek (store : OneWaySequenceStore) (nodeId : NodeId) : Option UInt16 :=
  (store.find nodeId).map Counter.next

theorem resumeFrom_of_le {initialSequence persisted : UInt16} (h : initialSequence ≤ persisted) :
    resumeFrom initialSequence (some persisted) = persisted := by
  simp only [resumeFrom]
  split
  · rfl
  · next hgt => exact UInt16.le_antisymm h (UInt16.not_lt.mp hgt)

theorem find_write_self {store : OneWaySequenceStore} {nodeId : NodeId} {old new : Counter}
    (hnew : new.nodeId = nodeId) (h : store.find nodeId = some old) :
    find (write nodeId new store) nodeId = some new := by
  induction store with
  | nil => simp [find] at h
  | cons c cs ih =>
    by_cases hc : c.nodeId = nodeId
    · simp [write, find, hc, hnew]
    · simpa [write, find, hc] using ih (by simpa [find, hc] using h)

theorem find_write_of_ne {store : OneWaySequenceStore} {nodeId other : NodeId} {new : Counter}
    (hnew : new.nodeId = nodeId) (h : nodeId ≠ other) :
    find (write nodeId new store) other = store.find other := by
  induction store with
  | nil => rfl
  | cons c cs ih =>
    by_cases hc : c.nodeId = nodeId
    · subst hc
      simp [write, find, hnew, h]
    · simp only [write, hc, if_false, find, List.find?_cons] at ih ⊢
      rw [ih]

theorem nodeId_of_find {store : OneWaySequenceStore} {nodeId : NodeId} {c : Counter}
    (h : store.find nodeId = some c) : c.nodeId = nodeId := by
  simpa using List.find?_some h

theorem find_append (store : OneWaySequenceStore) (c : Counter) (nodeId : NodeId) :
    find (store ++ [c]) nodeId =
      (store.find nodeId).or (if c.nodeId = nodeId then some c else none) := by
  by_cases hc : c.nodeId = nodeId <;> simp [find, List.find?_append, hc]

end OneWaySequenceStore

end HomeIoControl.OneWaySequences
