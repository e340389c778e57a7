import HomeIoControl.MachineRuns
import HomeIoControl.ListenWindows
import Mathlib.Data.Bool.Basic
import Mathlib.Logic.Function.Iterate
import Mathlib.Order.Basic

/-!
# Idle channel hops

Between exchanges every pass of the loop may hop to the next channel. A hop waits for the dwell of
the channel to run out and for a frame that is arriving; on the SX1276 the bit that tells of one
does not clear by itself, and a bound keeps it from stopping the scan.
-/

namespace HomeIoControl.IdleHops

open MachineRuns ProtocolFrames RadioLinks ListenWindows

def hopTimeUs : UInt32 := 2700
def rxHopHoldoffUs : UInt32 := 12000

/-- `micros()` at a time in unbounded microseconds since boot. -/
def microsAt (time : ℕ) : UInt32 := UInt32.ofNat time

/-- The microseconds after which `micros()` starts over. -/
def microsPeriod : ℕ := 4294967296

theorem microsAt_toNat (time : ℕ) : (microsAt time).toNat = time % microsPeriod :=
  UInt32.toNat_ofNat'

/-- A difference of two readings of the clock, less than a period apart, is the time between. -/
theorem microsAt_sub {now earlier : ℕ} (h : earlier ≤ now) (near : now < earlier + microsPeriod) :
    (microsAt now - microsAt earlier).toNat = now - earlier := by
  unfold microsPeriod at near
  rw [UInt32.toNat_sub, microsAt_toNat, microsAt_toNat, microsPeriod]
  omega

/-- The distance of the clock from any reading grows with the time, up to a period. -/
theorem sub_microsAt_later {since : UInt32} {now later : ℕ} (h : now ≤ later)
    (near : later - now + (microsAt now - since).toNat < microsPeriod) :
    (microsAt later - since).toNat = later - now + (microsAt now - since).toNat := by
  have hsince := since.toNat_lt
  unfold microsPeriod at near
  rw [UInt32.toNat_sub, microsAt_toNat, microsPeriod] at near ⊢
  rw [UInt32.toNat_sub, microsAt_toNat, microsPeriod]
  omega

inductive ScanCall where
  | setModeStandby
  | setModeRx
  | changeFrequency (freq : UInt32)
  deriving DecidableEq

/-- The channel, the engine's and the driver's timestamps, and when the last pass has ended. -/
structure Scan where
  freq : UInt32
  lastHopUs : UInt32
  syncHoldSinceUs : UInt32
  now : ℕ

/-- What a pass reads: the clock at the dwell test, the bit SyncAddressMatch, and the clock when
the bit is judged and when the pass ends. -/
structure Pass where
  started : ℕ
  sync : Bool
  judged : ℕ
  ended : ℕ

/-- `RadioSX1276::reception_in_progress`. -/
def receptionInProgress (s : Scan) (p : Pass) : Bool × Scan × List ScanCall :=
  if p.sync = false then (false, { s with syncHoldSinceUs := 0 }, [])
  else if s.syncHoldSinceUs = 0 then (true, { s with syncHoldSinceUs := microsAt p.judged }, [])
  else if microsAt p.judged - s.syncHoldSinceUs < rxHopHoldoffUs then (true, s, [])
  else (false, { s with syncHoldSinceUs := 0 }, [.setModeStandby, .setModeRx])

/-- `hop_frequency`, without a channel to skip. -/
def hopFrequency (s : Scan) (p : Pass) : Scan × List ScanCall :=
  let next := hopTarget s.freq 0
  ({ s with freq := next, lastHopUs := microsAt p.ended }, [.changeFrequency next])

/-- The dwell of the channel has run out. -/
def DwellServed (s : Scan) (p : Pass) : Prop := hopTimeUs < microsAt p.started - s.lastHopUs

instance (s : Scan) (p : Pass) : Decidable (DwellServed s p) := inferInstanceAs (Decidable (_ < _))

/-- `maybe_hop`. -/
def maybeHop (s : Scan) (p : Pass) : Scan × List ScanCall :=
  if DwellServed s p then
    let reception := receptionInProgress s p
    if reception.1 then reception.2
    else
      let hop := hopFrequency reception.2.1 p
      (hop.1, reception.2.2 ++ hop.2)
  else (s, [])

/-- A pass, and the time it leaves. -/
def step (s : Scan) (p : Pass) : Scan × List ScanCall :=
  ({ (maybeHop s p).1 with now := p.ended }, (maybeHop s p).2)

def scanMachine : Machine Scan Pass ScanCall := ⟨step⟩

/-- The passes follow each other, and each ends within a time of the one before. -/
structure Timely (gap : ℕ) (s : Scan) (p : Pass) : Prop where
  started : s.now ≤ p.started
  judged : p.started ≤ p.judged
  ended : p.judged ≤ p.ended
  inTime : p.ended ≤ s.now + gap

instance (gap : ℕ) (s : Scan) (p : Pass) : Decidable (Timely gap s p) :=
  decidable_of_iff (s.now ≤ p.started ∧ p.started ≤ p.judged ∧ p.judged ≤ p.ended ∧
      p.ended ≤ s.now + gap)
    ⟨fun h => ⟨h.1, h.2.1, h.2.2.1, h.2.2.2⟩, fun h => ⟨h.started, h.judged, h.ended, h.inTime⟩⟩

/-- The pass hops. -/
def Hops (s : Scan) (p : Pass) : Prop :=
  DwellServed s p ∧ (receptionInProgress s p).1 = false

instance (s : Scan) (p : Pass) : Decidable (Hops s p) := inferInstanceAs (Decidable (_ ∧ _))

/-- The radio has hopped at the end of its last pass. -/
structure JustHopped (s : Scan) : Prop where
  stamped : s.lastHopUs = microsAt s.now
  released : s.syncHoldSinceUs = 0

theorem hopTarget_zero (freq : UInt32) : hopTarget freq 0 = nextChannel freq := by
  have hnever : nextChannel freq ≠ 0 := by
    unfold nextChannel
    split_ifs <;> decide
  rw [hopTarget, if_neg hnever]

section

variable {s : Scan} {p : Pass}

theorem receptionInProgress_free (h : (receptionInProgress s p).1 = false) :
    (receptionInProgress s p).2.1 = { s with syncHoldSinceUs := 0 } := by
  unfold receptionInProgress at h ⊢
  split_ifs at h ⊢ <;> rfl

/-- A hop leads to the next channel and starts its dwell. -/
theorem step_hops (h : Hops s p) : JustHopped (step s p).1 ∧
    (step s p).1.freq = nextChannel s.freq ∧ (step s p).1.now = p.ended := by
  have hmaybe : (maybeHop s p).1 = (hopFrequency (receptionInProgress s p).2.1 p).1 := by
    unfold maybeHop
    rw [if_pos h.1]
    dsimp only
    rw [h.2, if_neg Bool.false_ne_true]
  unfold step
  rw [hmaybe, receptionInProgress_free h.2]
  exact ⟨⟨rfl, rfl⟩, hopTarget_zero s.freq, rfl⟩

/-- A pass that does not hop stays on the channel and leaves its dwell. -/
theorem step_stays (h : ¬ Hops s p) :
    (step s p).1.freq = s.freq ∧ (step s p).1.lastHopUs = s.lastHopUs ∧
      (step s p).1.now = p.ended := by
  unfold step maybeHop
  split_ifs with hdwell
  · have hreception : (receptionInProgress s p).1 = true :=
      Bool.eq_true_of_not_eq_false fun hfree => h ⟨hdwell, hfree⟩
    dsimp only
    rw [hreception, if_pos rfl]
    unfold receptionInProgress
    split_ifs <;> exact ⟨rfl, rfl, rfl⟩
  · exact ⟨rfl, rfl, rfl⟩

/-- What holds a served dwell off: a sighting that is new, or one younger than the bound. -/
theorem held_of_not_hops (served : DwellServed s p) (h : ¬ Hops s p) :
    (s.syncHoldSinceUs = 0 ∧ (step s p).1.syncHoldSinceUs = microsAt p.judged) ∨
      (s.syncHoldSinceUs ≠ 0 ∧ (step s p).1.syncHoldSinceUs = s.syncHoldSinceUs ∧
        (microsAt p.judged - s.syncHoldSinceUs).toNat < 12000) := by
  have hreception : (receptionInProgress s p).1 = true :=
    Bool.eq_true_of_not_eq_false fun hfree => h ⟨served, hfree⟩
  unfold step maybeHop
  rw [if_pos served]
  dsimp only
  rw [hreception, if_pos rfl]
  unfold receptionInProgress at hreception ⊢
  split_ifs at hreception ⊢ with hsync hfirst hyoung
  · exact Or.inl ⟨hfirst, rfl⟩
  · exact Or.inr ⟨hfirst, rfl, UInt32.lt_iff_toNat_lt.mp hyoung⟩

/-- A dwell that is not served leaves everything. -/
theorem step_dwelling (h : ¬ DwellServed s p) :
    (step s p).1 = { s with now := p.ended } ∧ (step s p).2 = [] := by
  unfold step maybeHop
  rw [if_neg h]
  exact ⟨rfl, rfl⟩

end

/-- The longest stay on a channel: the dwell, the bound on a reception, and six passes. -/
def longestStay (gap : ℕ) : ℕ := 14700 + 6 * gap

/-- How a stay that is watched from a time goes on: the dwell runs, a sighting was stamped with a
clock that stood at 0, or a sighting is younger than the bound. -/
inductive Staying (since gap : ℕ) (s : Scan) : Prop
  | dwelling (early : s.now ≤ since + 2700 + gap)
  | unstamped (free : s.syncHoldSinceUs = 0) (judged : ℕ) (onZero : microsAt judged = 0)
      (early : judged ≤ since + 2700 + 2 * gap) (passed : judged ≤ s.now)
      (recent : s.now ≤ judged + gap)
  | sighted (held : s.syncHoldSinceUs ≠ 0) (first judged : ℕ)
      (early : first ≤ since + 2700 + 4 * gap) (order : first ≤ judged)
      (young : judged - first + (microsAt first - s.syncHoldSinceUs).toNat < 12000)
      (passed : judged ≤ s.now) (recent : s.now ≤ judged + gap)

theorem Staying.now_le {since gap : ℕ} {s : Scan} (h : Staying since gap s) :
    s.now + gap ≤ since + longestStay gap := by
  unfold longestStay
  cases h with
  | dwelling early => omega
  | unstamped free judged onZero early passed recent => omega
  | sighted held first judged early order young passed recent => omega

section

variable {since gap begun : ℕ} {s : Scan} {p : Pass}

/-- A pass that does not hop goes on with the stay. -/
theorem Staying.step (h : Staying since gap s) (stamped : s.lastHopUs = microsAt begun)
    (before : begun ≤ s.now) (watched : begun ≤ since)
    (near : since + longestStay gap < begun + microsPeriod) (timely : Timely gap s p)
    (stays : ¬ Hops s p) : Staying since gap (IdleHops.step s p).1 := by
  obtain ⟨hstarted, hjudged, hended, hinTime⟩ := timely
  have hnow := h.now_le
  have hstep := (step_stays stays).2.2
  by_cases hserved : DwellServed s p
  · rcases held_of_not_hops hserved stays with ⟨hfree, hstamp⟩ | ⟨hheld, hsame, hyoung⟩
    · -- the first sighting of this reception
      have hnew : ∀ early : p.judged ≤ since + 2700 + 4 * gap, microsAt p.judged ≠ 0 →
          Staying since gap (IdleHops.step s p).1 := by
        intro early hclock
        refine .sighted (by rwa [hstamp]) p.judged p.judged early le_rfl ?_ (by omega) (by omega)
        rw [hstamp, UInt32.sub_self]
        simp
      by_cases hclock : microsAt p.judged = 0
      · cases h with
        | dwelling early =>
          exact .unstamped (hstamp.trans hclock) p.judged hclock (by omega) (by omega) (by omega)
        | unstamped free judged onZero early passed recent =>
          have hsame := microsAt_sub (show judged ≤ p.judged by omega)
            (by unfold longestStay at near; omega)
          rw [hclock, onZero, UInt32.sub_self] at hsame
          have hstill : p.judged = judged := by
            have hzero : (0 : UInt32).toNat = 0 := rfl
            omega
          exact .unstamped (hstamp.trans hclock) p.judged hclock (by omega) (by omega) (by omega)
        | sighted held first judged early order young passed recent => exact absurd hfree held
      · cases h with
        | dwelling early => exact hnew (by omega) hclock
        | unstamped free judged onZero early passed recent => exact hnew (by omega) hclock
        | sighted held first judged early order young passed recent => exact absurd hfree held
    · rw [← hsame] at hheld hyoung
      cases h with
      | dwelling early =>
        exact .sighted hheld p.judged p.judged (by omega) le_rfl (by omega) (by omega) (by omega)
      | unstamped free judged onZero early passed recent => exact absurd (hsame.trans free) hheld
      | sighted held first judged early order young passed recent =>
        rw [← hsame] at young
        have hlater : (microsAt p.judged - (IdleHops.step s p).1.syncHoldSinceUs).toNat =
            p.judged - first + (microsAt first - (IdleHops.step s p).1.syncHoldSinceUs).toNat :=
          sub_microsAt_later (by omega) (by unfold longestStay at near; omega)
        exact .sighted hheld first p.judged early (by omega) (by omega) (by omega) (by omega)
  · have hdwell : (microsAt p.started - s.lastHopUs).toNat ≤ 2700 :=
      Nat.le_of_not_lt fun hlt => hserved (UInt32.lt_iff_toNat_lt.mpr hlt)
    rw [stamped, microsAt_sub (by omega) (by omega)] at hdwell
    exact .dwelling (by omega)

/-- A stay ends before the longest stay is over. -/
theorem hop_comes (h : Staying since gap s) (stamped : s.lastHopUs = microsAt begun)
    (before : begun ≤ s.now) (watched : begun ≤ since)
    (near : since + longestStay gap < begun + microsPeriod) {es : List Pass}
    (timely : scanMachine.Along (Timely gap) s es)
    (long : since + longestStay gap < (scanMachine.run s es).now) :
    ∃ front p after, es = front ++ p :: after ∧ Hops (scanMachine.run s front) p ∧
      (scanMachine.run s front).freq = s.freq ∧ p.ended ≤ since + longestStay gap := by
  induction es generalizing s with
  | nil =>
    have hnow := h.now_le
    rw [Machine.run_nil] at long
    omega
  | cons p es ih =>
    obtain ⟨htimely, hrest⟩ := timely
    by_cases hhops : Hops s p
    · have hnow := h.now_le
      exact ⟨[], p, es, rfl, hhops, rfl, htimely.inTime.trans hnow⟩
    · obtain ⟨hfreq, hstamp, hended⟩ := step_stays hhops
      have hpassed : begun ≤ (step s p).1.now := by
        rw [hended]
        exact ((before.trans htimely.started).trans htimely.judged).trans htimely.ended
      obtain ⟨front, q, after, rfl, hq, hsame, hbound⟩ :=
        ih (h.step stamped before watched near htimely hhops) (hstamp.trans stamped) hpassed hrest
          long
      exact ⟨p :: front, q, after, rfl, hq, hsame.trans hfreq, hbound⟩

end

/-- One hop of a run, and what is left of the run. -/
theorem hop_once {gap begun : ℕ} {s : Scan} (stamped : s.lastHopUs = microsAt begun)
    (before : begun ≤ s.now) (near : s.now + longestStay gap < begun + microsPeriod)
    {es : List Pass} (timely : scanMachine.Along (Timely gap) s es)
    (long : s.now + longestStay gap < (scanMachine.run s es).now) :
    ∃ front after, es = front ++ after ∧ JustHopped (scanMachine.run s front) ∧
      (scanMachine.run s front).freq = nextChannel s.freq ∧
      (scanMachine.run s front).now ≤ s.now + longestStay gap := by
  have hstay : Staying s.now gap s := .dwelling (by omega)
  obtain ⟨front, p, after, rfl, hhops, hfreq, hbound⟩ :=
    hop_comes hstay stamped before before near timely long
  obtain ⟨hjust, hnext, hended⟩ := step_hops hhops
  have hrun : scanMachine.run s (front ++ [p]) = (step (scanMachine.run s front) p).1 :=
    scanMachine.run_append front [p]
  refine ⟨front ++ [p], after, by simp, ?_⟩
  rw [hrun]
  exact ⟨hjust, hnext.trans (congrArg nextChannel hfreq), hended.trans_le hbound⟩

/-- So many hops take at most so many longest stays. -/
theorem hop_times {gap : ℕ} (n : ℕ) {begun : ℕ} {s : Scan} (stamped : s.lastHopUs = microsAt begun)
    (before : begun ≤ s.now) (near : s.now + longestStay gap < begun + microsPeriod)
    {es : List Pass} (timely : scanMachine.Along (Timely gap) s es)
    (long : s.now + (n + 1) * longestStay gap < (scanMachine.run s es).now) :
    ∃ front after, es = front ++ after ∧
      (scanMachine.run s front).freq = nextChannel^[n + 1] s.freq ∧
      (scanMachine.run s front).now ≤ s.now + (n + 1) * longestStay gap := by
  induction n generalizing begun s es with
  | zero =>
    rw [Nat.zero_add, Nat.one_mul] at long ⊢
    obtain ⟨front, after, hes, -, hfreq, hbound⟩ := hop_once stamped before near timely long
    exact ⟨front, after, hes, hfreq, hbound⟩
  | succ n ih =>
    rw [Nat.succ_mul (n + 1)] at long ⊢
    obtain ⟨front, after, rfl, hjust, hfreq, hbound⟩ :=
      hop_once stamped before near timely (by omega)
    obtain ⟨-, hrest⟩ := scanMachine.along_append.mp timely
    rw [scanMachine.run_append] at long
    obtain ⟨front', after', rfl, hfreq', hbound'⟩ :=
      ih hjust.stamped le_rfl (by omega) hrest (by omega)
    refine ⟨front ++ front', after', by simp, ?_, ?_⟩
    · rw [scanMachine.run_append, hfreq', hfreq]
      exact (Function.iterate_succ_apply nextChannel (n + 1) s.freq).symm
    · rw [scanMachine.run_append]
      omega

/-- Three hops from anywhere lead to every channel. -/
theorem channel_of_hops (freq : UInt32) {channel : UInt32} (h : channel ∈ channels) :
    ∃ n < 3, channel = nextChannel^[n + 1] freq := by
  have hround : ∀ first ∈ channels, channel = first ∨ channel = nextChannel first ∨
      channel = nextChannel (nextChannel first) := by
    intro first hfirst
    simp only [channels, List.mem_cons, List.not_mem_nil, or_false] at h hfirst
    rcases hfirst with rfl | rfl | rfl <;> rcases h with rfl | rfl | rfl <;> decide
  rcases hround _ (nextChannel_mem freq) with h | h | h
  · exact ⟨0, by omega, h⟩
  · exact ⟨1, by omega, h⟩
  · exact ⟨2, by omega, h⟩

/-- Whatever the bit SyncAddressMatch reads, a timely run of idle passes comes to every channel
within three longest stays. -/
theorem every_channel_is_visited (gap begun : ℕ) (s : Scan) (stamped : s.lastHopUs = microsAt begun)
    (before : begun ≤ s.now) (near : s.now + longestStay gap < begun + microsPeriod)
    (es : List Pass) (timely : scanMachine.Along (Timely gap) s es)
    (long : s.now + 3 * longestStay gap < (scanMachine.run s es).now) (channel : UInt32)
    (known : channel ∈ channels) :
    ∃ front after, es = front ++ after ∧ (scanMachine.run s front).freq = channel ∧
      (scanMachine.run s front).now ≤ s.now + 3 * longestStay gap := by
  obtain ⟨n, hn, rfl⟩ := channel_of_hops s.freq known
  have hle : (n + 1) * longestStay gap ≤ 3 * longestStay gap :=
    Nat.mul_le_mul_right _ (by omega)
  obtain ⟨front, after, hes, hfreq, hbound⟩ := hop_times n stamped before near timely (by omega)
  exact ⟨front, after, hes, hfreq, by omega⟩

/-- A radio that has hopped to the second channel. -/
def hopped : Scan := ⟨freqCh2, microsAt 1000, 0, 1000⟩

/-- Passes one after another, each of which takes a time and sees the bit. -/
def stuckPasses (period count : ℕ) : List Pass :=
  (List.range count).map fun i =>
    ⟨1000 + period * i, true, 1000 + period * i, 1000 + period * (i + 1)⟩

theorem first_channel_is_visited : ∃ front after, stuckPasses 100000 19 = front ++ after ∧
    (scanMachine.run hopped front).freq = freqCh1 ∧
      (scanMachine.run hopped front).now ≤ 1000 + 3 * longestStay 100000 :=
  every_channel_is_visited 100000 1000 hopped rfl (by decide) (by decide) (stuckPasses 100000 19)
    (by decide) (by decide) freqCh1 (by decide)

/-- Since the hop at a time no sighting has been stamped, or one has after the dwell. -/
structure Guarded (hopped : ℕ) (s : Scan) : Prop where
  stamped : s.lastHopUs = microsAt hopped
  passed : hopped ≤ s.now
  held : s.syncHoldSinceUs = 0 ∨ ∃ first, s.syncHoldSinceUs = microsAt first ∧
    hopped + 2700 < first ∧ first ≤ s.now

/-- A reception that holds a hop off leaves the radio alone. -/
theorem step_held {s s' : Scan} {p : Pass} (served : DwellServed s p)
    (h : receptionInProgress s p = (true, s', [])) :
    step s p = ({ s' with now := p.ended }, []) := by
  unfold step maybeHop
  rw [if_pos served, h]
  rfl

/-- A pass that sees the bit before the bound calls nothing. -/
theorem Guarded.step {hopped gap : ℕ} {s : Scan} {p : Pass} (h : Guarded hopped s)
    (timely : Timely gap s p) (sync : p.sync = true) (early : p.judged ≤ hopped + 2700 + 12000) :
    (IdleHops.step s p).2 = [] ∧ Guarded hopped (IdleHops.step s p).1 := by
  obtain ⟨hstamped, hpassed, hheld⟩ := h
  obtain ⟨hstarted, hjudged, hended, -⟩ := timely
  have hlater : s.now ≤ p.ended := (hstarted.trans hjudged).trans hended
  have hsync : ¬ p.sync = false := by simp [sync]
  by_cases hserved : DwellServed s p
  · have hlate : hopped + 2700 < p.started := by
      have hclock := UInt32.lt_iff_toNat_lt.mp hserved
      have hdwell : hopTimeUs.toNat = 2700 := rfl
      rw [hstamped, hdwell, microsAt_sub (by omega) (by unfold microsPeriod; omega)] at hclock
      omega
    by_cases hfree : s.syncHoldSinceUs = 0
    · have hreception : receptionInProgress s p =
          (true, { s with syncHoldSinceUs := microsAt p.judged }, []) := by
        rw [receptionInProgress, if_neg hsync, if_pos hfree]
      rw [step_held hserved hreception]
      exact ⟨rfl, hstamped, hpassed.trans hlater, Or.inr ⟨p.judged, rfl, by omega, hended⟩⟩
    · obtain ⟨first, hfirst, hafter, hnow⟩ := hheld.resolve_left hfree
      have hyoung : microsAt p.judged - s.syncHoldSinceUs < rxHopHoldoffUs := by
        have hbound : rxHopHoldoffUs.toNat = 12000 := rfl
        rw [UInt32.lt_iff_toNat_lt, hfirst, hbound, microsAt_sub (by omega)
          (by unfold microsPeriod; omega)]
        omega
      have hreception : receptionInProgress s p = (true, s, []) := by
        rw [receptionInProgress, if_neg hsync, if_neg hfree, if_pos hyoung]
      rw [step_held hserved hreception]
      exact ⟨rfl, hstamped, hpassed.trans hlater,
        Or.inr ⟨first, hfirst, hafter, hnow.trans hlater⟩⟩
  · obtain ⟨hstate, hcalls⟩ := step_dwelling hserved
    rw [hstate]
    refine ⟨hcalls, hstamped, hpassed.trans hlater, hheld.imp_right ?_⟩
    rintro ⟨first, hfirst, hafter, hnow⟩
    exact ⟨first, hfirst, hafter, hnow.trans hlater⟩

/-- After a hop, a bit that every pass sees keeps the radio on its channel and in Rx until the
bound after the dwell: a frame may take that long. -/
theorem reception_is_left_alone (gap : ℕ) (s : Scan) (just : JustHopped s) (es : List Pass)
    (timely : scanMachine.Along (Timely gap) s es)
    (receiving : ∀ p ∈ es, p.sync = true ∧ p.judged ≤ s.now + 2700 + 12000) :
    scanMachine.outputs s es = [] := by
  have hfrom : ∀ {hopped : ℕ} {s : Scan}, Guarded hopped s →
      scanMachine.Along (Timely gap) s es →
      (∀ p ∈ es, p.sync = true ∧ p.judged ≤ hopped + 2700 + 12000) →
      scanMachine.outputs s es = [] := by
    intro hopped s hguarded htimely hreceiving
    clear just timely receiving
    induction es generalizing s with
    | nil => rfl
    | cons p es ih =>
      obtain ⟨hsync, hearly⟩ := hreceiving p List.mem_cons_self
      obtain ⟨hcalls, hnext⟩ := hguarded.step htimely.1 hsync hearly
      have hrest := ih hnext htimely.2 fun q hq => hreceiving q (List.mem_cons_of_mem _ hq)
      exact List.append_eq_nil_iff.mpr ⟨hcalls, hrest⟩
  exact hfrom ⟨just.stamped, le_rfl, Or.inl just.released⟩ timely receiving

theorem three_passes_leave_reception_alone :
    scanMachine.outputs hopped (stuckPasses 4000 3) = [] :=
  reception_is_left_alone 4000 hopped ⟨rfl, rfl⟩ (stuckPasses 4000 3) (by decide) (by decide)

end HomeIoControl.IdleHops
