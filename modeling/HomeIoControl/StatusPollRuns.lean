import HomeIoControl.MachineRuns
import HomeIoControl.StatusPolls

/-!
# Runs of the poll policy across the millisecond wrap

The hub runs the policy on 32-bit milliseconds; its specification is the same policy on unbounded
ones. The two agree on a run for as long as every comparison of a call's time with a stored
deadline comes out the same on the wrapped times.
-/

namespace HomeIoControl.StatusPollRuns

open MachineRuns OrderedMaps StatusPolls

/-- The calls on the policy, with their times. -/
inductive Call (τ : Type) where
  | setInterval (deviceId : String) (intervalMs : UInt32)
  | beginTracking (deviceId : String) (initialDelayMs : UInt32) (now : τ)
  | clear (deviceId : String)
  | setNextUpdate (deviceId : String) (absTime : τ)
  | onExchangeFailed (deviceId : String) (authLike : Bool) (now : τ)
  | clearFailureStreaks (deviceId : String)
  | isTrackingActive (deviceId : String) (now : τ)
  | popDueDevice (now : τ)
  deriving DecidableEq

/-- What a call answers. -/
inductive Result where
  | backoff (ms : UInt32)
  | active (isActive : Bool)
  | due (deviceId : Option String)
  deriving DecidableEq

/-- One call on the policy. -/
def call {τ : Type} [Clock τ] (p : StatusPollPolicy τ) :
    Call τ → StatusPollPolicy τ × List Result
  | .setInterval deviceId intervalMs => (p.setInterval deviceId intervalMs, [])
  | .beginTracking deviceId initialDelayMs now => (p.beginTracking deviceId initialDelayMs now, [])
  | .clear deviceId => (p.clear deviceId, [])
  | .setNextUpdate deviceId absTime => (p.setNextUpdate deviceId absTime, [])
  | .onExchangeFailed deviceId authLike now =>
    ((p.onExchangeFailed deviceId authLike now).1,
      [.backoff (p.onExchangeFailed deviceId authLike now).2])
  | .clearFailureStreaks deviceId => (p.clearFailureStreaks deviceId, [])
  | .isTrackingActive deviceId now => (p, [.active (p.isTrackingActive deviceId now)])
  | .popDueDevice now => ((p.popDueDevice now).1, [.due (p.popDueDevice now).2])

def policyMachine (τ : Type) [Clock τ] : Machine (StatusPollPolicy τ) (Call τ) Result := ⟨call⟩

/-- `millis()` at a true time. -/
def wrap (time : ℕ) : UInt32 := UInt32.ofNat time

def wrapTracking (t : PollTracking ℕ) : PollTracking UInt32 :=
  ⟨t.intervalMs, wrap t.nextUpdate, wrap t.pollDeadline, t.statusPollFailures, t.authPollFailures⟩

def wrapPolicy : StatusPollPolicy ℕ → StatusPollPolicy UInt32 := OrderedMap.mapValues wrapTracking

/-- The call as the hub makes it: with the wrapped time. -/
def Call.wrap : Call ℕ → Call UInt32
  | .setInterval deviceId intervalMs => .setInterval deviceId intervalMs
  | .beginTracking deviceId initialDelayMs now =>
    .beginTracking deviceId initialDelayMs (StatusPollRuns.wrap now)
  | .clear deviceId => .clear deviceId
  | .setNextUpdate deviceId absTime => .setNextUpdate deviceId (StatusPollRuns.wrap absTime)
  | .onExchangeFailed deviceId authLike now =>
    .onExchangeFailed deviceId authLike (StatusPollRuns.wrap now)
  | .clearFailureStreaks deviceId => .clearFailureStreaks deviceId
  | .isTrackingActive deviceId now => .isTrackingActive deviceId (StatusPollRuns.wrap now)
  | .popDueDevice now => .popDueDevice (StatusPollRuns.wrap now)

/-- The wrapped deadline and time answer "set and not passed" as the true ones do. -/
def ActiveAgrees (now deadline : ℕ) : Prop :=
  deadline % 2 ^ 32 ≠ 0 ∧ now % 2 ^ 32 ≤ deadline % 2 ^ 32 ↔ deadline ≠ 0 ∧ now ≤ deadline

/-- The wrapped schedule and time answer "scheduled and passed" as the true ones do. -/
def DueAgrees (now scheduled : ℕ) : Prop :=
  scheduled % 2 ^ 32 ≠ 0 ∧ scheduled % 2 ^ 32 < now % 2 ^ 32 ↔ scheduled ≠ 0 ∧ scheduled < now

instance (now deadline : ℕ) : Decidable (ActiveAgrees now deadline) :=
  inferInstanceAs (Decidable (_ ↔ _))

instance (now scheduled : ℕ) : Decidable (DueAgrees now scheduled) :=
  inferInstanceAs (Decidable (_ ↔ _))

/-- The scan meets only entries whose comparisons agree, up to the first due device. -/
def ScanAgrees (now : ℕ) : List (String × PollTracking ℕ) → Prop
  | [] => True
  | (_, t) :: rest =>
    DueAgrees now t.nextUpdate ∧
    if t.nextUpdate ≠ 0 ∧ t.nextUpdate < now then
      ActiveAgrees now t.pollDeadline ∧ (t.isActive now = false → ScanAgrees now rest)
    else ScanAgrees now rest

instance decidableScanAgrees (now : ℕ) :
    (es : List (String × PollTracking ℕ)) → Decidable (ScanAgrees now es)
  | [] => isTrue trivial
  | (_, t) :: rest =>
    have := decidableScanAgrees now rest
    inferInstanceAs (Decidable (DueAgrees now t.nextUpdate ∧
      if t.nextUpdate ≠ 0 ∧ t.nextUpdate < now then
        ActiveAgrees now t.pollDeadline ∧ (t.isActive now = false → ScanAgrees now rest)
      else ScanAgrees now rest))

/-- Every comparison that the call makes agrees on wrapped and on true times. -/
def WrapAgrees (p : StatusPollPolicy ℕ) : Call ℕ → Prop
  | .onExchangeFailed deviceId authLike now => ∀ t ∈ p.find deviceId,
    ActiveAgrees now t.pollDeadline ∧ (t.isActive now = true →
      ((now + (t.backoffMs authLike).toNat) % 2 ^ 32 ≤ t.pollDeadline % 2 ^ 32 ↔
        now + (t.backoffMs authLike).toNat ≤ t.pollDeadline))
  | .isTrackingActive deviceId now => ∀ t ∈ p.find deviceId, ActiveAgrees now t.pollDeadline
  | .popDueDevice now => ScanAgrees now p.entries
  | _ => True

instance (p : StatusPollPolicy ℕ) : (c : Call ℕ) → Decidable (WrapAgrees p c)
  | .onExchangeFailed _ _ _ => inferInstanceAs (Decidable (∀ _ ∈ _, _))
  | .isTrackingActive _ _ => inferInstanceAs (Decidable (∀ _ ∈ _, _))
  | .popDueDevice now => inferInstanceAs (Decidable (ScanAgrees now p.entries))
  | .setInterval _ _ => isTrue trivial
  | .beginTracking _ _ _ => isTrue trivial
  | .clear _ => isTrue trivial
  | .setNextUpdate _ _ => isTrue trivial
  | .clearFailureStreaks _ => isTrue trivial

/-- Two times in the same turn of the 32-bit clock compare as their wrapped values do. -/
theorem activeAgrees_of_same_turn {now deadline : ℕ} (hturn : now / 2 ^ 32 = deadline / 2 ^ 32)
    (hidle : deadline % 2 ^ 32 ≠ 0) : ActiveAgrees now deadline := by
  unfold ActiveAgrees
  omega

theorem dueAgrees_of_same_turn {now scheduled : ℕ} (hturn : now / 2 ^ 32 = scheduled / 2 ^ 32)
    (hidle : scheduled % 2 ^ 32 ≠ 0) : DueAgrees now scheduled := by
  unfold DueAgrees
  omega

@[simp] theorem wrap_toNat (time : ℕ) : (wrap time).toNat = time % 2 ^ 32 := by
  simp [wrap]

@[simp] theorem wrap_idle : wrap 0 = 0 := rfl

theorem wrap_add (time : ℕ) (delay : UInt32) :
    wrap time + delay = wrap (time + delay.toNat) := by
  apply UInt32.toNat_inj.mp
  simp [wrap]

theorem isIdle_wrap (time : ℕ) : Clock.isIdle (wrap time) = decide (time % 2 ^ 32 = 0) := by
  rw [← wrap_toNat]
  exact decide_eq_decide.mpr ⟨fun h => congrArg UInt32.toNat h, fun h => UInt32.toNat_inj.mp h⟩

theorem notAfter_wrap (now time : ℕ) :
    Clock.notAfter (wrap now) (wrap time) = decide (now % 2 ^ 32 ≤ time % 2 ^ 32) := by
  rw [← wrap_toNat, ← wrap_toNat]
  exact decide_eq_decide.mpr UInt32.le_iff_toNat_le

theorem isActive_iff {now : ℕ} {t : PollTracking ℕ} :
    t.isActive now = true ↔ t.pollDeadline ≠ 0 ∧ now ≤ t.pollDeadline := by
  simp [PollTracking.isActive, Clock.isIdle, Clock.notAfter]

theorem isActive_wrap {now : ℕ} {t : PollTracking ℕ} (h : ActiveAgrees now t.pollDeadline) :
    (wrapTracking t).isActive (wrap now) = t.isActive now := by
  rw [Bool.eq_iff_iff, isActive_iff, ← show _ ↔ _ from h]
  simp [PollTracking.isActive, wrapTracking, isIdle_wrap, notAfter_wrap]

theorem isDue_iff {now scheduled : ℕ} :
    (Clock.isIdle scheduled || Clock.notAfter now scheduled) = false ↔
      scheduled ≠ 0 ∧ scheduled < now := by
  simp [Clock.isIdle, Clock.notAfter]

theorem isDue_wrap {now scheduled : ℕ} (h : DueAgrees now scheduled) :
    (Clock.isIdle (wrap scheduled) || Clock.notAfter (wrap now) (wrap scheduled)) =
      (Clock.isIdle scheduled || Clock.notAfter now scheduled) := by
  rw [Bool.eq_iff_iff, ← not_iff_not, Bool.not_eq_true, Bool.not_eq_true, isDue_iff,
    ← show _ ↔ _ from h, isIdle_wrap, notAfter_wrap]
  simp

@[simp] theorem wrapTracking_cleared (t : PollTracking ℕ) :
    wrapTracking t.cleared = (wrapTracking t).cleared := rfl

@[simp] theorem wrapTracking_initial : wrapTracking .initial = .initial := rfl

theorem wrapTracking_countFailure (t : PollTracking ℕ) (authLike : Bool) :
    wrapTracking (t.countFailure authLike) = (wrapTracking t).countFailure authLike := by
  cases authLike <;> rfl

theorem backoffMs_wrap (t : PollTracking ℕ) (authLike : Bool) :
    (wrapTracking t).backoffMs authLike = t.backoffMs authLike := by
  cases authLike <;> rfl

@[simp] theorem find_wrapPolicy (p : StatusPollPolicy ℕ) (deviceId : String) :
    (wrapPolicy p).find deviceId = (p.find deviceId).map wrapTracking :=
  OrderedMap.find_mapValues _ p deviceId

theorem insert_wrapPolicy (p : StatusPollPolicy ℕ) (deviceId : String) (t : PollTracking ℕ) :
    (wrapPolicy p).insert deviceId (wrapTracking t) = wrapPolicy (p.insert deviceId t) :=
  (OrderedMap.mapValues_insert _ p deviceId t).symm

theorem entry_wrapPolicy (p : StatusPollPolicy ℕ) (deviceId : String) :
    (wrapPolicy p).entry deviceId = wrapTracking (p.entry deviceId) := by
  rw [StatusPollPolicy.entry, find_wrapPolicy, StatusPollPolicy.entry]
  cases p.find deviceId <;> rfl

/-- The wrapped scan finds the same device and leaves the wrapped entries. -/
theorem popDueEntries_wrap {now : ℕ} {es : List (String × PollTracking ℕ)}
    (h : ScanAgrees now es) :
    StatusPollPolicy.popDueEntries (wrap now) (es.map fun e => (e.1, wrapTracking e.2)) =
      ((StatusPollPolicy.popDueEntries now es).1.map fun e => (e.1, wrapTracking e.2),
        (StatusPollPolicy.popDueEntries now es).2) := by
  induction es with
  | nil => rfl
  | cons e es ih =>
    obtain ⟨deviceId, t⟩ := e
    obtain ⟨hdue, hrest⟩ := h
    simp only [List.map_cons, StatusPollPolicy.popDueEntries]
    rw [show (wrapTracking t).nextUpdate = wrap t.nextUpdate from rfl, isDue_wrap hdue]
    cases hskip : Clock.isIdle t.nextUpdate || Clock.notAfter now t.nextUpdate with
    | true =>
      rw [if_neg fun hs => by simp [isDue_iff.mpr hs] at hskip] at hrest
      simp [ih hrest]
    | false =>
      rw [if_pos (isDue_iff.mp hskip)] at hrest
      rw [isActive_wrap hrest.1]
      cases hactive : t.isActive now with
      | true => rfl
      | false => simp [ih (hrest.2 hactive)]

/-- A back-off fits before the deadline after wrapping as well. -/
theorem backoffWithin_wrap {t : PollTracking ℕ} {now : ℕ} (authLike : Bool)
    (hactive : ActiveAgrees now t.pollDeadline)
    (hbackoff : t.isActive now = true →
      ((now + (t.backoffMs authLike).toNat) % 2 ^ 32 ≤ t.pollDeadline % 2 ^ 32 ↔
        now + (t.backoffMs authLike).toNat ≤ t.pollDeadline)) :
    ((wrapTracking t).isActive (wrap now) && Clock.notAfter
        (Clock.after (wrap now) ((wrapTracking t).backoffMs authLike))
        (wrapTracking t).pollDeadline) =
      (t.isActive now && Clock.notAfter (Clock.after now (t.backoffMs authLike)) t.pollDeadline) :=
    by
  rw [isActive_wrap hactive, backoffMs_wrap]
  cases ht : t.isActive now with
  | false => rfl
  | true =>
    have hafter : Clock.after (wrap now) (t.backoffMs authLike) =
        wrap (now + (t.backoffMs authLike).toNat) := wrap_add now _
    rw [Bool.true_and, Bool.true_and, hafter,
      show (wrapTracking t).pollDeadline = wrap t.pollDeadline from rfl, notAfter_wrap]
    exact decide_eq_decide.mpr (hbackoff ht)

/-- One call whose comparisons agree commutes with wrapping. -/
theorem call_wrap {p : StatusPollPolicy ℕ} {c : Call ℕ} (h : WrapAgrees p c) :
    call (wrapPolicy p) c.wrap = (wrapPolicy (call p c).1, (call p c).2) := by
  cases c with
  | setInterval deviceId intervalMs =>
    simp only [Call.wrap, call, StatusPollPolicy.setInterval, entry_wrapPolicy,
      ← insert_wrapPolicy]
    rfl
  | beginTracking deviceId initialDelayMs now =>
    simp only [Call.wrap, call, StatusPollPolicy.beginTracking, entry_wrapPolicy,
      ← insert_wrapPolicy]
    by_cases hdelay : initialDelayMs = 0 <;>
      simp [hdelay, wrapTracking, Clock.after, Clock.idle, ← wrap_add]
  | clear deviceId =>
    simp only [Call.wrap, call, StatusPollPolicy.clear, find_wrapPolicy]
    cases p.find deviceId with
    | none => rfl
    | some t => simp [← insert_wrapPolicy]
  | setNextUpdate deviceId absTime =>
    simp only [Call.wrap, call, StatusPollPolicy.setNextUpdate, entry_wrapPolicy,
      ← insert_wrapPolicy]
    rfl
  | onExchangeFailed deviceId authLike now =>
    simp only [Call.wrap, call, StatusPollPolicy.onExchangeFailed, find_wrapPolicy]
    cases hfind : p.find deviceId with
    | none => rfl
    | some t =>
      obtain ⟨hactive, hbackoff⟩ := h t hfind
      have hwithin := backoffWithin_wrap authLike hactive hbackoff
      simp only [Option.map_some, hwithin]
      split
      · simp only [← insert_wrapPolicy, backoffMs_wrap, ← wrapTracking_countFailure]
        simp [wrapTracking, Clock.after, wrap_add]
      · simp [← insert_wrapPolicy]
  | clearFailureStreaks deviceId =>
    simp only [Call.wrap, call, StatusPollPolicy.clearFailureStreaks, find_wrapPolicy]
    cases p.find deviceId with
    | none => rfl
    | some t => simp [← insert_wrapPolicy, wrapTracking]
  | isTrackingActive deviceId now =>
    simp only [Call.wrap, call, StatusPollPolicy.isTrackingActive, find_wrapPolicy]
    cases hfind : p.find deviceId with
    | none => rfl
    | some t => simp [isActive_wrap (h t hfind)]
  | popDueDevice now =>
    simp only [Call.wrap, call, StatusPollPolicy.popDueDevice]
    have hscan : StatusPollPolicy.popDueEntries (StatusPollRuns.wrap now)
      (wrapPolicy p).entries = _ := popDueEntries_wrap h
    simp only [hscan]
    rfl

/-- When tracking of a device was last begun. -/
def lastBegun (deviceId : String) : List (Call ℕ) → Option ℕ
  | [] => none
  | c :: cs => (lastBegun deviceId cs).or (match c with
    | .beginTracking deviceId' _ now => if deviceId' = deviceId then some now else none
    | _ => none)

/-- Every deadline is the end of the window begun last. -/
def WindowsBegun (calls : List (Call ℕ)) (p : StatusPollPolicy ℕ) : Prop :=
  ∀ deviceId t, p.find deviceId = some t → t.pollDeadline ≠ 0 →
    ∃ begun, lastBegun deviceId calls = some begun ∧
      t.pollDeadline = begun + maxTrackedStatusPollWindowMs.toNat

theorem lastBegun_append (deviceId : String) (cs ds : List (Call ℕ)) :
    lastBegun deviceId (cs ++ ds) = (lastBegun deviceId ds).or (lastBegun deviceId cs) := by
  induction cs with
  | nil => simp [lastBegun]
  | cons c cs ih => simp [lastBegun, ih, Option.or_assoc]

/-- An update that keeps every deadline or clears it keeps the windows. -/
theorem WindowsBegun.keep {calls : List (Call ℕ)} {p p' : StatusPollPolicy ℕ}
    (h : WindowsBegun calls p) {c : Call ℕ}
    (hc : ∀ deviceId, lastBegun deviceId [c] = none)
    (hkeep : ∀ deviceId t', p'.find deviceId = some t' → t'.pollDeadline ≠ 0 →
      ∃ t, p.find deviceId = some t ∧ t.pollDeadline = t'.pollDeadline) :
    WindowsBegun (calls ++ [c]) p' := by
  intro deviceId t' ht' hne
  obtain ⟨t, ht, hdeadline⟩ := hkeep deviceId t' ht' hne
  rw [lastBegun_append, hc, Option.none_or, ← hdeadline]
  exact h deviceId t ht (hdeadline ▸ hne)

/-- Inserting an entry whose deadline is that of the old one, or cleared. -/
theorem insert_keeps {p : StatusPollPolicy ℕ} {deviceId : String} {new : PollTracking ℕ}
    (hnew : new.pollDeadline ≠ 0 → new.pollDeadline = (p.entry deviceId).pollDeadline)
    (x : String) (t' : PollTracking ℕ) (ht' : (p.insert deviceId new).find x = some t')
    (hne : t'.pollDeadline ≠ 0) :
    ∃ t, p.find x = some t ∧ t.pollDeadline = t'.pollDeadline := by
  rw [OrderedMap.find_insert] at ht'
  split at ht'
  · next hx =>
    subst hx
    cases ht'
    have hentry := hnew hne
    rw [hentry] at hne ⊢
    unfold StatusPollPolicy.entry at hne ⊢
    cases hfind : p.find x with
    | none => simp [hfind, PollTracking.initial, Clock.idle] at hne
    | some t => exact ⟨t, rfl, by simp⟩
  · exact ⟨t', ht', rfl⟩

theorem popDueEntries_keeps {now : ℕ} {es : List (String × PollTracking ℕ)} {x : String}
    {t' : PollTracking ℕ} (h : lookup x (StatusPollPolicy.popDueEntries now es).1 = some t')
    (hne : t'.pollDeadline ≠ 0) : ∃ t, lookup x es = some t ∧ t.pollDeadline = t'.pollDeadline := by
  induction es with
  | nil => simp [StatusPollPolicy.popDueEntries, lookup] at h
  | cons e es ih =>
    obtain ⟨deviceId, t⟩ := e
    unfold StatusPollPolicy.popDueEntries at h
    by_cases hx : x = deviceId
    · subst hx
      refine ⟨t, by simp [lookup], ?_⟩
      split_ifs at h <;> simp [lookup] at h <;> subst h <;> first | rfl | exact absurd rfl hne
    · have hcons : lookup x ((deviceId, t) :: es) = lookup x es := by simp [lookup, hx]
      rw [hcons]
      split_ifs at h <;> simp [lookup, hx] at h
      · exact ih h
      · exact ih h
      · exact ⟨t', h, rfl⟩

theorem entry_of_find {p : StatusPollPolicy ℕ} {deviceId : String} {t : PollTracking ℕ}
    (h : p.find deviceId = some t) : p.entry deviceId = t := by
  rw [StatusPollPolicy.entry, h, Option.getD_some]

theorem windowsBegun_call {calls : List (Call ℕ)} {p : StatusPollPolicy ℕ}
    (h : WindowsBegun calls p) (c : Call ℕ) : WindowsBegun (calls ++ [c]) (call p c).1 := by
  cases c with
  | beginTracking deviceId initialDelayMs now =>
    intro x t' ht' hne
    rw [lastBegun_append]
    simp only [call, StatusPollPolicy.beginTracking, OrderedMap.find_insert] at ht'
    split at ht'
    · next hx =>
      cases ht'
      exact ⟨now, by simp [lastBegun, hx], rfl⟩
    · next hx =>
      simpa [lastBegun, Ne.symm hx] using h x t' ht' hne
  | setInterval deviceId intervalMs => exact h.keep (fun _ => rfl) (insert_keeps fun _ => rfl)
  | clear deviceId =>
    refine h.keep (fun _ => rfl) ?_
    simp only [call, StatusPollPolicy.clear]
    cases p.find deviceId with
    | none => exact fun _ t' ht' _ => ⟨t', ht', rfl⟩
    | some t => exact insert_keeps fun hne => absurd rfl hne
  | setNextUpdate deviceId absTime => exact h.keep (fun _ => rfl) (insert_keeps fun _ => rfl)
  | onExchangeFailed deviceId authLike now =>
    refine h.keep (fun _ => rfl) ?_
    simp only [call, StatusPollPolicy.onExchangeFailed]
    cases hfind : p.find deviceId with
    | none => exact fun _ t' ht' _ => ⟨t', ht', rfl⟩
    | some t =>
      dsimp only
      split
      · refine insert_keeps fun _ => ?_
        rw [entry_of_find hfind]
        cases authLike <;> rfl
      · exact insert_keeps fun hne => absurd rfl hne
  | clearFailureStreaks deviceId =>
    refine h.keep (fun _ => rfl) ?_
    simp only [call, StatusPollPolicy.clearFailureStreaks]
    cases hfind : p.find deviceId with
    | none => exact fun _ t' ht' _ => ⟨t', ht', rfl⟩
    | some t => exact insert_keeps fun _ => by rw [entry_of_find hfind]
  | isTrackingActive deviceId now =>
    exact h.keep (fun _ => rfl) fun _ t' ht' _ => ⟨t', ht', rfl⟩
  | popDueDevice now =>
    exact h.keep (fun _ => rfl) fun _ t' ht' hne => popDueEntries_keeps ht' hne

theorem windowsBegun_run (before calls : List (Call ℕ)) {p : StatusPollPolicy ℕ}
    (h : WindowsBegun before p) :
    WindowsBegun (before ++ calls) ((policyMachine ℕ).run p calls) := by
  induction calls generalizing before p with
  | nil => simpa using h
  | cons c calls ih =>
    have hcalls := ih (before ++ [c]) (windowsBegun_call h c)
    rwa [List.append_assoc, List.singleton_append] at hcalls

/-- What the scan pops was scheduled, is overdue, and lies in an active window. -/
theorem popDueEntries_due {now : ℕ} {es : List (String × PollTracking ℕ)} {deviceId : String}
    (h : (StatusPollPolicy.popDueEntries now es).2 = some deviceId) :
    ∃ t, (deviceId, t) ∈ es ∧ (t.nextUpdate ≠ 0 ∧ t.nextUpdate < now) ∧
      t.isActive now = true := by
  induction es with
  | nil => cases h
  | cons e es ih =>
    obtain ⟨x, t⟩ := e
    unfold StatusPollPolicy.popDueEntries at h
    split_ifs at h with hskip hinactive
    · obtain ⟨t', hmem, ht'⟩ := ih h
      exact ⟨t', List.mem_cons_of_mem _ hmem, ht'⟩
    · obtain ⟨t', hmem, ht'⟩ := ih h
      exact ⟨t', List.mem_cons_of_mem _ hmem, ht'⟩
    · cases h
      exact ⟨t, List.mem_cons_self, isDue_iff.mp (Bool.not_eq_true _ ▸ hskip), by
        simpa using hinactive⟩

/-- An overdue poll inside its window is popped, unless an earlier device is. -/
theorem popDueEntries_not_lost {now : ℕ} {es : List (String × PollTracking ℕ)}
    (hsorted : (es.map Prod.fst).Pairwise (· < ·)) {deviceId : String} {t : PollTracking ℕ}
    (hmem : (deviceId, t) ∈ es) (hdue : t.nextUpdate ≠ 0 ∧ t.nextUpdate < now)
    (hactive : t.isActive now = true) :
    ∃ x, (StatusPollPolicy.popDueEntries now es).2 = some x ∧ x ≤ deviceId := by
  induction es with
  | nil => cases hmem
  | cons e es ih =>
    obtain ⟨y, u⟩ := e
    obtain ⟨hhead, htail⟩ := List.pairwise_cons.mp hsorted
    unfold StatusPollPolicy.popDueEntries
    rcases List.mem_cons.mp hmem with heq | hmem
    · cases heq
      exact ⟨deviceId, by simp [isDue_iff.mpr hdue, hactive], le_rfl⟩
    · split_ifs
      · exact ih htail hmem
      · exact ih htail hmem
      · exact ⟨y, rfl, (hhead deviceId (List.mem_map_of_mem (f := Prod.fst) hmem)).le⟩

theorem outputs_wrap {p : StatusPollPolicy ℕ} {calls : List (Call ℕ)}
    (agrees : (policyMachine ℕ).Along WrapAgrees p calls) :
    (policyMachine UInt32).outputs (wrapPolicy p) (calls.map Call.wrap) =
      (policyMachine ℕ).outputs p calls ∧
    (policyMachine UInt32).run (wrapPolicy p) (calls.map Call.wrap) =
      wrapPolicy ((policyMachine ℕ).run p calls) := by
  induction calls generalizing p with
  | nil => exact ⟨rfl, rfl⟩
  | cons c calls ih =>
    have hcall := call_wrap agrees.1
    obtain ⟨hout, hrun⟩ := ih agrees.2
    simp only [List.map_cons, Machine.outputs_cons, Machine.run_cons]
    simp only [policyMachine] at hout hrun hcall ⊢
    rw [hcall]
    exact ⟨by rw [hout], hrun⟩

/-- The device that the hub pops at a time, after the given calls. -/
def poppedAt (before : List (Call ℕ)) (now : ℕ) : Option String :=
  (((policyMachine UInt32).run ∅ (before.map Call.wrap)).popDueDevice (wrap now)).2

/-- In every run whose comparisons agree, the hub's policy answers as the unbounded one. What it
pops was begun at most one window ago and is overdue; no overdue poll inside its window is lost. -/
theorem policy_refines_unbounded (calls : List (Call ℕ))
    (agrees : (policyMachine ℕ).Along WrapAgrees ∅ calls) :
    (policyMachine UInt32).outputs ∅ (calls.map Call.wrap) = (policyMachine ℕ).outputs ∅ calls ∧
    ∀ before now after, calls = before ++ .popDueDevice now :: after →
      (∀ deviceId ∈ poppedAt before now,
        (∃ begun, lastBegun deviceId before = some begun ∧
          now ≤ begun + maxTrackedStatusPollWindowMs.toNat) ∧
        ((policyMachine ℕ).run ∅ before).getNextUpdate deviceId < now) ∧
      (∀ deviceId, ((policyMachine ℕ).run ∅ before).getNextUpdate deviceId ≠ 0 →
        ((policyMachine ℕ).run ∅ before).getNextUpdate deviceId < now →
        ((policyMachine ℕ).run ∅ before).isTrackingActive deviceId now = true →
        ∃ popped, poppedAt before now = some popped ∧ popped ≤ deviceId) := by
  refine ⟨(outputs_wrap agrees).1, ?_⟩
  rintro before now after rfl
  obtain ⟨hbefore, hpop, -⟩ := (Machine.along_append _).mp agrees
  have hrun : (policyMachine UInt32).run ∅ (before.map Call.wrap) = wrapPolicy _ :=
    (outputs_wrap hbefore).2
  have hpopped : poppedAt before now =
      (StatusPollPolicy.popDueEntries now ((policyMachine ℕ).run ∅ before).entries).2 := by
    rw [poppedAt, hrun]
    exact congrArg Prod.snd (popDueEntries_wrap hpop)
  rw [hpopped]
  generalize hp : (policyMachine ℕ).run ∅ before = p
  constructor
  · intro deviceId hdue
    obtain ⟨t, hmem, ⟨hset, hlt⟩, hactive⟩ := popDueEntries_due hdue
    have hfind : p.find deviceId = some t := p.find_eq_some_iff.mpr hmem
    have hwindows := windowsBegun_run [] before (p := ∅) fun _ _ h => nomatch h
    rw [List.nil_append, hp] at hwindows
    obtain ⟨hne, hle⟩ := isActive_iff.mp hactive
    obtain ⟨begun, hbegun, hdeadline⟩ := hwindows deviceId t hfind hne
    exact ⟨⟨begun, hbegun, hdeadline ▸ hle⟩, by simpa [StatusPollPolicy.getNextUpdate, hfind]⟩
  · intro deviceId hset hlt hactive
    simp only [StatusPollPolicy.getNextUpdate, StatusPollPolicy.isTrackingActive] at hset hlt hactive
    cases hfind : p.find deviceId with
    | none => simp [hfind] at hactive
    | some t =>
      simp only [hfind] at hset hlt hactive
      exact popDueEntries_not_lost p.sorted (p.find_eq_some_iff.mp hfind) ⟨hset, hlt⟩ hactive

/-- A tracked cover is polled after its settle delay, and once more after a failure. -/
theorem policy_refines_unbounded_one_poll :
    (policyMachine UInt32).outputs ∅ ([.beginTracking "A1B2C3" 3000 1000, .popDueDevice 4000,
        .popDueDevice 4001, .onExchangeFailed "A1B2C3" false 4500].map Call.wrap) =
      [.due none, .due (some "A1B2C3"), .backoff 5000] := by
  rw [(policy_refines_unbounded [.beginTracking "A1B2C3" 3000 1000, .popDueDevice 4000,
    .popDueDevice 4001, .onExchangeFailed "A1B2C3" false 4500] (by decide)).1]
  decide

/-- The true times at which the calls are made. -/
def callTimes (calls : List (Call ℕ)) : List ℕ :=
  calls.filterMap fun
    | .beginTracking _ _ now => some now
    | .onExchangeFailed _ _ now => some now
    | .isTrackingActive _ now => some now
    | .popDueDevice now => some now
    | _ => none

/-- A poll scheduled just before the wrap for a time after it is dropped: the scan one
millisecond later takes it for overdue and its window for expired. -/
theorem policy_loses_poll_at_wrap : ¬ ∀ calls : List (Call ℕ),
    (callTimes calls).Pairwise (fun earlier later => earlier ≤ later ∧
      later - earlier < 2 ^ 31) →
    (policyMachine UInt32).outputs ∅ (calls.map Call.wrap) =
      (policyMachine ℕ).outputs ∅ calls := by
  intro h
  have hlost := h [.beginTracking "A1B2C3" 5000 4294966296, .popDueDevice 4294966297,
    .popDueDevice 4294971297] (by decide)
  exact absurd hlost (by decide)

end HomeIoControl.StatusPollRuns
