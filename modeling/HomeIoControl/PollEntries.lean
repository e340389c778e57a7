import HomeIoControl.StatusPolls

/-!
# Poll entries one device at a time

What each operation of the poll policy does to the entry of every device, a missing entry being
the initial one. An operation keeps a schedule if no device that is still tracked loses its next
update by it.
-/

namespace HomeIoControl.PollEntries

open OrderedMaps StatusPolls StatusPolls.StatusPollPolicy

variable (p : StatusPollPolicy UInt32) (deviceId other : String)

theorem getNextUpdate_eq : p.getNextUpdate deviceId = (p.entry deviceId).nextUpdate := by
  unfold getNextUpdate entry
  cases p.find deviceId <;> rfl

theorem getInterval_eq : p.getInterval deviceId = (p.entry deviceId).intervalMs := by
  unfold getInterval entry
  cases p.find deviceId <;> rfl

theorem getPollDeadline_eq : p.getPollDeadline deviceId = (p.entry deviceId).pollDeadline := by
  unfold getPollDeadline entry
  cases p.find deviceId <;> rfl

theorem isTrackingActive_eq (now : UInt32) :
    p.isTrackingActive deviceId now = (p.entry deviceId).isActive now := by
  unfold isTrackingActive entry
  cases p.find deviceId <;> rfl

theorem entry_insert (t : PollTracking UInt32) :
    StatusPollPolicy.entry (p.insert deviceId t) other =
      if other = deviceId then t else p.entry other := by
  unfold entry
  rw [OrderedMap.find_insert]
  split_ifs <;> rfl

/-- The entry of a device whose tracking begins. -/
def begun (t : PollTracking UInt32) (initialDelayMs now : UInt32) : PollTracking UInt32 :=
  { t with
    pollDeadline := Clock.after now maxTrackedStatusPollWindowMs
    nextUpdate := if initialDelayMs = 0 then Clock.idle else Clock.after now initialDelayMs
    statusPollFailures := 0
    authPollFailures := 0 }

theorem entry_beginTracking (initialDelayMs now : UInt32) :
    (p.beginTracking deviceId initialDelayMs now).entry other =
      if other = deviceId then begun (p.entry deviceId) initialDelayMs now else p.entry other :=
  entry_insert p deviceId other _

theorem entry_clear :
    (p.clear deviceId).entry other =
      if other = deviceId then (p.entry deviceId).cleared else p.entry other := by
  unfold StatusPollPolicy.clear
  cases hfind : p.find deviceId with
  | none =>
    split_ifs with h
    · rw [h, entry, hfind]
      rfl
    · rfl
  | some t =>
    dsimp only
    rw [entry_insert, entry, entry, hfind]
    rfl

/-- The entry of a device after one more failed poll. -/
def afterFailure (t : PollTracking UInt32) (authLike : Bool) (now : UInt32) :
    PollTracking UInt32 :=
  if t.isActive now && Clock.notAfter (Clock.after now (t.backoffMs authLike)) t.pollDeadline then
    { t.countFailure authLike with nextUpdate := Clock.after now (t.backoffMs authLike) }
  else t.cleared

theorem entry_onExchangeFailed (authLike : Bool) (now : UInt32) :
    (p.onExchangeFailed deviceId authLike now).1.entry other =
      if other = deviceId then afterFailure (p.entry deviceId) authLike now
      else p.entry other := by
  unfold onExchangeFailed
  cases hfind : p.find deviceId with
  | none =>
    split_ifs with h
    · rw [h, entry, hfind]
      rfl
    · rfl
  | some t =>
    have hentry : p.entry deviceId = t := by rw [entry, hfind]; rfl
    rw [hentry]
    dsimp only
    unfold afterFailure
    split_ifs <;> simp_all [entry_insert]

theorem entry_clearFailureStreaks :
    (p.clearFailureStreaks deviceId).entry other =
      if other = deviceId then
        { p.entry deviceId with statusPollFailures := 0, authPollFailures := 0 }
      else p.entry other := by
  unfold clearFailureStreaks
  cases hfind : p.find deviceId with
  | none =>
    split_ifs with h
    · rw [h, entry, hfind]
      rfl
    · rfl
  | some t =>
    dsimp only
    rw [entry_insert, entry, entry, hfind]
    rfl

/-- The scan leaves an entry, clears one that is not tracked any more, or takes the schedule of
the device that is due. -/
theorem entry_popDueDevice (now : UInt32) :
    (p.popDueDevice now).1.entry other = p.entry other ∨
      (p.popDueDevice now).1.entry other = (p.entry other).cleared ∨
      (p.popDueDevice now).2 = some other ∧
        (p.popDueDevice now).1.entry other = { p.entry other with nextUpdate := 0 } := by
  have hscan : ∀ es : List (String × PollTracking UInt32),
      (lookup other (popDueEntries now es).1).getD .initial = (lookup other es).getD .initial ∨
        (lookup other (popDueEntries now es).1).getD .initial =
          ((lookup other es).getD .initial).cleared ∨
        (popDueEntries now es).2 = some other ∧
          (lookup other (popDueEntries now es).1).getD .initial =
            { (lookup other es).getD .initial with nextUpdate := 0 } := by
    intro es
    induction es with
    | nil => exact .inl rfl
    | cons e es ih =>
      obtain ⟨id, t⟩ := e
      unfold popDueEntries
      by_cases hid : other = id
      · subst hid
        split_ifs
        · exact .inl (by simp [lookup])
        · exact .inr (.inl (by simp [lookup]))
        · exact .inr (.inr (by simp [lookup, Clock.idle]))
      · split_ifs <;> simp [lookup, hid, ih]
  exact hscan p.entries

/-- The second entry is of the same window or of none, and while it is tracked it is scheduled if
the first was. -/
structure KeepsSchedule (now : UInt32) (t t' : PollTracking UInt32) : Prop where
  intervalMs : t'.intervalMs = t.intervalMs
  pollDeadline : t'.pollDeadline = t.pollDeadline ∨ t'.pollDeadline = 0
  nextUpdate : t'.isActive now = true → t'.nextUpdate = 0 → t.nextUpdate = 0

/-- A tracked device is scheduled. -/
def Scheduled (now : UInt32) (t : PollTracking UInt32) : Prop :=
  t.isActive now = true → t.nextUpdate ≠ 0

section

variable {now : UInt32} {t : PollTracking UInt32}

theorem KeepsSchedule.refl (t : PollTracking UInt32) : KeepsSchedule now t t :=
  ⟨rfl, .inl rfl, fun _ h => h⟩

/-- A window that is open was open before. -/
theorem isActive_earlier {earlier : UInt32} (h : earlier ≤ now) (active : t.isActive now = true) :
    t.isActive earlier = true := by
  obtain ⟨hset, hopen⟩ := Bool.and_eq_true_iff.mp active
  have hopen' : now ≤ t.pollDeadline := of_decide_eq_true hopen
  exact Bool.and_eq_true_iff.mpr ⟨hset, decide_eq_true (UInt32.le_trans h hopen')⟩

/-- Only a window that was open can be open. -/
theorem KeepsSchedule.isActive {t' : PollTracking UInt32} (h : KeepsSchedule now t t')
    (active : t'.isActive now = true) : t.isActive now = true := by
  rcases h.pollDeadline with hsame | hnone
  · unfold PollTracking.isActive at active ⊢
    rwa [hsame] at active
  · unfold PollTracking.isActive at active
    rw [hnone] at active
    exact absurd active Bool.false_ne_true

theorem keepsSchedule_cleared (t : PollTracking UInt32) : KeepsSchedule now t t.cleared :=
  ⟨rfl, .inr rfl, fun h => absurd h Bool.false_ne_true⟩

theorem scheduled_cleared (t : PollTracking UInt32) : Scheduled now t.cleared :=
  fun h => absurd h Bool.false_ne_true

/-- A device whose backoff is no idle marker is scheduled after a failure, or given up. -/
theorem afterFailure_scheduled {authLike : Bool} {failed : UInt32}
    (h : failed + t.backoffMs authLike ≠ 0) : Scheduled now (afterFailure t authLike failed) := by
  unfold afterFailure
  split_ifs
  · exact fun _ => h
  · exact scheduled_cleared t

theorem afterFailure_keepsSchedule {authLike : Bool} {failed : UInt32}
    (h : failed + t.backoffMs authLike ≠ 0) :
    KeepsSchedule now t (afterFailure t authLike failed) := by
  have hscheduled : Scheduled now (afterFailure t authLike failed) := afterFailure_scheduled h
  unfold afterFailure at hscheduled ⊢
  split_ifs at hscheduled ⊢
  · cases authLike <;> exact ⟨rfl, .inl rfl, fun hactive hidle => absurd hidle (hscheduled hactive)⟩
  · exact keepsSchedule_cleared t

end

/-- A device whose first delay is no idle marker is scheduled when its tracking begins. -/
theorem begun_scheduled (now : UInt32) (t : PollTracking UInt32) {delay start : UInt32}
    (hdelay : delay ≠ 0) (h : start + delay ≠ 0) : Scheduled now (begun t delay start) := by
  intro _
  unfold begun
  rw [if_neg hdelay]
  exact h

/-- Every schedule is kept, and the device is scheduled if it is still tracked. -/
structure Settles (now : UInt32) (deviceId : String) (p p' : StatusPollPolicy UInt32) : Prop where
  keeps : ∀ other, KeepsSchedule now (p.entry other) (p'.entry other)
  scheduled : Scheduled now (p'.entry deviceId)

theorem clear_settles (now : UInt32) : Settles now deviceId p (p.clear deviceId) := by
  refine ⟨fun other => ?_, ?_⟩
  · rw [entry_clear]
    split_ifs with h
    · rw [h]
      exact keepsSchedule_cleared _
    · exact KeepsSchedule.refl _
  · rw [entry_clear, if_pos rfl]
    exact scheduled_cleared _

theorem setNextUpdate_settles (now : UInt32) {next : UInt32} (h : next ≠ 0) :
    Settles now deviceId p (p.setNextUpdate deviceId next) := by
  refine ⟨fun other => ?_, ?_⟩
  · unfold setNextUpdate
    rw [entry_insert]
    split_ifs with heq
    · rw [heq]
      exact ⟨rfl, .inl rfl, fun _ hidle => absurd hidle h⟩
    · exact KeepsSchedule.refl _
  · unfold setNextUpdate
    rw [entry_insert, if_pos rfl]
    exact fun _ => h

theorem onExchangeFailed_settles (now : UInt32) {authLike : Bool} {failed : UInt32}
    (h : failed + (p.entry deviceId).backoffMs authLike ≠ 0) :
    Settles now deviceId p (p.onExchangeFailed deviceId authLike failed).1 := by
  refine ⟨fun other => ?_, ?_⟩
  · rw [entry_onExchangeFailed]
    split_ifs with heq
    · rw [heq]
      exact afterFailure_keepsSchedule h
    · exact KeepsSchedule.refl _
  · rw [entry_onExchangeFailed, if_pos rfl]
    exact afterFailure_scheduled h

theorem clearFailureStreaks_keeps (now : UInt32) :
    KeepsSchedule now (p.entry other) ((p.clearFailureStreaks deviceId).entry other) := by
  rw [entry_clearFailureStreaks]
  split_ifs with h
  · rw [h]
    exact ⟨rfl, .inl rfl, fun _ hidle => hidle⟩
  · exact KeepsSchedule.refl _

theorem retryDelayMs_ne_zero (failures : UInt8) (authLike : Bool) :
    retryDelayMs failures authLike ≠ 0 := by
  unfold retryDelayMs
  split_ifs <;> decide

theorem retryDelayMs_le (failures : UInt8) (authLike : Bool) :
    (retryDelayMs failures authLike).toNat ≤ maxTrackedStatusPollWindowMs.toNat := by
  unfold retryDelayMs
  split_ifs <;> decide

/-- A settle delay is the configured interval at most, or the default. -/
theorem settleDelayMs_le (intervalMs hintDelayMs : UInt32) (capForStop : Bool) :
    (settleDelayMs intervalMs hintDelayMs capForStop).toNat ≤
      intervalMs.toNat + defaultSettlePollDelayMs.toNat := by
  have hmin : ∀ a b : UInt32, (min a b).toNat ≤ a.toNat := by
    intro a b
    change (if a ≤ b then a else b).toNat ≤ a.toNat
    split_ifs with h
    · exact Nat.le_refl _
    · exact UInt32.le_iff_toNat_le.mp (UInt32.le_of_lt (UInt32.not_le.mp h))
  have hbase : (if intervalMs ≠ 0 then intervalMs else defaultSettlePollDelayMs).toNat ≤
      intervalMs.toNat + defaultSettlePollDelayMs.toNat := by
    split_ifs
    · exact Nat.le_add_right _ _
    · exact Nat.le_add_left _ _
  have hhint : ∀ delay : UInt32,
      (if hintDelayMs ≠ 0 then min delay hintDelayMs else delay).toNat ≤ delay.toNat := by
    intro delay
    split_ifs
    · exact hmin _ _
    · exact Nat.le_refl _
  have hstop : ∀ delay : UInt32,
      (if capForStop then min delay stopSettlePollCapMs else delay).toNat ≤ delay.toNat := by
    intro delay
    split_ifs
    · exact hmin _ _
    · exact Nat.le_refl _
  exact Nat.le_trans (hstop _) (Nat.le_trans (hhint _) hbase)

end HomeIoControl.PollEntries
