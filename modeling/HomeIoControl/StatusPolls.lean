import Mathlib.Data.String.Basic
import Mathlib.Data.Nat.Basic
import HomeIoControl.OrderedMaps

/-!
# Poll scheduling and failure backoff

The policy is written over a clock: 32-bit milliseconds as the hub runs it, or unbounded
milliseconds as its specification.
-/

namespace HomeIoControl.StatusPolls

open OrderedMaps

def statusRetryAfterFailMs : UInt32 := 5000
def statusRetryAfterFailStep2Ms : UInt32 := 15000
def statusRetryAfterFailStep3Ms : UInt32 := 30000
def statusRetryAfterFailStep4Ms : UInt32 := 60000
def statusRetryAfterFailMaxMs : UInt32 := 300000
def statusAuthRetryAfterFailMs : UInt32 := 30000
def statusAuthRetryAfterFailStep2Ms : UInt32 := 120000
def statusAuthRetryAfterFailMaxMs : UInt32 := 300000
def maxTrackedStatusPollWindowMs : UInt32 := 600000
def remoteActivityStatusPollDelayMs : UInt32 := 2000
def defaultSettlePollDelayMs : UInt32 := 3000
def stopSettlePollCapMs : UInt32 := 1000

/-- `settle_delay_ms`: a hint and a STOP may only shorten the configured or default delay. -/
def settleDelayMs (intervalMs hintDelayMs : UInt32) (capForStop : Bool) : UInt32 :=
  let delay := if intervalMs ≠ 0 then intervalMs else defaultSettlePollDelayMs
  let delay := if hintDelayMs ≠ 0 then min delay hintDelayMs else delay
  if capForStop then min delay stopSettlePollCapMs else delay

private theorem min_ne_zero {a b : UInt32} (ha : a ≠ 0) (hb : b ≠ 0) : min a b ≠ 0 := by
  change (if a ≤ b then a else b) ≠ 0
  split <;> assumption

/-- The settle delay never collides with the idle marker. -/
theorem settleDelayMs_ne_zero (intervalMs hintDelayMs : UInt32) (capForStop : Bool) :
    settleDelayMs intervalMs hintDelayMs capForStop ≠ 0 := by
  have hdefault : defaultSettlePollDelayMs ≠ 0 := by decide
  have hcap : stopSettlePollCapMs ≠ 0 := by decide
  unfold settleDelayMs
  split_ifs <;> simp_all [min_ne_zero]

/-- What the policy needs of a clock: the idle marker and its test, a delay, and the comparison
`now <= t`. -/
class Clock (τ : Type) where
  idle : τ
  isIdle : τ → Bool
  after : τ → UInt32 → τ
  notAfter : τ → τ → Bool

/-- `millis()`: 32-bit milliseconds, wrapping. -/
instance : Clock UInt32 :=
  ⟨0, fun t => t = 0, fun now delay => now + delay, fun now t => now ≤ t⟩

/-- Unbounded milliseconds. -/
instance : Clock ℕ :=
  ⟨0, fun t => t = 0, fun now delay => now + delay.toNat, fun now t => now ≤ t⟩

/-- Per-device poll scheduling state. -/
structure PollTracking (τ : Type) where
  intervalMs : UInt32
  nextUpdate : τ
  pollDeadline : τ
  statusPollFailures : UInt8
  authPollFailures : UInt8
  deriving DecidableEq

variable {τ : Type} [Clock τ]

namespace PollTracking

/-- The entry that `tracking_[device_id]` creates. -/
def initial : PollTracking τ := ⟨0, Clock.idle, Clock.idle, 0, 0⟩

def cleared (t : PollTracking τ) : PollTracking τ :=
  { t with
    nextUpdate := Clock.idle
    pollDeadline := Clock.idle
    statusPollFailures := 0
    authPollFailures := 0 }

/-- `is_tracking_active` for the entry of a device. -/
def isActive (t : PollTracking τ) (now : τ) : Bool :=
  !Clock.isIdle t.pollDeadline && Clock.notAfter now t.pollDeadline

/-- The failure streaks after one more failed background poll. -/
def countFailure (t : PollTracking τ) (authLike : Bool) : PollTracking τ :=
  if authLike then
    { t with
      statusPollFailures := 0
      authPollFailures := if t.authPollFailures < 255 then t.authPollFailures + 1
        else t.authPollFailures }
  else
    { t with
      authPollFailures := 0
      statusPollFailures := if t.statusPollFailures < 255 then t.statusPollFailures + 1
        else t.statusPollFailures }

end PollTracking

def retryDelayMs (consecutiveFailures : UInt8) (authLike : Bool) : UInt32 :=
  if authLike then
    if consecutiveFailures ≤ 1 then statusAuthRetryAfterFailMs
    else if consecutiveFailures = 2 then statusAuthRetryAfterFailStep2Ms
    else statusAuthRetryAfterFailMaxMs
  else
    if consecutiveFailures ≤ 1 then statusRetryAfterFailMs
    else if consecutiveFailures = 2 then statusRetryAfterFailStep2Ms
    else if consecutiveFailures = 3 then statusRetryAfterFailStep3Ms
    else if consecutiveFailures = 4 then statusRetryAfterFailStep4Ms
    else statusRetryAfterFailMaxMs

/-- The backoff after one more failure of the given class. -/
def PollTracking.backoffMs (t : PollTracking τ) (authLike : Bool) : UInt32 :=
  let t := t.countFailure authLike
  retryDelayMs (if authLike then t.authPollFailures else t.statusPollFailures) authLike

/-- `tracking_`: visited in the order of the device ids. -/
abbrev StatusPollPolicy (τ : Type) := OrderedMap String (PollTracking τ)

namespace StatusPollPolicy

/-- The reference `tracking_[device_id]`, creating the entry. -/
def entry (p : StatusPollPolicy τ) (deviceId : String) : PollTracking τ :=
  (p.find deviceId).getD .initial

def setInterval (p : StatusPollPolicy τ) (deviceId : String) (intervalMs : UInt32) :
    StatusPollPolicy τ :=
  p.insert deviceId { p.entry deviceId with intervalMs }

def getInterval (p : StatusPollPolicy τ) (deviceId : String) : UInt32 :=
  match p.find deviceId with
  | some t => t.intervalMs
  | none => 0

def beginTracking (p : StatusPollPolicy τ) (deviceId : String) (initialDelayMs : UInt32)
    (now : τ) : StatusPollPolicy τ :=
  p.insert deviceId { p.entry deviceId with
    pollDeadline := Clock.after now maxTrackedStatusPollWindowMs
    nextUpdate := if initialDelayMs = 0 then Clock.idle else Clock.after now initialDelayMs
    statusPollFailures := 0
    authPollFailures := 0 }

def clear (p : StatusPollPolicy τ) (deviceId : String) : StatusPollPolicy τ :=
  match p.find deviceId with
  | none => p
  | some t => p.insert deviceId t.cleared

def setNextUpdate (p : StatusPollPolicy τ) (deviceId : String) (absTime : τ) :
    StatusPollPolicy τ :=
  p.insert deviceId { p.entry deviceId with nextUpdate := absTime }

def getNextUpdate (p : StatusPollPolicy τ) (deviceId : String) : τ :=
  match p.find deviceId with
  | some t => t.nextUpdate
  | none => Clock.idle

def getPollDeadline (p : StatusPollPolicy τ) (deviceId : String) : τ :=
  match p.find deviceId with
  | some t => t.pollDeadline
  | none => Clock.idle

def isTrackingActive (p : StatusPollPolicy τ) (deviceId : String) (now : τ) : Bool :=
  match p.find deviceId with
  | some t => t.isActive now
  | none => false

/-- `on_exchange_failed`: the backoff applied, or 0 when tracking was cleared. -/
def onExchangeFailed (p : StatusPollPolicy τ) (deviceId : String) (authLike : Bool) (now : τ) :
    StatusPollPolicy τ × UInt32 :=
  match p.find deviceId with
  | none => (p, 0)
  | some t =>
    let backoffMs := t.backoffMs authLike
    if t.isActive now && Clock.notAfter (Clock.after now backoffMs) t.pollDeadline then
      (p.insert deviceId { t.countFailure authLike with
        nextUpdate := Clock.after now backoffMs }, backoffMs)
    else (p.insert deviceId t.cleared, 0)

def clearFailureStreaks (p : StatusPollPolicy τ) (deviceId : String) : StatusPollPolicy τ :=
  match p.find deviceId with
  | none => p
  | some t => p.insert deviceId { t with statusPollFailures := 0, authPollFailures := 0 }

def getStatusPollFailures (p : StatusPollPolicy τ) (deviceId : String) : UInt8 :=
  match p.find deviceId with
  | some t => t.statusPollFailures
  | none => 0

def getAuthPollFailures (p : StatusPollPolicy τ) (deviceId : String) : UInt8 :=
  match p.find deviceId with
  | some t => t.authPollFailures
  | none => 0

/-- The scan of `pop_due_device` over the entries. -/
def popDueEntries (now : τ) :
    List (String × PollTracking τ) → List (String × PollTracking τ) × Option String
  | [] => ([], none)
  | (deviceId, t) :: rest =>
    if Clock.isIdle t.nextUpdate || Clock.notAfter now t.nextUpdate then
      let (rest, due) := popDueEntries now rest
      ((deviceId, t) :: rest, due)
    else if !t.isActive now then
      let (rest, due) := popDueEntries now rest
      ((deviceId, t.cleared) :: rest, due)
    else ((deviceId, { t with nextUpdate := Clock.idle }) :: rest, some deviceId)

theorem popDueEntries_keys (now : τ) (es : List (String × PollTracking τ)) :
    (popDueEntries now es).1.map Prod.fst = es.map Prod.fst := by
  induction es with
  | nil => rfl
  | cons e es ih =>
    obtain ⟨deviceId, t⟩ := e
    unfold popDueEntries
    split_ifs <;> simp [ih]

def popDueDevice (p : StatusPollPolicy τ) (now : τ) : StatusPollPolicy τ × Option String :=
  (⟨(popDueEntries now p.entries).1, by rw [popDueEntries_keys]; exact p.sorted⟩,
    (popDueEntries now p.entries).2)

end StatusPollPolicy

end HomeIoControl.StatusPolls
