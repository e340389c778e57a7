import HomeIoControl.FixedPointAverages
import HomeIoControl.HubStatus

/-!
# The smoothed signal strength

Every frame of a device refreshes its link health. The signal strength is averaged in fixed point
in 16 bits; the samples of a radio fit 8.
-/

namespace HomeIoControl.LinkHealth

open DeviceModels HubStatus FixedPointAverages

/-- `device_rssi_ema_dbm`. -/
def deviceRssiEmaDbm (dev : IoDevice) : Int16 :=
  if dev.rssiEmaScaled = rssiUnknownDbm then rssiUnknownDbm else rssiScaledToDbm dev.rssiEmaScaled

/-- A frame of the device: when it came, and the signal strength of a valid capture. -/
structure Sighting where
  now : UInt32
  rssi : Option Int16

/-- The device after its frames. -/
def sighted (dev : IoDevice) (frames : List Sighting) : IoDevice :=
  frames.foldl (fun dev frame => (updateLinkHealth frame.now frame.rssi).apply dev) dev

def samples (frames : List Sighting) : List Int16 := frames.filterMap Sighting.rssi

theorem samples_cons_none {frame : Sighting} (frames : List Sighting) (h : frame.rssi = none) :
    samples (frame :: frames) = samples frames := List.filterMap_cons_none h

theorem samples_cons_some {frame : Sighting} {x : Int16} (frames : List Sighting)
    (h : frame.rssi = some x) : samples (frame :: frames) = x :: samples frames :=
  List.filterMap_cons_some h

theorem sighted_cons (dev : IoDevice) (frame : Sighting) (frames : List Sighting) :
    sighted dev (frame :: frames) =
      sighted ((updateLinkHealth frame.now frame.rssi).apply dev) frames := rfl

theorem sighted_append (dev : IoDevice) (frames more : List Sighting) :
    sighted dev (frames ++ more) = sighted (sighted dev frames) more := List.foldl_append ..

/-- The sample is taken without any 16-bit result wrapping. -/
structure Exact (dev : IoDevice) (x : Int16) (dev' : IoDevice) : Prop where
  seeded : dev.rssiEmaScaled = rssiUnknownDbm → dev'.rssiEmaScaled.toInt = rssiEmaScale * x.toInt
  rounded : dev.rssiEmaScaled ≠ rssiUnknownDbm →
    (rssiScaledToDbm dev.rssiEmaScaled).toInt = nearest rssiEmaScale dev.rssiEmaScaled.toInt
  blended : dev.rssiEmaScaled ≠ rssiUnknownDbm →
    dev'.rssiEmaScaled.toInt = blend rssiEmaScale dev.rssiEmaScaled.toInt x.toInt

/-- The average lies between two signal strengths. -/
def Between (lo hi : ℤ) (dev : IoDevice) : Prop :=
  rssiEmaScale * lo ≤ dev.rssiEmaScaled.toInt ∧ dev.rssiEmaScaled.toInt ≤ rssiEmaScale * hi

section

variable {lo hi : ℤ} (hlo : -128 ≤ lo) (hhi : hi ≤ 127) {dev : IoDevice}

include hlo

theorem known_of_between (h : Between lo hi dev) : dev.rssiEmaScaled ≠ rssiUnknownDbm := by
  intro heq
  have hmin : dev.rssiEmaScaled.toInt = -32768 := heq ▸ rfl
  have hbelow : 8 * lo ≤ dev.rssiEmaScaled.toInt := h.1
  omega

include hhi

theorem rssiScaledToDbm_toInt (h : Between lo hi dev) :
    (rssiScaledToDbm dev.rssiEmaScaled).toInt = nearest rssiEmaScale dev.rssiEmaScaled.toInt := by
  obtain ⟨hbelow, habove⟩ := nearest_between (by decide : 0 < rssiEmaScale) h.1 h.2
  exact Int16.toInt_ofInt_of_le (show -32768 ≤ nearest rssiEmaScale _ by omega)
    (show nearest rssiEmaScale _ < 32768 by omega)

theorem deviceRssiEmaDbm_toInt (h : Between lo hi dev) :
    (deviceRssiEmaDbm dev).toInt = nearest rssiEmaScale dev.rssiEmaScaled.toInt := by
  rw [deviceRssiEmaDbm, if_neg (known_of_between hlo h), rssiScaledToDbm_toInt hlo hhi h]

/-- The first sample, which is the average. -/
theorem first_sample {x : Int16} (now : UInt32) (hnew : dev.rssiEmaScaled = rssiUnknownDbm)
    (hx : lo ≤ x.toInt) (hx' : x.toInt ≤ hi) :
    Exact dev x ((updateLinkHealth now (some x)).apply dev) ∧
      Between lo hi ((updateLinkHealth now (some x)).apply dev) := by
  have hscaled : ((updateLinkHealth now (some x)).apply dev).rssiEmaScaled.toInt = 8 * x.toInt := by
    simp only [updateLinkHealth, if_pos hnew]
    rw [Int.mul_comm 8]
    exact Int16.toInt_ofInt_of_le (show -32768 ≤ x.toInt * 8 by omega)
      (show x.toInt * 8 < 32768 by omega)
  refine ⟨⟨fun _ => hscaled, fun hknown => absurd hnew hknown, fun hknown => absurd hnew hknown⟩, ?_⟩
  show 8 * lo ≤ _ ∧ _ ≤ 8 * hi
  omega

/-- A further sample, which is blended in. -/
theorem next_sample {x : Int16} (now : UInt32) (h : Between lo hi dev) (hx : lo ≤ x.toInt)
    (hx' : x.toInt ≤ hi) :
    Exact dev x ((updateLinkHealth now (some x)).apply dev) ∧
      Between lo hi ((updateLinkHealth now (some x)).apply dev) := by
  have hknown := known_of_between hlo h
  have hround := rssiScaledToDbm_toInt hlo hhi h
  obtain ⟨hbelow, habove⟩ : 8 * lo ≤ blend rssiEmaScale dev.rssiEmaScaled.toInt x.toInt ∧
      blend rssiEmaScale dev.rssiEmaScaled.toInt x.toInt ≤ 8 * hi :=
    blend_between (by decide : 0 < rssiEmaScale) h.1 h.2 hx hx'
  have hblend : dev.rssiEmaScaled.toInt + x.toInt - (rssiScaledToDbm dev.rssiEmaScaled).toInt =
      blend rssiEmaScale dev.rssiEmaScaled.toInt x.toInt := by rw [hround, blend]
  have hscaled : ((updateLinkHealth now (some x)).apply dev).rssiEmaScaled.toInt =
      blend rssiEmaScale dev.rssiEmaScaled.toInt x.toInt := by
    simp only [updateLinkHealth, if_neg hknown, hblend]
    exact Int16.toInt_ofInt_of_le (by omega) (by omega)
  refine ⟨⟨fun hnew => absurd hnew hknown, fun _ => hround, fun _ => hscaled⟩, ?_⟩
  rw [Between, hscaled]
  exact ⟨hbelow, habove⟩


/-- One more frame keeps the average among the samples. -/
theorem sighting_between (frame : Sighting) (h : Between lo hi dev)
    (hin : ∀ x ∈ frame.rssi, lo ≤ x.toInt ∧ x.toInt ≤ hi) :
    Between lo hi ((updateLinkHealth frame.now frame.rssi).apply dev) := by
  cases hrssi : frame.rssi with
  | none => exact h
  | some x =>
    obtain ⟨hx, hx'⟩ := hin x hrssi
    exact (next_sample hlo hhi frame.now h hx hx').2

theorem sighted_between (frames : List Sighting) (h : Between lo hi dev)
    (hin : ∀ x ∈ samples frames, lo ≤ x.toInt ∧ x.toInt ≤ hi) :
    Between lo hi (sighted dev frames) := by
  induction frames generalizing dev with
  | nil => exact h
  | cons frame frames ih =>
    have hhead : ∀ x ∈ frame.rssi, lo ≤ x.toInt ∧ x.toInt ≤ hi := fun x hx =>
      hin x (List.mem_filterMap.mpr ⟨frame, List.mem_cons_self, hx⟩)
    have htail : ∀ x ∈ samples frames, lo ≤ x.toInt ∧ x.toInt ≤ hi := by
      intro x hx
      obtain ⟨later, hlater, hsome⟩ := List.mem_filterMap.mp hx
      exact hin x (List.mem_filterMap.mpr ⟨later, List.mem_cons_of_mem _ hlater, hsome⟩)
    exact ih (sighting_between hlo hhi frame h hhead) htail

/-- From a new device on there is no sample yet, or the average is among those seen. -/
theorem sighted_new (frames : List Sighting) (hnew : dev.rssiEmaScaled = rssiUnknownDbm)
    (hin : ∀ x ∈ samples frames, lo ≤ x.toInt ∧ x.toInt ≤ hi) :
    samples frames = [] ∧ (sighted dev frames).rssiEmaScaled = rssiUnknownDbm ∨
      Between lo hi (sighted dev frames) := by
  induction frames generalizing dev with
  | nil => exact .inl ⟨rfl, hnew⟩
  | cons frame frames ih =>
    cases hrssi : frame.rssi with
    | none =>
      rw [samples_cons_none frames hrssi] at hin ⊢
      rw [sighted_cons, hrssi]
      exact ih hnew hin
    | some x =>
      rw [samples_cons_some frames hrssi, List.forall_mem_cons] at hin
      have hfirst := (first_sample hlo hhi frame.now hnew hin.1.1 hin.1.2).2
      rw [sighted_cons, hrssi]
      exact .inr (sighted_between hlo hhi frames hfirst hin.2)

/-- The average after frames whose samples are all the same. -/
theorem sighted_steady {x : Int16} (hx : lo ≤ x.toInt) (hx' : x.toInt ≤ hi)
    (later : List Sighting) (h : Between lo hi dev) (hsame : ∀ y ∈ samples later, y = x) :
    (sighted dev later).rssiEmaScaled.toInt =
      steady rssiEmaScale x.toInt dev.rssiEmaScaled.toInt (samples later).length := by
  induction later generalizing dev with
  | nil => rfl
  | cons frame later ih =>
    cases hrssi : frame.rssi with
    | none =>
      rw [samples_cons_none later hrssi] at hsame ⊢
      rw [sighted_cons, hrssi]
      exact ih h hsame
    | some y =>
      rw [samples_cons_some later hrssi, List.forall_mem_cons] at hsame
      obtain ⟨rfl, hrest⟩ := hsame
      obtain ⟨hexact, hbetween⟩ := next_sample hlo hhi frame.now h hx hx'
      rw [samples_cons_some later hrssi, sighted_cons, hrssi, ih hbetween hrest,
        hexact.blended (known_of_between hlo h)]
      rfl

end

/-- What holds of a device that some sample has come from: its average is known and among the
samples, and a steady one is reached and kept. -/
structure Averages (lo hi : ℤ) (dev : IoDevice) : Prop where
  known : dev.rssiEmaScaled ≠ rssiUnknownDbm
  within : lo ≤ (deviceRssiEmaDbm dev).toInt ∧ (deviceRssiEmaDbm dev).toInt ≤ hi
  settles : ∀ x : Int16, lo ≤ x.toInt → x.toInt ≤ hi → ∃ n, ∀ later : List Sighting,
    (∀ y ∈ samples later, y = x) → n ≤ (samples later).length →
      deviceRssiEmaDbm (sighted dev later) = x

theorem averages_of_between {lo hi : ℤ} {dev : IoDevice} (hlo : -128 ≤ lo) (hhi : hi ≤ 127)
    (h : Between lo hi dev) : Averages lo hi dev := by
  refine ⟨known_of_between hlo h, ?_, ?_⟩
  · rw [deviceRssiEmaDbm_toInt hlo hhi h]
    exact nearest_between (by decide : 0 < rssiEmaScale) h.1 h.2
  · intro x hx hx'
    refine ⟨(rssiEmaScale * x.toInt - dev.rssiEmaScaled.toInt).natAbs, ?_⟩
    intro later hsame hlong
    have hin : ∀ y ∈ samples later, lo ≤ y.toInt ∧ y.toInt ≤ hi := by
      intro y hy
      obtain rfl := hsame y hy
      exact ⟨hx, hx'⟩
    have hafter := sighted_between hlo hhi later h hin
    apply Int16.toInt_inj.mp
    rw [deviceRssiEmaDbm_toInt hlo hhi hafter, sighted_steady hlo hhi hx hx' later h hsame]
    exact steady_settles (by decide) _ _ _ hlong

/-- The smoothed signal strength of a new device, over frames whose samples lie in a range of
8-bit values: every sample is taken exactly, and after every one the average is a true one. -/
theorem smoothed_rssi_averages (dev : IoDevice) (hnew : dev.rssiEmaScaled = rssiUnknownDbm)
    (lo hi : ℤ) (hlo : -128 ≤ lo) (hhi : hi ≤ 127) (frames : List Sighting)
    (hin : ∀ x ∈ samples frames, lo ≤ x.toInt ∧ x.toInt ≤ hi) :
    (∀ seen frame later x, frames = seen ++ frame :: later → frame.rssi = some x →
      Exact (sighted dev seen) x (sighted dev (seen ++ [frame]))) ∧
    ∀ seen, seen <+: frames → samples seen ≠ [] → Averages lo hi (sighted dev seen) := by
  have hbegins : ∀ seen, seen <+: frames → ∀ x ∈ samples seen, lo ≤ x.toInt ∧ x.toInt ≤ hi := by
    rintro seen ⟨later, rfl⟩ x hx
    exact hin x (by simpa [samples] using .inl (by simpa [samples] using hx))
  constructor
  · rintro seen frame later x rfl hrssi
    obtain ⟨hx, hx'⟩ := hin x (List.mem_filterMap.mpr ⟨frame, by simp, hrssi⟩)
    have hstep : sighted dev (seen ++ [frame]) =
        (updateLinkHealth frame.now (some x)).apply (sighted dev seen) := by
      rw [sighted_append, ← hrssi]
      rfl
    rw [hstep]
    rcases sighted_new hlo hhi seen hnew (hbegins seen (List.prefix_append ..)) with ⟨-, hfirst⟩ | h
    · exact (first_sample hlo hhi frame.now hfirst hx hx').1
    · exact (next_sample hlo hhi frame.now h hx hx').1
  · intro seen hseen hsome
    rcases sighted_new hlo hhi seen hnew (hbegins seen hseen) with ⟨hnone, -⟩ | h
    · exact absurd hnone hsome
    · exact averages_of_between hlo hhi h

/-- Three samples, and a frame without one. -/
def fourFrames : List Sighting := [⟨10, some (-70)⟩, ⟨20, none⟩, ⟨30, some (-64)⟩, ⟨40, some (-79)⟩]

theorem smoothed_rssi_three_samples :
    (∀ seen frame later x,
      fourFrames = seen ++ frame :: later → frame.rssi = some x →
      Exact (sighted { nodeId := ⟨0x31, 0xBA, 0xF7⟩ } seen) x
        (sighted { nodeId := ⟨0x31, 0xBA, 0xF7⟩ } (seen ++ [frame]))) ∧
    ∀ seen, seen <+: fourFrames →
      samples seen ≠ [] → Averages (-80) (-60) (sighted { nodeId := ⟨0x31, 0xBA, 0xF7⟩ } seen) :=
  smoothed_rssi_averages { nodeId := ⟨0x31, 0xBA, 0xF7⟩ } rfl (-80) (-60) (by decide) (by decide)
    fourFrames fun x hx => by
      have hall : (samples fourFrames).all fun x => decide (-80 ≤ x.toInt ∧ x.toInt ≤ -60) := by
        decide
      exact of_decide_eq_true (List.all_eq_true.mp hall x hx)

end HomeIoControl.LinkHealth
