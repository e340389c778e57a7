import Mathlib.Data.List.Basic

/-!
# Whether a radio chip is flashed

The verdict on a firmware image for an LR1121, from the versions the chip reported and those of
the image, and the path to a bootloader that the image needs. A zero stands for a version that
could not be read.
-/

namespace HomeIoControl.FirmwareDecisions

def lr1121DeviceType : UInt8 := 0x03
def lr1121BootloaderType : UInt8 := 0xDF
def lr1121Bootloader2100 : UInt16 := 0x2100
def lr1121Bootloader2101 : UInt16 := 0x2101
def lr1121Loader2100 : UInt16 := 0x2100

/-- `lr1121_bootloader_is_lr1121`: the bootloader's type is shared by the chip family, its version
is not. -/
def lr1121BootloaderIsLr1121 (bootloaderVersion : UInt16) : Bool :=
  bootloaderVersion = lr1121Bootloader2100 ∨ bootloaderVersion = lr1121Bootloader2101

structure Lr1121BootloaderRequirement where
  targetFw : UInt16
  bootloader : UInt16

def lr1121KnownBootloaderRequirements : List Lr1121BootloaderRequirement :=
  [⟨0x0101, lr1121Bootloader2100⟩, ⟨0x0102, lr1121Bootloader2100⟩,
   ⟨0x0103, lr1121Bootloader2100⟩, ⟨0x0104, lr1121Bootloader2101⟩]

inductive BootloaderSupport where
  | supported
  | unsupported
  | unknownTarget
  deriving DecidableEq, Repr

/-- `lr1121_bootloader_supports_target`. -/
def lr1121BootloaderSupportsTarget (targetFw bootloaderVersion : UInt16) : BootloaderSupport :=
  match lr1121KnownBootloaderRequirements.find? fun r => r.targetFw = targetFw with
  | some requirement =>
    if requirement.bootloader = bootloaderVersion then .supported else .unsupported
  | none => .unknownTarget

/-- `lr1121_required_bootloader_for`: zero for a target that is not in the table. -/
def lr1121RequiredBootloaderFor (targetFw : UInt16) : UInt16 :=
  match lr1121KnownBootloaderRequirements.find? fun r => r.targetFw = targetFw with
  | some requirement => requirement.bootloader
  | none => 0

/-- What is required is nothing, or a bootloader of this chip. -/
theorem required_cases (targetFw : UInt16) :
    lr1121RequiredBootloaderFor targetFw = 0 ∨
      lr1121RequiredBootloaderFor targetFw = lr1121Bootloader2100 ∨
      lr1121RequiredBootloaderFor targetFw = lr1121Bootloader2101 := by
  unfold lr1121RequiredBootloaderFor
  cases hfind : lr1121KnownBootloaderRequirements.find? fun r => r.targetFw = targetFw with
  | none => exact .inl rfl
  | some requirement =>
    have hmem := List.mem_of_find?_eq_some hfind
    simp only [lr1121KnownBootloaderRequirements, List.mem_cons, List.not_mem_nil, or_false] at hmem
    rcases hmem with rfl | rfl | rfl | rfl
    · exact .inr (.inl rfl)
    · exact .inr (.inl rfl)
    · exact .inr (.inl rfl)
    · exact .inr (.inr rfl)

/-- The support of a target is the comparison with what it requires. -/
theorem supports_eq (targetFw bootloaderVersion : UInt16) :
    lr1121BootloaderSupportsTarget targetFw bootloaderVersion =
      if lr1121RequiredBootloaderFor targetFw = 0 then .unknownTarget
      else if lr1121RequiredBootloaderFor targetFw = bootloaderVersion then .supported
      else .unsupported := by
  unfold lr1121BootloaderSupportsTarget lr1121RequiredBootloaderFor
  cases hfind : lr1121KnownBootloaderRequirements.find? fun r => r.targetFw = targetFw with
  | none => rfl
  | some requirement =>
    have hne : requirement.bootloader ≠ 0 := by
      have hmem := List.mem_of_find?_eq_some hfind
      simp only [lr1121KnownBootloaderRequirements, List.mem_cons, List.not_mem_nil,
        or_false] at hmem
      rcases hmem with rfl | rfl | rfl | rfl <;> decide
    simp only [if_neg hne]

theorem supports_of_required {targetFw bootloaderVersion : UInt16}
    (h : lr1121RequiredBootloaderFor targetFw = bootloaderVersion) (hne : bootloaderVersion ≠ 0) :
    lr1121BootloaderSupportsTarget targetFw bootloaderVersion = .supported := by
  rw [supports_eq, h, if_neg hne, if_pos rfl]

inductive BootloaderUpgradePath where
  | notApplicable
  | available
  | blockedUnknownTarget
  | blockedBootloaderNewer
  deriving DecidableEq, Repr

/-- `lr1121_bootloader_upgrade_path`. -/
def lr1121BootloaderUpgradePath (blockPresent bootloaderVersionKnown : Bool)
    (bootloaderVersion loaderFw targetFw : UInt16) : BootloaderUpgradePath :=
  if blockPresent = false then .notApplicable
  else if bootloaderVersionKnown = false then .notApplicable
  else if lr1121BootloaderIsLr1121 bootloaderVersion = false then .notApplicable
  else if loaderFw ≠ bootloaderVersion then .notApplicable
  else
    let required := lr1121RequiredBootloaderFor targetFw
    if required = 0 then .blockedUnknownTarget
    else if required = bootloaderVersion then .notApplicable
    else if required > bootloaderVersion then .available
    else .blockedBootloaderNewer

/-- The upgrade is only from the first bootloader, by its own loader, for a target known to
require the second one. -/
theorem upgrade_available {blockPresent known : Bool} {bootloaderVersion loaderFw targetFw : UInt16}
    (h : lr1121BootloaderUpgradePath blockPresent known bootloaderVersion loaderFw targetFw =
      .available) :
    known = true ∧ bootloaderVersion = lr1121Bootloader2100 ∧ loaderFw = lr1121Bootloader2100 ∧
      lr1121RequiredBootloaderFor targetFw = lr1121Bootloader2101 := by
  simp only [lr1121BootloaderUpgradePath] at h
  split_ifs at h with hblock hknown hchip hloader hzero hequal hgreater
  rw [Bool.not_eq_false] at hknown hchip
  have hversion := of_decide_eq_true hchip
  have hloader' : loaderFw = bootloaderVersion := not_not.mp hloader
  rcases required_cases targetFw with hrequired | hrequired | hrequired
  · exact absurd hrequired hzero
  · -- nothing is older than the first bootloader
    rcases hversion with hversion | hversion
    · exact absurd (hrequired.trans hversion.symm) hequal
    · rw [hrequired, hversion] at hgreater
      exact absurd hgreater (by decide)
  · rcases hversion with hversion | hversion
    · exact ⟨hknown, hversion, hloader'.trans hversion, hrequired⟩
    · exact absurd (hrequired.trans hversion.symm) hequal

inductive FlashDecision where
  | proceed
  | alreadyInstalled
  | needsConfirmation
  | rejectWrongChip
  | rejectBootloaderTooOld
  deriving DecidableEq, Repr

/-- `lr1121_flash_decision`. -/
def lr1121FlashDecision (deviceType bootloaderChipType : UInt8)
    (bootloaderVersion installedFw targetFw : UInt16) (alreadyConfirmed : Bool) : FlashDecision :=
  let confirmed : FlashDecision := if alreadyConfirmed then .proceed else .needsConfirmation
  if bootloaderVersion = 0 then confirmed
  else if bootloaderChipType ≠ lr1121BootloaderType ∨
      lr1121BootloaderIsLr1121 bootloaderVersion = false then .rejectWrongChip
  else if deviceType = 0 then confirmed
  else if deviceType ≠ lr1121DeviceType then .rejectWrongChip
  else
    match lr1121BootloaderSupportsTarget targetFw bootloaderVersion with
    | .unsupported => .rejectBootloaderTooOld
    | .unknownTarget => confirmed
    | .supported =>
      if installedFw = 0 then confirmed
      else if targetFw = installedFw then
        if alreadyConfirmed then .proceed else .alreadyInstalled
      else if targetFw > installedFw then .proceed
      else confirmed

/-- What a verdict that does not reject rests on. -/
structure FlashEvidence (deviceType bootloaderChipType : UInt8)
    (bootloaderVersion targetFw : UInt16) : Prop where
  chip : bootloaderChipType = lr1121BootloaderType
  version : lr1121BootloaderIsLr1121 bootloaderVersion = true
  compatible : deviceType ≠ 0 →
    lr1121BootloaderSupportsTarget targetFw bootloaderVersion ≠ .unsupported

/-- A verdict that does not reject has its evidence, unless the bootloader was not read. -/
theorem evidence_of_not_rejected {deviceType bootloaderChipType : UInt8}
    {bootloaderVersion installedFw targetFw : UInt16} {alreadyConfirmed : Bool}
    (hread : bootloaderVersion ≠ 0)
    (hchip : lr1121FlashDecision deviceType bootloaderChipType bootloaderVersion installedFw
      targetFw alreadyConfirmed ≠ .rejectWrongChip)
    (hold : lr1121FlashDecision deviceType bootloaderChipType bootloaderVersion installedFw
      targetFw alreadyConfirmed ≠ .rejectBootloaderTooOld) :
    FlashEvidence deviceType bootloaderChipType bootloaderVersion targetFw := by
  unfold lr1121FlashDecision at hchip hold
  rw [if_neg hread] at hchip hold
  by_cases hidentity : bootloaderChipType ≠ lr1121BootloaderType ∨
      lr1121BootloaderIsLr1121 bootloaderVersion = false
  · exact absurd (if_pos hidentity) hchip
  · obtain ⟨htype, hversion⟩ := not_or.mp hidentity
    rw [Bool.not_eq_false] at hversion
    refine ⟨not_not.mp htype, hversion, fun hdevice hunsupported => ?_⟩
    rw [if_neg hidentity, if_neg hdevice] at hchip hold
    by_cases hlr1121 : deviceType ≠ lr1121DeviceType
    · exact absurd (if_pos hlr1121) hchip
    · rw [if_neg hlr1121, hunsupported] at hold
      exact hold rfl

/-- Only a complete and favourable reading proceeds unasked. -/
theorem read_of_proceed {deviceType bootloaderChipType : UInt8}
    {bootloaderVersion installedFw targetFw : UInt16}
    (h : lr1121FlashDecision deviceType bootloaderChipType bootloaderVersion installedFw targetFw
      false = .proceed) : bootloaderVersion ≠ 0 ∧ deviceType ≠ 0 := by
  constructor
  · rintro rfl
    cases h
  · rintro rfl
    simp only [lr1121FlashDecision, Bool.false_eq_true, if_false, if_true] at h
    split_ifs at h

end HomeIoControl.FirmwareDecisions
