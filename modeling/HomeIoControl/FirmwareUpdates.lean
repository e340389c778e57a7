import HomeIoControl.FirmwareDecisions
import HomeIoControl.FirmwareUpdater

/-!
# Firmware updates of an LR1121

The hub reads the bootloader's version at boot and caches a verdict on its image. A press of the
flash button acts on the verdict: it refuses, asks for a second press, or flashes, which ends in a
restart on every path. Log lines and delays are left out.
-/

namespace HomeIoControl.FirmwareUpdates

open TracedPrograms FirmwareDecisions FirmwareUpdater

/-- The loader that rewrites a bootloader. -/
structure LoaderImage where
  fw : UInt16
  image : List UInt32

/-- What the build was configured with; `bootloader` is its optional block. -/
structure FirmwareBuild where
  targetVersion : UInt16
  image : List UInt32
  bootloader : Option LoaderImage

/-- The chip, and what else can fail at boot. -/
structure Board (σ : Type) extends Chip σ where
  constructRadio : σ → Bool × σ
  allocateUpdater : σ → Bool × σ
  initRadio : σ → Bool × σ

/-- The fields of the hub that a firmware update reads or writes. `hasUpdater` says that the
updater was allocated, `restarting` that the restart of the controller was requested. -/
structure FirmwareHub where
  busy : Bool := false
  hasUpdater : Bool := false
  bootloaderVersionKnown : Bool := false
  bootloaderChipType : UInt8 := 0
  bootloaderVersion : UInt16 := 0
  flashVerdictKnown : Bool := false
  flashVerdict : FlashDecision := .needsConfirmation
  installedFw : UInt16 := 0
  installedDeviceType : UInt8 := 0
  flashConfirmationArmed : Bool := false
  bootloaderRewriteAllowed : Bool := false
  restarting : Bool := false
  deriving DecidableEq, Repr

namespace FirmwareHub

def learnBootloader (hub : FirmwareHub) (read : ReportedVersion) : FirmwareHub :=
  { hub with
    bootloaderChipType := read.type
    bootloaderVersion := read.version
    bootloaderVersionKnown := true }

/-- A reading at flash time stands in for one that failed at boot. -/
def adoptBootloader (hub : FirmwareHub) (read : ReportedVersion) : FirmwareHub :=
  if hub.bootloaderVersionKnown then hub else hub.learnBootloader read

/-- The cached verdict, from the installed version that was read, if it was. -/
def cacheVerdict (hub : FirmwareHub) (build : FirmwareBuild) (installed : Option ReportedVersion) :
    FirmwareHub :=
  let read := installed.getD ⟨0, 0⟩
  { hub with
    installedDeviceType := read.type
    installedFw := read.version
    flashVerdict := lr1121FlashDecision read.type hub.bootloaderChipType hub.bootloaderVersion
      read.version build.targetVersion false
    flashVerdictKnown := true }

end FirmwareHub

section

variable {σ : Type} (board : Board σ) (build : FirmwareBuild)

/-- `run_lr1121_boot_time_bootloader_read_`. -/
def runLr1121BootTimeBootloaderRead (hub : FirmwareHub) : ChipProg σ FirmwareHub := do
  let allocated ← ask board.allocateUpdater
  if allocated = false then pure hub
  else do
    let hub := { hub with hasUpdater := true }
    let read ← enterBootloader board.toChip
    match read with
    | none => pure hub
    | some read => do
      let _ ← reboot board.toChip false
      pure (hub.learnBootloader read)

/-- `cache_lr1121_flash_verdict_`. -/
def cacheLr1121FlashVerdict (hasRadio : Bool) (hub : FirmwareHub) : ChipProg σ FirmwareHub :=
  if hasRadio = true ∧ hub.hasUpdater = true then do
    let installed ← readNormalVersion board.toChip
    pure (hub.cacheVerdict build installed)
  else pure (hub.cacheVerdict build none)

/-- The part of `setup` that concerns updates. -/
def setup : ChipProg σ FirmwareHub := do
  let constructed ← ask board.constructRadio
  if constructed = false then pure {}
  else do
    let hub ← runLr1121BootTimeBootloaderRead board {}
    let hasRadio ← ask board.initRadio
    cacheLr1121FlashVerdict board build hasRadio hub

end

inductive Lr1121SanityResult where
  | ok
  | wrongType
  | versionMismatch
  | wrongChipFamily
  deriving DecidableEq, Repr

/-- `lr1121_check_bootloader_sanity`. -/
def lr1121CheckBootloaderSanity (known : Bool) (knownBootloaderVersion : UInt16)
    (sanity : ReportedVersion) : Lr1121SanityResult :=
  if sanity.type ≠ updaterBootloaderType then .wrongType
  else if known then
    if sanity.version ≠ knownBootloaderVersion then .versionMismatch else .ok
  else if lr1121BootloaderIsLr1121 sanity.version = false then .wrongChipFamily
  else .ok

def FirmwareHub.sanity (hub : FirmwareHub) (read : ReportedVersion) : Lr1121SanityResult :=
  lr1121CheckBootloaderSanity hub.bootloaderVersionKnown hub.bootloaderVersion read

section

variable {σ : Type} (chip : Chip σ) (build : FirmwareBuild)

/-- `App.safe_reboot`, the end of every update. -/
def safeReboot (hub : FirmwareHub) : ChipProg σ FirmwareHub := do
  tell .safeReboot
  pure { hub with restarting := true }

/-- `lr1121_erase_and_write_image_`. -/
def lr1121EraseAndWriteImage (stage : FlashStage) (image : List UInt32) : ChipProg σ Bool := do
  tell (.erasing stage)
  let erased ← eraseFlash chip
  if erased = false then pure false else writeImage chip image

/-- After a transceiver image is written: its fingerprint, the reboot into it, its version. None
of these decides anything. -/
def bootIntoImage : ChipProg σ PUnit := do
  let _ ← readHash chip
  let rebooted ← reboot chip false
  if rebooted = false then pure ⟨⟩
  else do
    let _ ← readNormalVersion chip
    pure ⟨⟩

/-- `run_lr1121_flash_sequence_`. -/
def runLr1121FlashSequence (hub : FirmwareHub) : ChipProg σ FirmwareHub := do
  let hub := { hub with busy := true }
  let read ← enterBootloader chip
  match read with
  | none => safeReboot hub
  | some read =>
    if hub.sanity read ≠ .ok then do
      let _ ← reboot chip false
      safeReboot hub
    else do
      let hub := hub.adoptBootloader read
      let written ← lr1121EraseAndWriteImage chip .firmwareUpdate build.image
      if written = false then safeReboot hub
      else do
        bootIntoImage chip
        safeReboot hub

/-- The first stage of `run_lr1121_bootloader_upgrade_sequence_`: the loader is written, and has to
report itself before the next stage runs. -/
def upgradeStage1 (loader : LoaderImage) (hub : FirmwareHub)
    (next : FirmwareHub → ChipProg σ FirmwareHub) : ChipProg σ FirmwareHub := do
  let read ← enterBootloader chip
  match read with
  | none => safeReboot hub
  | some read =>
    if hub.sanity read ≠ .ok then do
      let _ ← reboot chip false
      safeReboot hub
    else do
      let written ← lr1121EraseAndWriteImage chip .loaderWrite loader.image
      if written = false then safeReboot hub
      else do
        let rebooted ← reboot chip false
        if rebooted = false then safeReboot hub
        else do
          let running ← readNormalVersion chip
          match running with
          | none => safeReboot hub
          | some running =>
            if running.type ≠ updaterLoaderDeviceType then safeReboot hub
            else if running.version ≠ lr1121Loader2100 then safeReboot hub
            else next hub

/-- The second stage: the loader rewrites the bootloader, which afterwards has to be the second
one, and not to leave for the loader. -/
def upgradeStage2 (hub : FirmwareHub) (next : FirmwareHub → ChipProg σ FirmwareHub) :
    ChipProg σ FirmwareHub := do
  let updated ← updateBootloader chip
  if updated = false then safeReboot hub
  else do
    let _ ← readUpdaterStatus chip
    let verification ← verifyBootloader chip
    match verification with
    | none => safeReboot hub
    | some verification =>
      if verification.allChecksPassed = false then safeReboot hub
      else do
        let rebooted ← updaterReboot chip false
        if rebooted = false then safeReboot hub
        else do
          let postUpdate ← readBootloaderVersion chip
          match postUpdate with
          | none => safeReboot hub
          | some postUpdate =>
            if postUpdate.type ≠ updaterBootloaderType ∨
                postUpdate.version ≠ lr1121Bootloader2101 then safeReboot hub
            else
              next { hub with
                bootloaderChipType := postUpdate.type
                bootloaderVersion := postUpdate.version }

/-- The third stage: the transceiver image, in a bootloader that was entered anew. -/
def upgradeStage3 (hub : FirmwareHub) : ChipProg σ FirmwareHub := do
  let read ← enterBootloader chip
  match read with
  | none => safeReboot hub
  | some read =>
    if read.type ≠ updaterBootloaderType ∨ read.version ≠ lr1121Bootloader2101 then safeReboot hub
    else do
      let hub := { hub with bootloaderChipType := read.type, bootloaderVersion := read.version }
      let written ← lr1121EraseAndWriteImage chip .transceiverWrite build.image
      if written = false then safeReboot hub
      else do
        bootIntoImage chip
        safeReboot hub

/-- `run_lr1121_bootloader_upgrade_sequence_`. -/
def runLr1121BootloaderUpgradeSequence (loader : LoaderImage) (hub : FirmwareHub) :
    ChipProg σ FirmwareHub :=
  upgradeStage1 chip loader { hub with busy := true } fun hub =>
    upgradeStage2 chip hub (upgradeStage3 chip build)

/-- The path to the bootloader that the target needs, as a press sees it. -/
def FirmwareHub.upgradePath (hub : FirmwareHub) (loader : LoaderImage) : BootloaderUpgradePath :=
  lr1121BootloaderUpgradePath true hub.bootloaderVersionKnown hub.bootloaderVersion loader.fw
    build.targetVersion

/-- `trigger_lr1121_firmware_update`. -/
def triggerLr1121FirmwareUpdate (hub : FirmwareHub) : ChipProg σ FirmwareHub :=
  if hub.busy then pure hub
  else if hub.hasUpdater = false ∨ hub.flashVerdictKnown = false then pure hub
  else if hub.flashVerdict = .rejectWrongChip then pure hub
  else if hub.flashVerdict = .rejectBootloaderTooOld then
    match build.bootloader with
    | none => pure hub
    | some loader =>
      if hub.upgradePath build loader = .available then
        if hub.bootloaderRewriteAllowed = false then pure hub
        else runLr1121BootloaderUpgradeSequence chip build loader hub
      else pure hub
  else if hub.flashVerdict = .proceed ∨ hub.flashConfirmationArmed = true then
    runLr1121FlashSequence chip build { hub with flashConfirmationArmed := false }
  else pure { hub with flashConfirmationArmed := true }

end

end HomeIoControl.FirmwareUpdates
