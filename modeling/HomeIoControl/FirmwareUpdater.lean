import HomeIoControl.TracedPrograms
import Mathlib.Data.List.Basic

/-!
# Talking to a chip's bootloader

The transport of a firmware update. The chip is an environment that keeps its BUSY line as long
as it likes and answers any bytes. What is clocked out to it and read from it is written to the
trace, with the steps of an update that are not commands.
-/

namespace HomeIoControl.FirmwareUpdater

open TracedPrograms

def updaterCmdGetVersion : UInt16 := 0x0101
def updaterCmdEraseFlash : UInt16 := 0x8000
def updaterCmdWriteFlashEncrypted : UInt16 := 0x8003
def updaterCmdGetHash : UInt16 := 0x8004
def updaterCmdReboot : UInt16 := 0x8005
def updaterCmdUpdateBootloader : UInt16 := 0x8100
def updaterCmdVerifyBootloader : UInt16 := 0x8101
def updaterCmdUpdaterReboot : UInt16 := 0x8102
def updaterBootloaderType : UInt8 := 0xDF
def updaterLoaderDeviceType : UInt8 := 0xDE
def updaterHashLength : ℕ := 16
def updaterFlashChunkWords : ℕ := 64
def updaterBusyTimeoutMs : UInt32 := 3000
def updaterEraseBusyTimeoutMs : UInt32 := 30000
def updaterBootloaderUpdateBusyTimeoutMs : UInt32 := updaterEraseBusyTimeoutMs

/-- A chip behind its BUSY line and SPI bus. `waitBusy` says whether the line fell in time. -/
structure Chip (σ : Type) where
  waitBusy : UInt32 → σ → Bool × σ
  spiRead : σ → UInt8 × σ

/-- Which image is being flashed. -/
inductive FlashStage where
  | firmwareUpdate
  | loaderWrite
  | transceiverWrite
  deriving DecidableEq, Repr

/-- `entryReset` is the reset pulse with BUSY held low that straps the chip into its
bootloader. -/
inductive ChipEvent where
  | entryReset
  | command (opcode : UInt16) (params : List UInt8)
  | response (bytes : List UInt8)
  | status (bytes : List UInt8)
  | erasing (stage : FlashStage)
  | safeReboot
  deriving DecidableEq, Repr

abbrev ChipProg (σ α : Type) := Prog σ ChipEvent α

variable {σ : Type} (chip : Chip σ)

def waitBusy (timeoutMs : UInt32) : ChipProg σ Bool := ask (chip.waitBusy timeoutMs)

/-- Clock bytes in. -/
def readBytes : ℕ → ChipProg σ (List UInt8)
  | 0 => pure []
  | n + 1 => do
    let byte ← ask chip.spiRead
    let bytes ← readBytes n
    pure (byte :: bytes)

/-- `write_command_`. -/
def writeCommand (opcode : UInt16) (params : List UInt8) (busyTimeoutMs : UInt32) :
    ChipProg σ Bool := do
  let ready ← waitBusy chip busyTimeoutMs
  if ready = false then pure false
  else do
    tell (.command opcode params)
    pure true

/-- `read_command_`: a status byte precedes the response. -/
def readCommand (opcode : UInt16) (params : List UInt8) (outLen : ℕ) (busyTimeoutMs : UInt32) :
    ChipProg σ (Option (List UInt8)) := do
  let sent ← writeCommand chip opcode params busyTimeoutMs
  if sent = false then pure none
  else do
    let ready ← waitBusy chip busyTimeoutMs
    if ready = false then pure none
    else do
      let _ ← ask chip.spiRead
      let out ← readBytes chip outLen
      tell (.response out)
      pure (some out)

/-- A command that the chip works on before it takes the next one. -/
def writeAndAwait (opcode : UInt16) (busyTimeoutMs : UInt32) : ChipProg σ Bool := do
  let sent ← writeCommand chip opcode [] updaterBusyTimeoutMs
  if sent = false then pure false else waitBusy chip busyTimeoutMs

/-- What GetVersion reports: a type and a version of whatever is running. -/
structure ReportedVersion where
  type : UInt8
  version : UInt16
  deriving DecidableEq, Repr

/-- The response to GetVersion, whose first byte is the hardware version. -/
def reportedVersion (resp : List UInt8) : ReportedVersion :=
  ⟨resp.getD 1 0, (resp.getD 2 0).toUInt16 <<< 8 ||| (resp.getD 3 0).toUInt16⟩

def getVersion : ChipProg σ (Option ReportedVersion) := do
  let resp ← readCommand chip updaterCmdGetVersion [] 4 updaterBusyTimeoutMs
  pure (resp.map reportedVersion)

/-- `read_normal_version`, with the firmware's major and minor version in one word. -/
def readNormalVersion : ChipProg σ (Option ReportedVersion) := getVersion chip

/-- `read_bootloader_version`. -/
def readBootloaderVersion : ChipProg σ (Option ReportedVersion) := getVersion chip

/-- `enter_bootloader`: the chip is reset whether or not it then answers. -/
def enterBootloader : ChipProg σ (Option ReportedVersion) := do
  tell .entryReset
  readBootloaderVersion chip

def eraseFlash : ChipProg σ Bool := writeAndAwait chip updaterCmdEraseFlash updaterEraseBusyTimeoutMs

def wordBytes (word : UInt32) : List UInt8 :=
  [(word >>> 24).toUInt8, (word >>> 16).toUInt8, (word >>> 8).toUInt8, word.toUInt8]

theorem wordBytes_length (words : List UInt32) :
    (words.flatMap wordBytes).length = words.length * 4 := by
  induction words with
  | nil => rfl
  | cons word words ih =>
    rw [List.flatMap_cons, List.length_append, ih, List.length_cons]
    simp only [wordBytes, List.length_cons, List.length_nil]
    omega

/-- The parameters of one WriteFlashEncrypted: the byte offset, then the words of the chunk. -/
def writeParams (written : ℕ) (chunk : List UInt32) : List UInt8 :=
  wordBytes (UInt32.ofNat (written * 4)) ++ chunk.flatMap wordBytes

/-- The chunks left, of which there are no more than words. -/
def writeChunks : ℕ → ℕ → List UInt32 → ChipProg σ Bool
  | 0, _, _ => pure true
  | _ + 1, _, [] => pure true
  | chunks + 1, written, word :: words => do
    let chunk := (word :: words).take updaterFlashChunkWords
    let sent ← writeCommand chip updaterCmdWriteFlashEncrypted (writeParams written chunk)
      updaterBusyTimeoutMs
    if sent = false then pure false
    else
      writeChunks chunks (written + chunk.length) ((word :: words).drop updaterFlashChunkWords)

/-- `write_image`. -/
def writeImage (image : List UInt32) : ChipProg σ Bool := writeChunks chip image.length 0 image

def readHash : ChipProg σ (Option (List UInt8)) :=
  readCommand chip updaterCmdGetHash [] updaterHashLength updaterBusyTimeoutMs

def rebootParam (stayInBootloader : Bool) : List UInt8 := [if stayInBootloader then 0x03 else 0x00]

def reboot (stayInBootloader : Bool) : ChipProg σ Bool :=
  writeCommand chip updaterCmdReboot (rebootParam stayInBootloader) updaterBusyTimeoutMs

def updateBootloader : ChipProg σ Bool :=
  writeAndAwait chip updaterCmdUpdateBootloader updaterBootloaderUpdateBusyTimeoutMs

structure Lr1121UpdaterStatus where
  interruptActive : Bool
  commandStatus : UInt8
  runningFromFlash : Bool
  chipMode : UInt8
  resetStatus : UInt8
  irqStatus : UInt32

def updaterStatus (data : List UInt8) : Lr1121UpdaterStatus where
  interruptActive := data.getD 0 0 &&& 0x01 ≠ 0
  commandStatus := data.getD 0 0 >>> 1
  runningFromFlash := data.getD 1 0 &&& 0x01 ≠ 0
  chipMode := (data.getD 1 0 &&& 0x0F) >>> 1
  resetStatus := (data.getD 1 0 &&& 0xF0) >>> 4
  irqStatus := (data.getD 2 0).toUInt32 <<< 24 ||| (data.getD 3 0).toUInt32 <<< 16 |||
    (data.getD 4 0).toUInt32 <<< 8 ||| (data.getD 5 0).toUInt32

/-- `read_updater_status`, without an opcode. -/
def readUpdaterStatus : ChipProg σ (Option Lr1121UpdaterStatus) := do
  let ready ← waitBusy chip updaterBusyTimeoutMs
  if ready = false then pure none
  else do
    let data ← readBytes chip 6
    tell (.status data)
    pure (some (updaterStatus data))

structure Lr1121BootloaderVerification where
  signatureVerified : Bool
  versionVerified : Bool
  useCaseVerified : Bool
  versionMajorVerified : Bool
  versionMinorVerified : Bool
  antiRollbackVerified : Bool
  useCase : UInt8
  versionMajor : UInt8
  versionMinor : UInt8

def Lr1121BootloaderVerification.allChecksPassed (report : Lr1121BootloaderVerification) : Bool :=
  report.signatureVerified && report.versionVerified && report.useCaseVerified &&
    report.versionMajorVerified && report.versionMinorVerified && report.antiRollbackVerified

def bootloaderVerification (resp : List UInt8) : Lr1121BootloaderVerification :=
  let checkByte := resp.getD 0 0
  { signatureVerified := checkByte &&& 0x01 ≠ 0
    versionVerified := checkByte &&& 0x02 ≠ 0
    useCaseVerified := checkByte &&& 0x04 ≠ 0
    versionMajorVerified := checkByte &&& 0x08 ≠ 0
    versionMinorVerified := checkByte &&& 0x10 ≠ 0
    antiRollbackVerified := checkByte &&& 0x20 ≠ 0
    useCase := resp.getD 1 0
    versionMajor := resp.getD 2 0
    versionMinor := resp.getD 3 0 }

def verifyBootloader : ChipProg σ (Option Lr1121BootloaderVerification) := do
  let resp ← readCommand chip updaterCmdVerifyBootloader [] 4 updaterBusyTimeoutMs
  pure (resp.map bootloaderVerification)

def updaterReboot (stayInBootloader : Bool) : ChipProg σ Bool :=
  writeCommand chip updaterCmdUpdaterReboot (rebootParam stayInBootloader) updaterBusyTimeoutMs

end HomeIoControl.FirmwareUpdater
