import HomeIoControl.FirmwareUpdates
import Mathlib.Order.Basic

/-!
# What a firmware update can send to the chip

A press of the button is observed event by event. The record of an attempt holds what it has
established: who answered in the bootloader, what was written to the erased flash, and what
reported itself after the reboot. From the record follow what may be erased, and when the
irreversible rewrite of the bootloader may be asked for.
-/

namespace HomeIoControl.FirmwareUpdateRuns

open MachineRuns TracedPrograms FirmwareDecisions FirmwareUpdater
  FirmwareUpdates

/-- `entering` holds between the entry reset and the version it makes the chip report, `flashed`
is what was written in order since the flash was erased, and `running` is what reported itself
after a reboot. -/
structure AttemptRecord where
  entered : Bool := false
  asked : Option UInt16 := none
  entering : Bool := false
  identity : Option ReportedVersion := none
  stage : Option FlashStage := none
  flashed : Option (List UInt8) := none
  rebooted : Bool := false
  running : Option ReportedVersion := none
  updates : ℕ := 0
  restarted : Bool := false
  deriving DecidableEq, Repr

namespace AttemptRecord

variable (r : AttemptRecord)

/-- A write at the end of what is written extends it. -/
def extend (params : List UInt8) : Option (List UInt8) :=
  r.flashed.bind fun bytes =>
    if params.take 4 = wordBytes (UInt32.ofNat bytes.length) then some (bytes ++ params.drop 4)
    else none

def noteCommand (opcode : UInt16) (params : List UInt8) : AttemptRecord :=
  let r := { r with asked := some opcode }
  if opcode = updaterCmdEraseFlash then
    { r with flashed := some [], rebooted := false, running := none }
  else if opcode = updaterCmdWriteFlashEncrypted then { r with flashed := r.extend params }
  else if opcode = updaterCmdReboot then { r with rebooted := true, running := none }
  else if opcode = updaterCmdUpdateBootloader then { r with updates := r.updates + 1 }
  else r

def noteVersion (read : ReportedVersion) : AttemptRecord :=
  if r.entering then { r with entering := false, identity := some read }
  else if r.rebooted then { r with running := some read }
  else r

def note : ChipEvent → AttemptRecord
  | .entryReset =>
    { entered := true, entering := true, updates := r.updates, restarted := r.restarted }
  | .command opcode params => r.noteCommand opcode params
  | .response bytes =>
    if r.asked = some updaterCmdGetVersion then r.noteVersion (reportedVersion bytes) else r
  | .erasing stage => { r with stage := some stage }
  | .status _ => r
  | .safeReboot => { r with restarted := true }

theorem noteCommand_write (params : List UInt8) :
    r.noteCommand updaterCmdWriteFlashEncrypted params =
      { r with asked := some updaterCmdWriteFlashEncrypted, flashed := r.extend params } := rfl

theorem noteCommand_reboot (params : List UInt8) :
    r.noteCommand updaterCmdReboot params =
      { r with asked := some updaterCmdReboot, rebooted := true, running := none } := rfl

theorem noteCommand_updates {opcode : UInt16} (h : opcode ≠ updaterCmdUpdateBootloader)
    (params : List UInt8) : (r.noteCommand opcode params).updates = r.updates := by
  simp only [noteCommand, if_neg h]
  split_ifs <;> rfl

theorem noteVersion_updates (read : ReportedVersion) :
    (r.noteVersion read).updates = r.updates := by
  unfold noteVersion
  split_ifs <;> rfl

theorem note_response_updates (bytes : List UInt8) :
    (r.note (.response bytes)).updates = r.updates := by
  simp only [note]
  split_ifs
  · exact noteVersion_updates r _
  · rfl

end AttemptRecord

/-- The observer of an attempt. -/
def recorder : Machine AttemptRecord ChipEvent Unit := ⟨fun r e => (r.note e, [])⟩

/-- The press flashes the transceiver image: the verdict proceeds, or the press confirms it. -/
structure Flashes (hub : FirmwareHub) : Prop where
  rightChip : hub.flashVerdict ≠ .rejectWrongChip
  notTooOld : hub.flashVerdict ≠ .rejectBootloaderTooOld
  proceeds : hub.flashVerdict = .proceed ∨ hub.flashConfirmationArmed = true

/-- The press rewrites the bootloader by the loader. -/
structure Upgrades (build : FirmwareBuild) (hub : FirmwareHub) (loader : LoaderImage) : Prop where
  configured : build.bootloader = some loader
  tooOld : hub.flashVerdict = .rejectBootloaderTooOld
  available : hub.upgradePath build loader = .available
  allowed : hub.bootloaderRewriteAllowed = true

/-- What an image is erased and written on. -/
def Grounds (build : FirmwareBuild) (hub : FirmwareHub) (r : AttemptRecord) : FlashStage → Prop
  | .firmwareUpdate => Flashes hub ∧ ∃ read, r.identity = some read ∧ hub.sanity read = .ok
  | .loaderWrite => (∃ loader, Upgrades build hub loader) ∧
    ∃ read, r.identity = some read ∧ hub.sanity read = .ok
  | .transceiverWrite => (∃ loader, Upgrades build hub loader) ∧
    r.identity = some ⟨updaterBootloaderType, lr1121Bootloader2101⟩

/-- What the rewrite of the bootloader is asked for on. -/
structure Checkpoints (build : FirmwareBuild) (hub : FirmwareHub) (r : AttemptRecord) : Prop where
  loader : ∃ loader, Upgrades build hub loader ∧
    r.flashed = some (loader.image.flatMap wordBytes)
  stage : r.stage = some .loaderWrite
  identity : ∃ read, r.identity = some read ∧ hub.sanity read = .ok
  rebooted : r.rebooted = true
  running : r.running = some ⟨updaterLoaderDeviceType, lr1121Loader2100⟩
  first : r.updates = 0

/-- An event of an attempt is in order. -/
structure InOrder (build : FirmwareBuild) (hub : FirmwareHub) (r : AttemptRecord)
    (e : ChipEvent) : Prop where
  flash : ∀ opcode params, e = .command opcode params →
    opcode = updaterCmdEraseFlash ∨ opcode = updaterCmdWriteFlashEncrypted →
    ∃ stage, r.stage = some stage ∧ Grounds build hub r stage
  update : ∀ params, e = .command updaterCmdUpdateBootloader params → Checkpoints build hub r

private theorem InOrder.plain {build : FirmwareBuild} {hub : FirmwareHub} {r : AttemptRecord}
    {e : ChipEvent} (h : ∀ opcode params, e ≠ .command opcode params) : InOrder build hub r e :=
  ⟨fun opcode params he => absurd he (h opcode params), fun params he => absurd he (h _ params)⟩

/-- A command that neither flashes nor updates. -/
private theorem InOrder.harmless {build : FirmwareBuild} {hub : FirmwareHub} {r : AttemptRecord}
    {opcode : UInt16} {params : List UInt8}
    (h : opcode ∉ [updaterCmdEraseFlash, updaterCmdWriteFlashEncrypted,
      updaterCmdUpdateBootloader]) : InOrder build hub r (.command opcode params) := by
  simp only [List.mem_cons, List.not_mem_nil, or_false, not_or] at h
  constructor
  · rintro _ _ he (hop | hop)
    · cases he
      exact absurd hop h.1
    · cases he
      exact absurd hop h.2.1
  · intro _ he
    cases he
    exact absurd rfl h.2.2

section

variable {σ : Type} {chip : Chip σ} {build : FirmwareBuild} {hub : FirmwareHub}

/-- A program under the observer, with the order of events of a press. -/
private abbrev Orderly {α : Type} (build : FirmwareBuild) (hub : FirmwareHub) (r : AttemptRecord)
    (p : ChipProg σ α) (post : α → AttemptRecord → Prop) : Prop :=
  Observed recorder (InOrder build hub) r p post

private theorem readBytes_orderly (n : ℕ) (r : AttemptRecord) :
    Orderly build hub r (readBytes chip n) fun _ r' => r' = r := by
  induction n with
  | zero => exact Observed.pure rfl
  | succ n ih =>
    apply Observed.ask_bind
    intro byte
    apply Observed.bind ih
    rintro bytes _ rfl
    exact Observed.pure rfl

private theorem writeCommand_orderly {opcode : UInt16} {params : List UInt8} {r : AttemptRecord}
    (h : InOrder build hub r (.command opcode params)) (timeout : UInt32) :
    Orderly build hub r (writeCommand chip opcode params timeout) fun sent r' =>
      r' = if sent then r.noteCommand opcode params else r := by
  apply Observed.ask_bind
  intro ready
  apply Observed.ite
  · intro _
    exact Observed.pure rfl
  · intro _
    exact Observed.tell_bind h (Observed.pure rfl)

private theorem writeAndAwait_orderly {opcode : UInt16} {r : AttemptRecord}
    (h : InOrder build hub r (.command opcode [])) (timeout : UInt32) :
    Orderly build hub r (writeAndAwait chip opcode timeout) fun done r' =>
      r' = r.noteCommand opcode [] ∨ done = false ∧ r' = r := by
  apply Observed.bind (writeCommand_orderly h _)
  rintro sent _ rfl
  apply Observed.ite
  · intro hsent
    refine Observed.pure (.inr ⟨rfl, ?_⟩)
    rw [hsent]
    rfl
  · intro hsent
    rw [Bool.not_eq_false] at hsent
    apply Observed.ask
    intro _
    rw [hsent]
    exact .inl rfl

/-- A query, with its answer or without. -/
private theorem readCommand_orderly {opcode : UInt16} {params : List UInt8} {r : AttemptRecord}
    (h : InOrder build hub r (.command opcode params)) (outLen : ℕ) (timeout : UInt32) :
    Orderly build hub r (readCommand chip opcode params outLen timeout) fun out r' =>
      match out with
      | none => r' = r ∨ r' = r.noteCommand opcode params
      | some bytes => r' = (r.noteCommand opcode params).note (.response bytes) := by
  apply Observed.bind (writeCommand_orderly h _)
  rintro sent _ rfl
  apply Observed.ite
  · intro hsent
    apply Observed.pure
    rw [hsent]
    exact .inl rfl
  · intro hsent
    rw [Bool.not_eq_false] at hsent
    rw [hsent]
    apply Observed.ask_bind
    intro ready
    apply Observed.ite
    · intro _
      exact Observed.pure (.inr rfl)
    · intro _
      apply Observed.ask_bind
      intro _
      apply Observed.bind (readBytes_orderly _ _)
      rintro bytes _ rfl
      exact Observed.tell_bind (.plain fun _ _ he => by cases he) (Observed.pure rfl)

private theorem writeCommand_keeps {opcode : UInt16} (params : List UInt8) (r : AttemptRecord)
    (h : opcode ∉ [updaterCmdEraseFlash, updaterCmdWriteFlashEncrypted,
      updaterCmdUpdateBootloader]) (timeout : UInt32) :
    Orderly build hub r (writeCommand chip opcode params timeout) fun _ r' =>
      r'.updates = r.updates := by
  have hne : opcode ≠ updaterCmdUpdateBootloader := by
    rintro rfl
    simp at h
  apply (writeCommand_orderly (.harmless h) _).weaken
  rintro sent _ rfl
  split_ifs
  · exact r.noteCommand_updates hne params
  · rfl

private theorem readCommand_keeps {opcode : UInt16} (params : List UInt8) (r : AttemptRecord)
    (h : opcode ∉ [updaterCmdEraseFlash, updaterCmdWriteFlashEncrypted,
      updaterCmdUpdateBootloader]) (outLen : ℕ) (timeout : UInt32) :
    Orderly build hub r (readCommand chip opcode params outLen timeout) fun _ r' =>
      r'.updates = r.updates := by
  have hne : opcode ≠ updaterCmdUpdateBootloader := by
    rintro rfl
    simp at h
  apply (readCommand_orderly (.harmless h) _ _).weaken
  intro out r' hr'
  cases out with
  | none =>
    rcases hr' with rfl | rfl
    · rfl
    · exact r.noteCommand_updates hne params
  | some bytes =>
    rw [hr', AttemptRecord.note_response_updates]
    exact r.noteCommand_updates hne params

private theorem getVersion_orderly (r : AttemptRecord) :
    Orderly build hub r (getVersion chip) fun out r' =>
      r'.updates = r.updates ∧ ∀ read, out = some read →
        r' = { r with asked := some updaterCmdGetVersion }.noteVersion read := by
  apply Observed.bind (readCommand_orderly (.harmless (by decide)) _ _)
  intro out r' hr'
  apply Observed.pure
  cases out with
  | none =>
    refine ⟨?_, fun read h => by cases h⟩
    rcases hr' with rfl | rfl
    · rfl
    · rfl
  | some bytes =>
    subst hr'
    refine ⟨AttemptRecord.note_response_updates _ _, fun read h => ?_⟩
    cases h
    rfl

private theorem enterBootloader_orderly (r : AttemptRecord) :
    Orderly build hub r (enterBootloader chip) fun out r' =>
      r'.updates = r.updates ∧ ∀ read, out = some read →
        r'.identity = some read ∧ r'.entering = false := by
  apply Observed.tell_bind (.plain fun _ _ he => by cases he)
  apply (getVersion_orderly _).weaken
  intro out r' hr'
  refine ⟨hr'.1, fun read hread => ?_⟩
  rw [hr'.2 read hread]
  exact ⟨rfl, rfl⟩

/-- An image was written on an erased flash, in the bootloader that was entered. -/
private structure Flashed (r : AttemptRecord) (stage : FlashStage) (bytes : List UInt8)
    (r' : AttemptRecord) : Prop where
  identity : r'.identity = r.identity
  entering : r'.entering = r.entering
  stage : r'.stage = some stage
  flashed : r'.flashed = some bytes

private theorem extend_writeParams {r : AttemptRecord} {written : ℕ} {bytes : List UInt8}
    (hflashed : r.flashed = some bytes) (hlength : bytes.length = written * 4)
    (chunk : List UInt32) :
    r.extend (writeParams written chunk) = some (bytes ++ chunk.flatMap wordBytes) := by
  have htake : (writeParams written chunk).take 4 = wordBytes (UInt32.ofNat bytes.length) := by
    rw [hlength]
    rfl
  have hdrop : (writeParams written chunk).drop 4 = chunk.flatMap wordBytes := rfl
  rw [AttemptRecord.extend, hflashed, Option.bind_some, if_pos htake, hdrop]

private theorem writeChunks_orderly (chunks written : ℕ) (words : List UInt32)
    {stage : FlashStage} {bytes : List UInt8} {r₀ r : AttemptRecord}
    (hgrounds : ∀ r', r'.identity = r₀.identity → Grounds build hub r' stage)
    (hr : Flashed r₀ stage bytes r) (hlength : bytes.length = written * 4)
    (hchunks : words.length ≤ chunks) :
    Orderly build hub r (writeChunks chip chunks written words) fun ok r' =>
      r'.updates = r.updates ∧
        (ok = true → Flashed r₀ stage (bytes ++ words.flatMap wordBytes) r') := by
  induction chunks generalizing written words bytes r with
  | zero =>
    have hnil : words = [] := List.length_eq_zero_iff.mp (by omega)
    subst hnil
    refine Observed.pure ⟨rfl, fun _ => ?_⟩
    rw [List.flatMap_nil, List.append_nil]
    exact hr
  | succ chunks ih =>
    cases words with
    | nil =>
      refine Observed.pure ⟨rfl, fun _ => ?_⟩
      rw [List.flatMap_nil, List.append_nil]
      exact hr
    | cons word words =>
      have horder : InOrder build hub r (.command updaterCmdWriteFlashEncrypted
          (writeParams written ((word :: words).take updaterFlashChunkWords))) := by
        constructor
        · intro _ _ _ _
          exact ⟨stage, hr.stage, hgrounds r hr.identity⟩
        · intro _ he
          injection he with hop
          exact absurd hop (by decide)
      apply Observed.bind (writeCommand_orderly horder _)
      rintro sent _ rfl
      apply Observed.ite
      · intro hsent
        refine Observed.pure ⟨?_, fun h => absurd h Bool.false_ne_true⟩
        rw [hsent]
        rfl
      · intro hsent
        rw [Bool.not_eq_false] at hsent
        rw [hsent, if_pos rfl, AttemptRecord.noteCommand_write,
          extend_writeParams hr.flashed hlength]
        have hsplit : (bytes ++ ((word :: words).take updaterFlashChunkWords).flatMap wordBytes) ++
            ((word :: words).drop updaterFlashChunkWords).flatMap wordBytes =
            bytes ++ (word :: words).flatMap wordBytes := by
          rw [List.append_assoc, ← List.flatMap_append, List.take_append_drop]
        rw [← hsplit]
        apply ih
        · exact ⟨hr.identity, hr.entering, hr.stage, rfl⟩
        · rw [List.length_append, wordBytes_length, hlength]
          omega
        · have hpos : 0 < updaterFlashChunkWords := by decide
          rw [List.length_drop]
          omega

private theorem eraseAndWriteImage_orderly (stage : FlashStage) (image : List UInt32)
    {r : AttemptRecord}
    (hgrounds : ∀ r', r'.identity = r.identity → Grounds build hub r' stage) :
    Orderly build hub r (lr1121EraseAndWriteImage chip stage image) fun ok r' =>
      r'.updates = r.updates ∧
        (ok = true → Flashed r stage (image.flatMap wordBytes) r') := by
  apply Observed.tell_bind (.plain fun _ _ he => by cases he)
  have horder : InOrder build hub { r with stage := some stage }
      (.command updaterCmdEraseFlash []) := by
    constructor
    · intro _ _ _ _
      exact ⟨stage, rfl, hgrounds _ rfl⟩
    · intro _ he
      injection he with hop
      exact absurd hop (by decide)
  apply Observed.bind (writeAndAwait_orderly horder _)
  intro erased r' hr'
  apply Observed.ite
  · intro herased
    refine Observed.pure ⟨?_, fun h => absurd h Bool.false_ne_true⟩
    rcases hr' with rfl | ⟨-, rfl⟩
    · rfl
    · rfl
  · intro herased
    rcases hr' with rfl | ⟨hfalse, -⟩
    · have hlength : ([] : List UInt8).length = 0 * 4 := rfl
      have hstart : Flashed r stage [] (AttemptRecord.noteCommand { r with stage := some stage }
          updaterCmdEraseFlash []) := ⟨rfl, rfl, rfl, rfl⟩
      exact writeChunks_orderly image.length 0 image hgrounds hstart hlength (Nat.le_refl _)
    · exact absurd hfalse herased

/-- A sequence ends in a restart, after at most one rewrite of the bootloader. -/
private structure Ended (hub' : FirmwareHub) (r' : AttemptRecord) : Prop where
  restarting : hub'.restarting = true
  restarted : r'.restarted = true
  updates : r'.updates ≤ 1

private theorem safeReboot_orderly {r : AttemptRecord} (h : r.updates ≤ 1) (hub' : FirmwareHub) :
    Orderly build hub r (safeReboot hub' : ChipProg σ FirmwareHub) Ended :=
  Observed.tell_bind (.plain fun _ _ he => by cases he) (Observed.pure ⟨rfl, rfl, h⟩)

private theorem bootIntoImage_keeps (r : AttemptRecord) :
    Orderly build hub r (bootIntoImage chip) fun _ r' => r'.updates = r.updates := by
  apply Observed.bind (readCommand_keeps [] r (by decide) _ _)
  intro _ r₁ h₁
  apply Observed.bind (writeCommand_keeps _ r₁ (by decide) _)
  intro rebooted r₂ h₂
  apply Observed.ite
  · intro _
    exact Observed.pure (h₂.trans h₁)
  · intro _
    apply Observed.bind (getVersion_orderly r₂)
    intro _ r₃ h₃
    exact Observed.pure ((h₃.1.trans h₂).trans h₁)

/-- The end of a sequence that flashes the transceiver image. -/
private theorem flashTransceiver_orderly (stage : FlashStage) {r : AttemptRecord}
    (hgrounds : ∀ r', r'.identity = r.identity → Grounds build hub r' stage)
    (h : r.updates ≤ 1) (hub' : FirmwareHub) :
    Orderly build hub r (do
      let written ← lr1121EraseAndWriteImage chip stage build.image
      if written = false then safeReboot hub'
      else do
        bootIntoImage chip
        safeReboot hub') Ended := by
  apply Observed.bind (eraseAndWriteImage_orderly stage build.image hgrounds)
  intro written r₁ h₁
  have hupdates : r₁.updates ≤ 1 := h₁.1.trans_le h
  apply Observed.ite
  · intro _
    exact safeReboot_orderly hupdates hub'
  · intro _
    apply Observed.bind (bootIntoImage_keeps r₁)
    intro _ r₂ h₂
    exact safeReboot_orderly (h₂.trans_le hupdates) hub'

private theorem flashSequence_orderly (hflashes : Flashes hub) {r : AttemptRecord}
    (h : r.updates ≤ 1) (hub' : FirmwareHub) (hsanity : hub'.sanity = hub.sanity) :
    Orderly build hub r (runLr1121FlashSequence chip build hub') Ended := by
  apply Observed.bind (enterBootloader_orderly r)
  intro read r₁ h₁
  have hupdates : r₁.updates ≤ 1 := h₁.1.trans_le h
  cases read with
  | none => exact safeReboot_orderly hupdates _
  | some read =>
    apply Observed.ite
    · intro _
      apply Observed.bind (writeCommand_keeps _ r₁ (by decide) _)
      intro _ r₂ h₂
      exact safeReboot_orderly (h₂.trans_le hupdates) _
    · intro hok
      apply flashTransceiver_orderly .firmwareUpdate _ hupdates
      intro r' hidentity
      refine ⟨hflashes, read, hidentity.trans (h₁.2 read rfl).1, ?_⟩
      rw [← hsanity]
      exact not_not.mp hok

private theorem upgradeStage1_orderly {loader : LoaderImage} (hupgrades : Upgrades build hub loader)
    {r : AttemptRecord} (h : r.updates = 0) (hub' : FirmwareHub)
    (hsanity : hub'.sanity = hub.sanity) {next : FirmwareHub → ChipProg σ FirmwareHub}
    (hnext : ∀ r', Checkpoints build hub r' → Orderly build hub r' (next hub') Ended) :
    Orderly build hub r (upgradeStage1 chip loader hub' next) Ended := by
  have hend : ∀ r' : AttemptRecord, r'.updates = 0 →
      Orderly build hub r' (safeReboot hub' : ChipProg σ FirmwareHub) Ended :=
    fun r' h' => safeReboot_orderly (h'.trans_le (Nat.zero_le 1)) hub'
  apply Observed.bind (enterBootloader_orderly r)
  intro read r₁ h₁
  have hupdates₁ : r₁.updates = 0 := h₁.1.trans h
  cases read with
  | none => exact hend r₁ hupdates₁
  | some read =>
    obtain ⟨hidentity, hentering⟩ := h₁.2 read rfl
    apply Observed.ite
    · intro _
      apply Observed.bind (writeCommand_keeps _ r₁ (by decide) _)
      intro _ r₂ h₂
      exact hend r₂ (h₂.trans hupdates₁)
    · intro hok
      have hsane : hub.sanity read = .ok := by
        rw [← hsanity]
        exact not_not.mp hok
      apply Observed.bind (eraseAndWriteImage_orderly .loaderWrite loader.image fun r' hr' =>
        ⟨⟨loader, hupgrades⟩, read, hr'.trans hidentity, hsane⟩)
      intro written r₂ h₂
      have hupdates₂ : r₂.updates = 0 := h₂.1.trans hupdates₁
      apply Observed.ite
      · intro _
        exact hend r₂ hupdates₂
      · intro hwritten
        rw [Bool.not_eq_false] at hwritten
        have hflashed := h₂.2 hwritten
        apply Observed.bind (writeCommand_orderly (.harmless (by decide)) _)
        rintro rebooted r₃ rfl
        apply Observed.ite
        · intro hnot
          rw [hnot]
          exact hend r₂ hupdates₂
        · intro hrebooted
          rw [Bool.not_eq_false] at hrebooted
          rw [hrebooted, if_pos rfl, AttemptRecord.noteCommand_reboot]
          apply Observed.bind (getVersion_orderly _)
          intro running r₄ h₄
          have hupdates₄ : r₄.updates = 0 := h₄.1.trans hupdates₂
          cases running with
          | none => exact hend r₄ hupdates₄
          | some running =>
            apply Observed.ite
            · intro _
              exact hend r₄ hupdates₄
            · intro htype
              apply Observed.ite
              · intro _
                exact hend r₄ hupdates₄
              · intro hversion
                have hrunning : running = ⟨updaterLoaderDeviceType, lr1121Loader2100⟩ := by
                  rw [← not_not.mp htype, ← not_not.mp hversion]
                have hr₄ := h₄.2 running rfl
                have hleft : r₂.entering = false := hflashed.entering.trans hentering
                simp only [AttemptRecord.noteVersion, hleft, Bool.false_eq_true, if_false,
                  if_true] at hr₄
                apply hnext
                subst hr₄
                exact
                  { loader := ⟨loader, hupgrades, hflashed.flashed⟩
                    stage := hflashed.stage
                    identity := ⟨read, hflashed.identity.trans hidentity, hsane⟩
                    rebooted := rfl
                    running := congrArg some hrunning
                    first := hupdates₂ }

private theorem readUpdaterStatus_keeps (r : AttemptRecord) :
    Orderly build hub r (readUpdaterStatus chip) fun _ r' => r'.updates = r.updates := by
  apply Observed.ask_bind
  intro ready
  apply Observed.ite
  · intro _
    exact Observed.pure rfl
  · intro _
    apply Observed.bind (readBytes_orderly _ _)
    rintro data _ rfl
    exact Observed.tell_bind (.plain fun _ _ he => by cases he) (Observed.pure rfl)

private theorem verifyBootloader_keeps (r : AttemptRecord) :
    Orderly build hub r (verifyBootloader chip) fun _ r' => r'.updates = r.updates := by
  apply Observed.bind (readCommand_keeps [] r (by decide) _ _)
  intro _ _ h
  exact Observed.pure h

private theorem upgradeStage2_orderly {r : AttemptRecord} (h : Checkpoints build hub r)
    (hub' : FirmwareHub) {next : FirmwareHub → ChipProg σ FirmwareHub}
    (hnext : ∀ hub' r', r'.updates ≤ 1 → Orderly build hub r' (next hub') Ended) :
    Orderly build hub r (upgradeStage2 chip hub' next) Ended := by
  have hupdate : InOrder build hub r (.command updaterCmdUpdateBootloader []) := by
    constructor
    · rintro _ _ he (hop | hop)
      · cases he
        exact absurd hop (by decide)
      · cases he
        exact absurd hop (by decide)
    · intro _ _
      exact h
  apply Observed.bind (writeAndAwait_orderly hupdate _)
  intro updated r₁ h₁
  have hupdates₁ : r₁.updates ≤ 1 := by
    rcases h₁ with rfl | ⟨-, rfl⟩
    · exact Nat.le_of_eq (congrArg Nat.succ h.first)
    · rw [h.first]
      exact Nat.zero_le 1
  apply Observed.ite
  · intro _
    exact safeReboot_orderly hupdates₁ _
  · intro _
    apply Observed.bind (readUpdaterStatus_keeps r₁)
    intro _ r₂ h₂
    apply Observed.bind (verifyBootloader_keeps r₂)
    intro verification r₃ h₃
    have hupdates₃ : r₃.updates ≤ 1 := (h₃.trans h₂).trans_le hupdates₁
    cases verification with
    | none => exact safeReboot_orderly hupdates₃ _
    | some verification =>
      apply Observed.ite
      · intro _
        exact safeReboot_orderly hupdates₃ _
      · intro _
        apply Observed.bind (writeCommand_keeps _ r₃ (by decide) _)
        intro rebooted r₄ h₄
        have hupdates₄ : r₄.updates ≤ 1 := h₄.trans_le hupdates₃
        apply Observed.ite
        · intro _
          exact safeReboot_orderly hupdates₄ _
        · intro _
          apply Observed.bind (getVersion_orderly r₄)
          intro postUpdate r₅ h₅
          have hupdates₅ : r₅.updates ≤ 1 := h₅.1.trans_le hupdates₄
          cases postUpdate with
          | none => exact safeReboot_orderly hupdates₅ _
          | some postUpdate =>
            apply Observed.ite
            · intro _
              exact safeReboot_orderly hupdates₅ _
            · intro _
              exact hnext _ r₅ hupdates₅

private theorem upgradeStage3_orderly {loader : LoaderImage} (hupgrades : Upgrades build hub loader)
    {r : AttemptRecord} (h : r.updates ≤ 1) (hub' : FirmwareHub) :
    Orderly build hub r (upgradeStage3 chip build hub') Ended := by
  apply Observed.bind (enterBootloader_orderly r)
  intro read r₁ h₁
  have hupdates : r₁.updates ≤ 1 := h₁.1.trans_le h
  cases read with
  | none => exact safeReboot_orderly hupdates _
  | some read =>
    apply Observed.ite
    · intro _
      exact safeReboot_orderly hupdates _
    · intro hread
      obtain ⟨htype, hversion⟩ := not_or.mp hread
      apply flashTransceiver_orderly .transceiverWrite _ hupdates
      intro r' hidentity
      refine ⟨⟨loader, hupgrades⟩, hidentity.trans ((h₁.2 read rfl).1.trans ?_)⟩
      rw [← not_not.mp htype, ← not_not.mp hversion]

/-- A press either leaves the chip alone, at most arming the confirmation, or ends in a
restart. -/
private theorem trigger_orderly (hub : FirmwareHub) :
    Orderly build hub {} (triggerLr1121FirmwareUpdate chip build hub) fun hub' r' =>
      Ended hub' r' ∨
        r' = {} ∧ (hub' = hub ∨ hub' = { hub with flashConfirmationArmed := true }) := by
  have hkeep : Orderly build hub {} (pure hub : ChipProg σ FirmwareHub) fun hub' r' =>
      Ended hub' r' ∨
        r' = {} ∧ (hub' = hub ∨ hub' = { hub with flashConfirmationArmed := true }) :=
    Observed.pure (.inr ⟨rfl, .inl rfl⟩)
  unfold triggerLr1121FirmwareUpdate
  apply Observed.ite
  · intro _
    exact hkeep
  · intro _
    apply Observed.ite
    · intro _
      exact hkeep
    · intro _
      apply Observed.ite
      · intro _
        exact hkeep
      · intro hchip
        apply Observed.ite
        · intro hold
          cases hbootloader : build.bootloader with
          | none => exact hkeep
          | some loader =>
            apply Observed.ite
            · intro havailable
              apply Observed.ite
              · intro _
                exact hkeep
              · intro hallowed
                rw [Bool.not_eq_false] at hallowed
                have hupgrades : Upgrades build hub loader :=
                  ⟨hbootloader, hold, havailable, hallowed⟩
                have hsequence : Orderly build hub {}
                    (runLr1121BootloaderUpgradeSequence chip build loader hub) Ended := by
                  have hfirst : ({} : AttemptRecord).updates = 0 := rfl
                  refine upgradeStage1_orderly hupgrades hfirst { hub with busy := true } rfl ?_
                  intro r₁ h₁
                  apply upgradeStage2_orderly h₁
                  intro hub' r₂ h₂
                  exact upgradeStage3_orderly hupgrades h₂ hub'
                exact hsequence.weaken fun _ _ h => .inl h
            · intro _
              exact hkeep
        · intro hold
          apply Observed.ite
          · intro hproceeds
            apply Observed.weaken
            · exact flashSequence_orderly ⟨hchip, hold, hproceeds⟩ (Nat.zero_le 1) _ rfl
            · intro _ _ h
              exact .inl h
          · intro _
            exact Observed.pure (.inr ⟨rfl, .inr rfl⟩)

end

inductive FirmwareEvent where
  | press
  | windowExpires
  | setBootloaderRewriteAllowed (allowed : Bool)
  | restart
  deriving DecidableEq, Repr

/-- What a press sent to the chip, and the hub that it met. -/
structure Attempt where
  hub : FirmwareHub
  events : List ChipEvent

section

variable {σ : Type} (board : Board σ) (build : FirmwareBuild)

def boot (env : σ) : FirmwareHub × σ :=
  let booted := setup board build ⟨env, []⟩
  (booted.1, booted.2.env)

/-- The controller from its boot on. A restart that a press requested follows it at once. -/
def controller : Machine (FirmwareHub × σ) FirmwareEvent Attempt where
  step d
    | .press =>
      let pressed := triggerLr1121FirmwareUpdate board.toChip build d.1 ⟨d.2, []⟩
      (if pressed.1.restarting then boot board build pressed.2.env
        else (pressed.1, pressed.2.env), [⟨d.1, pressed.2.log⟩])
    | .windowExpires => (({ d.1 with flashConfirmationArmed := false }, d.2), [])
    | .setBootloaderRewriteAllowed allowed =>
      (({ d.1 with bootloaderRewriteAllowed := allowed }, d.2), [])
    | .restart => (boot board build d.2, [])

end

/-- The cached verdict is about the cached readings, and one that failed left none. -/
structure Consistent (build : FirmwareBuild) (hub : FirmwareHub) : Prop where
  verdict : hub.flashVerdict = lr1121FlashDecision hub.installedDeviceType hub.bootloaderChipType
    hub.bootloaderVersion hub.installedFw build.targetVersion false
  unread : hub.bootloaderVersionKnown = false → hub.bootloaderVersion = 0

section

variable {σ : Type} {board : Board σ} {build : FirmwareBuild}

private theorem setup_consistent : Returns (setup board build) (Consistent build) := by
  have hcache : ∀ (hub : FirmwareHub) (installed : Option ReportedVersion),
      (hub.bootloaderVersionKnown = false → hub.bootloaderVersion = 0) →
      Consistent build (hub.cacheVerdict build installed) := fun _ _ h => ⟨rfl, h⟩
  apply Returns.skip
  intro constructed
  apply Returns.ite
  · intro _
    exact Returns.pure ⟨rfl, fun _ => rfl⟩
  · intro _
    have hread : Returns (runLr1121BootTimeBootloaderRead board {}) fun hub =>
        hub.bootloaderVersionKnown = false → hub.bootloaderVersion = 0 := by
      apply Returns.skip
      intro allocated
      apply Returns.ite
      · intro _
        exact Returns.pure fun _ => rfl
      · intro _
        apply Returns.skip
        intro read
        cases read with
        | none => exact Returns.pure fun _ => rfl
        | some read =>
          apply Returns.skip
          intro _
          exact Returns.pure fun h => absurd h.symm Bool.false_ne_true
    refine Returns.bind hread ?_
    intro hub hub_unread
    apply Returns.skip
    intro hasRadio
    apply Returns.ite
    · intro _
      apply Returns.skip
      intro installed
      exact Returns.pure (hcache hub installed hub_unread)
    · intro _
      exact Returns.pure (hcache hub none hub_unread)

private theorem boot_consistent (env : σ) : Consistent build (boot board build env).1 :=
  setup_consistent ⟨env, []⟩

private theorem press_orderly (board : Board σ) (build : FirmwareBuild)
    (d : FirmwareHub × σ) :
    Orderly build d.1 {} (triggerLr1121FirmwareUpdate board.toChip build d.1) fun hub' r' =>
      Ended hub' r' ∨
        r' = {} ∧ (hub' = d.1 ∨ hub' = { d.1 with flashConfirmationArmed := true }) :=
  trigger_orderly d.1

private theorem controller_consistent (d : FirmwareHub × σ) (e : FirmwareEvent)
    (h : Consistent build d.1) : Consistent build ((controller board build).step d e).1.1 := by
  cases e with
  | press =>
    dsimp only [controller]
    split_ifs with hrestarting
    · exact boot_consistent _
    · obtain ⟨es, -, -, hended | ⟨-, hhub⟩⟩ := press_orderly board build d ⟨d.2, []⟩
      · exact absurd hended.restarting hrestarting
      · rcases hhub with hhub | hhub
        · dsimp only
          rw [hhub]
          exact h
        · dsimp only
          rw [hhub]
          exact ⟨h.verdict, h.unread⟩
  | windowExpires => exact ⟨h.verdict, h.unread⟩
  | setBootloaderRewriteAllowed allowed => exact ⟨h.verdict, h.unread⟩
  | restart => exact boot_consistent d.2

/-- What holds of every attempt. -/
structure OrderlyAttempt (build : FirmwareBuild) (attempt : Attempt) : Prop where
  consistent : Consistent build attempt.hub
  inOrder : recorder.Along (InOrder build attempt.hub) {} attempt.events
  ended : recorder.run {} attempt.events = {} ∨
    (recorder.run {} attempt.events).restarted = true ∧
      (recorder.run {} attempt.events).updates ≤ 1

/-- Every attempt of a run is orderly, and meets what the run meets at its presses. -/
theorem attempts_orderly (met : FirmwareHub → Prop) {env : σ} {events : List FirmwareEvent}
    (along : (controller board build).Along (fun d e => e = .press → met d.1)
      (boot board build env) events) :
    ∀ attempt ∈ (controller board build).outputs (boot board build env) events,
      OrderlyAttempt build attempt ∧ met attempt.hub := by
  refine Machine.outputs_keep (controller board build) controller_consistent ?_
    (boot_consistent env) along
  intro d e hconsistent hmet attempt hattempt
  cases e with
  | press =>
    obtain rfl := List.mem_singleton.mp hattempt
    obtain ⟨es, hlog, hinOrder, hended⟩ := press_orderly board build d ⟨d.2, []⟩
    rw [List.nil_append] at hlog
    refine ⟨⟨hconsistent, ?_, ?_⟩, hmet rfl⟩
    · rw [hlog]
      exact hinOrder
    · rw [hlog]
      rcases hended with hended | ⟨hnothing, -⟩
      · exact .inr ⟨hended.restarted, hended.updates⟩
      · exact .inl hnothing
  | windowExpires => cases hattempt
  | setBootloaderRewriteAllowed allowed => cases hattempt
  | restart => cases hattempt

end

/-- A board whose chip answers from a script: whether BUSY falls, and the bytes it sends. -/
def scriptedBoard : Board (List Bool × List UInt8) where
  waitBusy _ script := (script.1.headD true, script.1.tail, script.2)
  spiRead script := (script.2.headD 0, script.1, script.2.tail)
  constructRadio script := (true, script)
  allocateUpdater script := (true, script)
  initRadio script := (true, script)

private theorem sanity_ok {hub : FirmwareHub} {read : ReportedVersion}
    (h : hub.sanity read = .ok) :
    read.type = updaterBootloaderType ∧
      (hub.bootloaderVersionKnown = true → read.version = hub.bootloaderVersion) ∧
      (hub.bootloaderVersionKnown = false → lr1121BootloaderIsLr1121 read.version = true) := by
  simp only [FirmwareHub.sanity, lr1121CheckBootloaderSanity] at h
  split_ifs at h with htype hknown hversion hchip
  · refine ⟨not_not.mp htype, fun _ => not_not.mp hversion, fun hunknown => ?_⟩
    rw [hknown] at hunknown
    cases hunknown
  · rw [Bool.not_eq_false] at hchip
    exact ⟨not_not.mp htype, fun hk => absurd hk hknown, fun _ => hchip⟩

private theorem evidence_of_flashes {build : FirmwareBuild} {hub : FirmwareHub}
    (hconsistent : Consistent build hub) (h : Flashes hub) (hread : hub.bootloaderVersion ≠ 0) :
    FlashEvidence hub.installedDeviceType hub.bootloaderChipType hub.bootloaderVersion
      build.targetVersion := by
  have hchip := h.rightChip
  have hold := h.notTooOld
  rw [hconsistent.verdict] at hchip hold
  exact evidence_of_not_rejected hread hchip hold

/-- The transceiver image is erased for and written only on a bootloader that the target is not
known to be incompatible with. -/
def CompatibleImage (build : FirmwareBuild) (r : AttemptRecord) (e : ChipEvent) : Prop :=
  ∀ opcode params, e = .command opcode params →
    opcode = updaterCmdEraseFlash ∨ opcode = updaterCmdWriteFlashEncrypted →
    r.stage ≠ some .loaderWrite →
    ∃ read, r.identity = some read ∧
      lr1121BootloaderSupportsTarget build.targetVersion read.version ≠ .unsupported

instance (build : FirmwareBuild) (r : AttemptRecord) (e : ChipEvent) :
    Decidable (CompatibleImage build r e) :=
  match e with
  | .command opcode params =>
    decidable_of_iff
      (opcode = updaterCmdEraseFlash ∨ opcode = updaterCmdWriteFlashEncrypted →
        r.stage ≠ some .loaderWrite → r.identity.any fun read =>
          lr1121BootloaderSupportsTarget build.targetVersion read.version ≠ .unsupported)
      (by simp [CompatibleImage, Option.any_eq_true])
  | .entryReset | .response _ | .status _ | .erasing _ | .safeReboot =>
    isTrue fun _ _ he => by cases he

/-- A confirmed press of a hub that cannot tell that the image is incompatible, although the
target is known: no version was read at boot, or with the version that was read the verdict did
not get to compare them. -/
structure ConfirmsBlindly (build : FirmwareBuild) (hub : FirmwareHub) : Prop where
  armed : hub.flashConfirmationArmed = true
  target : lr1121RequiredBootloaderFor build.targetVersion ≠ 0
  blind : hub.bootloaderVersionKnown = false ∨
    (hub.bootloaderVersion = 0 ∨ hub.installedDeviceType = 0) ∧
      lr1121BootloaderSupportsTarget build.targetVersion hub.bootloaderVersion = .unsupported

private theorem target_of_unsupported {targetFw bootloaderVersion : UInt16}
    (h : lr1121BootloaderSupportsTarget targetFw bootloaderVersion = .unsupported) :
    lr1121RequiredBootloaderFor targetFw ≠ 0 := by
  intro hzero
  rw [supports_eq, if_pos hzero] at h
  cases h

private theorem flashes_compatible {build : FirmwareBuild} {hub : FirmwareHub}
    (hconsistent : Consistent build hub) (hflashes : Flashes hub)
    (hsees : ¬ ConfirmsBlindly build hub) {read : ReportedVersion} (hsane : hub.sanity read = .ok) :
    lr1121BootloaderSupportsTarget build.targetVersion read.version ≠ .unsupported := by
  intro hunsupported
  obtain ⟨-, hknown, -⟩ := sanity_ok hsane
  -- with both readings the verdict itself compared the versions
  have hcompared : hub.bootloaderVersionKnown = true → hub.bootloaderVersion ≠ 0 →
      hub.installedDeviceType ≠ 0 → False := by
    intro hread hversion hdevice
    rw [hknown hread] at hunsupported
    exact (evidence_of_flashes hconsistent hflashes hversion).compatible hdevice hunsupported
  by_cases hread : hub.bootloaderVersionKnown = true
  · by_cases hboth : hub.bootloaderVersion = 0 ∨ hub.installedDeviceType = 0
    · rcases hflashes.proceeds with hproceed | harmed
      · rw [hconsistent.verdict] at hproceed
        obtain ⟨hversion, hdevice⟩ := read_of_proceed hproceed
        exact hcompared hread hversion hdevice
      · have htarget := target_of_unsupported hunsupported
        rw [hknown hread] at hunsupported
        exact hsees ⟨harmed, htarget, .inr ⟨hboth, hunsupported⟩⟩
    · obtain ⟨hversion, hdevice⟩ := not_or.mp hboth
      exact hcompared hread hversion hdevice
  · rw [Bool.not_eq_true] at hread
    rcases hflashes.proceeds with hproceed | harmed
    · rw [hconsistent.verdict] at hproceed
      exact (read_of_proceed hproceed).1 (hconsistent.unread hread)
    · exact hsees ⟨harmed, target_of_unsupported hunsupported, .inl hread⟩

/-- In every run whose presses do not confirm blindly, no transceiver image is flashed that the
bootloader in the same attempt is known not to support. -/
theorem no_incompatible_image_is_flashed {σ : Type} (board : Board σ) (build : FirmwareBuild)
    (env : σ) (events : List FirmwareEvent)
    (hsees : (controller board build).Along
      (fun d e => e = .press → ¬ ConfirmsBlindly build d.1) (boot board build env) events) :
    ∀ attempt ∈ (controller board build).outputs (boot board build env) events,
      recorder.Along (CompatibleImage build) {} attempt.events := by
  intro attempt hattempt
  obtain ⟨horderly, hmet⟩ := attempts_orderly (fun hub => ¬ ConfirmsBlindly build hub) hsees attempt
    hattempt
  apply horderly.inOrder.weaken
  intro r e hinOrder opcode params he hflash hstage
  obtain ⟨stage, hr, hgrounds⟩ := hinOrder.flash opcode params he hflash
  cases stage with
  | firmwareUpdate =>
    obtain ⟨hflashes, read, hidentity, hsane⟩ := hgrounds
    exact ⟨read, hidentity, flashes_compatible horderly.consistent hflashes hmet hsane⟩
  | loaderWrite => exact absurd hr hstage
  | transceiverWrite =>
    obtain ⟨⟨loader, hupgrades⟩, hidentity⟩ := hgrounds
    obtain ⟨-, -, -, hrequired⟩ := upgrade_available hupgrades.available
    refine ⟨_, hidentity, ?_⟩
    rw [supports_of_required hrequired (by decide)]
    decide

/-- Firmware 1.4 is confirmed for the first bootloader, which was not read at boot; or which was,
while the installed version was not. -/
theorem blind_confirmation_flashes_incompatible_image :
    let build : FirmwareBuild := ⟨0x0104, [0xAABBCCDD], none⟩
    let attempts := fun script =>
      (controller scriptedBoard build).outputs (boot scriptedBoard build script) [.press, .press]
    (¬ ∀ attempt ∈ attempts ([false], [0, 0x22, 0x03, 1, 3, 0, 0x22, 0xDF, 0x21, 0]),
      recorder.Along (CompatibleImage build) {} attempt.events) ∧
    ¬ ∀ attempt ∈ attempts
        ([true, true, true, false], [0, 0x22, 0xDF, 0x21, 0, 0, 0x22, 0xDF, 0x21, 0]),
      recorder.Along (CompatibleImage build) {} attempt.events := by
  decide +kernel

/-- Firmware 1.3 replaces 1.2 at the first press. -/
theorem newer_image_is_flashed_compatibly :
    let build : FirmwareBuild := ⟨0x0103, [0xAABBCCDD], none⟩
    let script := ([], [0, 0x22, 0xDF, 0x21, 0, 0, 0x22, 0x03, 1, 2, 0, 0x22, 0xDF, 0x21, 0])
    let attempts :=
      (controller scriptedBoard build).outputs (boot scriptedBoard build script) [.press]
    attempts.map (fun attempt => attempt.events.contains (.command updaterCmdEraseFlash [])) =
        [true] ∧
      ∀ attempt ∈ attempts, recorder.Along (CompatibleImage build) {} attempt.events :=
  ⟨by decide +kernel, no_incompatible_image_is_flashed scriptedBoard _ _ [.press]
    ⟨fun _ h => absurd h.armed (by decide +kernel), trivial⟩⟩

/-- What is erased identified itself as an LR1121 in its bootloader, in the same attempt; and the
update without a new bootloader erases on a verdict or on a confirmation. -/
def IdentifiedChip (hub : FirmwareHub) (r : AttemptRecord) (e : ChipEvent) : Prop :=
  ∀ params, e = .command updaterCmdEraseFlash params →
    (∃ version, r.identity = some ⟨updaterBootloaderType, version⟩ ∧
      lr1121BootloaderIsLr1121 version = true) ∧
    (r.stage = some .firmwareUpdate →
      hub.flashVerdict = .proceed ∨ hub.flashConfirmationArmed = true)

instance (hub : FirmwareHub) (r : AttemptRecord) (e : ChipEvent) :
    Decidable (IdentifiedChip hub r e) :=
  match e with
  | .command opcode params =>
    decidable_of_iff
      (opcode = updaterCmdEraseFlash →
        (r.identity.any fun read =>
          read.type = updaterBootloaderType ∧ lr1121BootloaderIsLr1121 read.version) ∧
        (r.stage = some .firmwareUpdate →
          hub.flashVerdict = .proceed ∨ hub.flashConfirmationArmed = true))
      (by
        have hread : ∀ read : ReportedVersion, read.type = updaterBootloaderType →
            read = ⟨updaterBootloaderType, read.version⟩ := fun read h => by rw [← h]
        simp only [IdentifiedChip, Option.any_eq_true, decide_eq_true_eq]
        constructor
        · intro h params' he
          cases he
          obtain ⟨⟨read, hidentity, htype, hversion⟩, hproceeds⟩ := h rfl
          exact ⟨⟨read.version, hidentity.trans (congrArg some (hread read htype)), hversion⟩,
            hproceeds⟩
        · rintro h rfl
          obtain ⟨⟨version, hidentity, hversion⟩, hproceeds⟩ := h params rfl
          exact ⟨⟨_, hidentity, rfl, hversion⟩, hproceeds⟩)
  | .entryReset | .response _ | .status _ | .erasing _ | .safeReboot =>
    isTrue fun _ he => by cases he

/-- A confirmed press of a hub to which the bootloader reported the version zero at boot. -/
structure ConfirmsZeroVersion (hub : FirmwareHub) : Prop where
  armed : hub.flashConfirmationArmed = true
  known : hub.bootloaderVersionKnown = true
  zero : hub.bootloaderVersion = 0

private theorem flashes_lr1121 {build : FirmwareBuild} {hub : FirmwareHub}
    (hconsistent : Consistent build hub) (hflashes : Flashes hub)
    (hnonzero : ¬ ConfirmsZeroVersion hub) {read : ReportedVersion} (hsane : hub.sanity read = .ok) :
    lr1121BootloaderIsLr1121 read.version = true := by
  obtain ⟨-, hknown, hunknown⟩ := sanity_ok hsane
  by_cases hread : hub.bootloaderVersionKnown = true
  · have hversion : hub.bootloaderVersion ≠ 0 := by
      intro hzero
      rcases hflashes.proceeds with hproceed | harmed
      · rw [hconsistent.verdict] at hproceed
        exact (read_of_proceed hproceed).1 hzero
      · exact hnonzero ⟨harmed, hread, hzero⟩
    rw [hknown hread]
    exact (evidence_of_flashes hconsistent hflashes hversion).version
  · exact hunknown (Bool.not_eq_true _ ▸ hread)

/-- In every run whose presses do not confirm a reported version zero, only an LR1121 that
identified itself in the same attempt is erased. -/
theorem only_identified_chip_is_erased {σ : Type} (board : Board σ) (build : FirmwareBuild)
    (env : σ) (events : List FirmwareEvent)
    (hnonzero : (controller board build).Along
      (fun d e => e = .press → ¬ ConfirmsZeroVersion d.1) (boot board build env) events) :
    ∀ attempt ∈ (controller board build).outputs (boot board build env) events,
      recorder.Along (IdentifiedChip attempt.hub) {} attempt.events := by
  intro attempt hattempt
  obtain ⟨horderly, hmet⟩ := attempts_orderly (fun hub => ¬ ConfirmsZeroVersion hub) hnonzero attempt
    hattempt
  apply horderly.inOrder.weaken
  intro r e hinOrder params he
  obtain ⟨stage, hr, hgrounds⟩ := hinOrder.flash _ params he (.inl rfl)
  cases stage with
  | firmwareUpdate =>
    obtain ⟨hflashes, read, hidentity, hsane⟩ := hgrounds
    refine ⟨⟨read.version, ?_, flashes_lr1121 horderly.consistent hflashes hmet hsane⟩,
      fun _ => hflashes.proceeds⟩
    rw [← (sanity_ok hsane).1]
    exact hidentity
  | loaderWrite =>
    obtain ⟨⟨loader, hupgrades⟩, read, hidentity, hsane⟩ := hgrounds
    obtain ⟨hknown, hversion, -, -⟩ := upgrade_available hupgrades.available
    obtain ⟨htype, hsame, -⟩ := sanity_ok hsane
    refine ⟨⟨read.version, ?_, ?_⟩, fun hstage => ?_⟩
    · rw [← htype]
      exact hidentity
    · rw [hsame hknown, hversion]
      decide
    · rw [hr] at hstage
      cases hstage
  | transceiverWrite =>
    obtain ⟨-, hidentity⟩ := hgrounds
    refine ⟨⟨lr1121Bootloader2101, hidentity, by decide⟩, fun hstage => ?_⟩
    rw [hr] at hstage
    cases hstage

/-- The bootloader reports the version zero at boot, and again after the confirmation. -/
theorem zero_version_is_erased :
    let build : FirmwareBuild := ⟨0x0104, [0xAABBCCDD], none⟩
    let script := ([], [0, 0x22, 0xDF, 0, 0, 0, 0x22, 0x03, 1, 3, 0, 0x22, 0xDF, 0, 0])
    ¬ ∀ attempt ∈
        (controller scriptedBoard build).outputs (boot scriptedBoard build script) [.press, .press],
      recorder.Along (IdentifiedChip attempt.hub) {} attempt.events := by
  decide +kernel

theorem identified_chip_is_erased :
    let build : FirmwareBuild := ⟨0x0103, [0xAABBCCDD], none⟩
    let script := ([], [0, 0x22, 0xDF, 0x21, 0, 0, 0x22, 0x03, 1, 2, 0, 0x22, 0xDF, 0x21, 0])
    let attempts :=
      (controller scriptedBoard build).outputs (boot scriptedBoard build script) [.press]
    attempts.map (fun attempt => attempt.events.contains (.command updaterCmdEraseFlash [])) =
        [true] ∧
      ∀ attempt ∈ attempts, recorder.Along (IdentifiedChip attempt.hub) {} attempt.events :=
  ⟨by decide +kernel, only_identified_chip_is_erased scriptedBoard _ _ [.press]
    ⟨fun _ h => absurd h.armed (by decide +kernel), trivial⟩⟩

def isUpdateBootloader : ChipEvent → Bool
  | .command opcode _ => opcode = updaterCmdUpdateBootloader
  | _ => false

/-- What the attempt has established when it asks for the rewrite. -/
structure RewriteEvidence (build : FirmwareBuild) (hub : FirmwareHub) (r : AttemptRecord) :
    Prop where
  known : hub.bootloaderVersionKnown = true
  identity : r.identity = some ⟨updaterBootloaderType, hub.bootloaderVersion⟩
  version : hub.bootloaderVersion = lr1121Bootloader2100
  target : lr1121RequiredBootloaderFor build.targetVersion = lr1121Bootloader2101
  allowed : hub.bootloaderRewriteAllowed = true
  loader : ∃ loader, build.bootloader = some loader ∧ loader.fw = hub.bootloaderVersion ∧
    r.stage = some .loaderWrite ∧ r.flashed = some (loader.image.flatMap wordBytes)
  rebooted : r.rebooted = true
  running : r.running = some ⟨updaterLoaderDeviceType, lr1121Loader2100⟩

private theorem evidence_of_checkpoints {build : FirmwareBuild} {hub : FirmwareHub}
    {r : AttemptRecord} (h : Checkpoints build hub r) : RewriteEvidence build hub r := by
  obtain ⟨loader, hupgrades, hflashed⟩ := h.loader
  obtain ⟨read, hidentity, hsane⟩ := h.identity
  obtain ⟨hknown, hversion, hloader, hrequired⟩ := upgrade_available hupgrades.available
  obtain ⟨htype, hsame, -⟩ := sanity_ok hsane
  refine ⟨hknown, ?_, hversion, hrequired, hupgrades.allowed, ?_, h.rebooted, h.running⟩
  · rw [hidentity, ← htype, ← hsame hknown]
  · exact ⟨loader, hupgrades.configured, hloader.trans hversion.symm, h.stage, hflashed⟩

private theorem run_updates (es : List ChipEvent) (r : AttemptRecord) :
    (recorder.run r es).updates = r.updates + es.countP isUpdateBootloader := by
  induction es generalizing r with
  | nil => rfl
  | cons e es ih =>
    have hstep : (r.note e).updates = r.updates + if isUpdateBootloader e then 1 else 0 := by
      cases e with
      | entryReset => rfl
      | command opcode params =>
        by_cases hupdate : opcode = updaterCmdUpdateBootloader
        · subst hupdate
          rfl
        · simp only [isUpdateBootloader, decide_eq_false hupdate, Bool.false_eq_true, if_false]
          exact r.noteCommand_updates hupdate params
      | response bytes => exact r.note_response_updates bytes
      | status bytes => rfl
      | erasing stage => rfl
      | safeReboot => rfl
    have hrun := ih (r.note e)
    rw [Machine.run_cons, List.countP_cons]
    refine hrun.trans ?_
    rw [hstep]
    omega

private theorem noteCommand_flags (r : AttemptRecord) (opcode : UInt16) (params : List UInt8) :
    (r.noteCommand opcode params).entered = r.entered ∧
      (r.noteCommand opcode params).restarted = r.restarted := by
  simp only [AttemptRecord.noteCommand]
  split_ifs <;> exact ⟨rfl, rfl⟩

private theorem note_response_flags (r : AttemptRecord) (bytes : List UInt8) :
    (r.note (.response bytes)).entered = r.entered ∧
      (r.note (.response bytes)).restarted = r.restarted := by
  simp only [AttemptRecord.note, AttemptRecord.noteVersion]
  split_ifs <;> exact ⟨rfl, rfl⟩

private theorem run_entered (es : List ChipEvent) (r : AttemptRecord)
    (h : r.entered = true ∨ .entryReset ∈ es) : (recorder.run r es).entered = true := by
  induction es generalizing r with
  | nil =>
    rcases h with h | h
    · exact h
    · cases h
  | cons e es ih =>
    apply ih (r.note e)
    rcases h with h | h
    · left
      cases e with
      | entryReset => rfl
      | command opcode params => exact (noteCommand_flags r opcode params).1.trans h
      | response bytes => exact (note_response_flags r bytes).1.trans h
      | status bytes => exact h
      | erasing stage => exact h
      | safeReboot => exact h
    · rcases List.mem_cons.mp h with rfl | h
      · exact .inl rfl
      · exact .inr h

private theorem run_restarted (es : List ChipEvent) (r : AttemptRecord)
    (h : (recorder.run r es).restarted = true) : r.restarted = true ∨ .safeReboot ∈ es := by
  induction es generalizing r with
  | nil => exact .inl h
  | cons e es ih =>
    rcases ih (r.note e) h with h | h
    · cases e with
      | entryReset => exact .inl h
      | command opcode params => exact .inl ((noteCommand_flags r opcode params).2.symm.trans h)
      | response bytes => exact .inl ((note_response_flags r bytes).2.symm.trans h)
      | status bytes => exact .inl h
      | erasing stage => exact .inl h
      | safeReboot => exact .inr List.mem_cons_self
    · exact .inr (List.mem_cons_of_mem e h)

/-- In every run, each press asks for the rewrite of the bootloader at most once, and only behind
all checkpoints of its own attempt; and a press that takes the chip into its bootloader restarts
the controller. -/
theorem bootloader_is_rewritten_behind_checkpoints {σ : Type} (board : Board σ)
    (build : FirmwareBuild) (env : σ) (events : List FirmwareEvent) :
    ∀ attempt ∈ (controller board build).outputs (boot board build env) events,
      recorder.Along (fun r e => ∀ params, e = .command updaterCmdUpdateBootloader params →
        RewriteEvidence build attempt.hub r) {} attempt.events ∧
      attempt.events.countP isUpdateBootloader ≤ 1 ∧
      (.entryReset ∈ attempt.events → .safeReboot ∈ attempt.events) := by
  intro attempt hattempt
  have halong : (controller board build).Along (fun _ e => e = .press → True)
      (boot board build env) events := Machine.along_of_forall _ (fun _ _ _ => trivial) events
  obtain ⟨horderly, -⟩ := attempts_orderly (fun _ => True) halong attempt hattempt
  have hupdates := run_updates attempt.events {}
  refine ⟨?_, ?_, fun hentered => ?_⟩
  · apply horderly.inOrder.weaken
    intro r e hinOrder params he
    exact evidence_of_checkpoints (hinOrder.update params he)
  · rcases horderly.ended with hnothing | ⟨-, hone⟩
    · rw [hnothing] at hupdates
      change 0 = 0 + _ at hupdates
      omega
    · change _ = 0 + _ at hupdates
      omega
  · have hrun := run_entered attempt.events {} (.inr hentered)
    rcases horderly.ended with hnothing | ⟨hrestarted, -⟩
    · rw [hnothing] at hrun
      cases hrun
    · rcases run_restarted attempt.events {} hrestarted with hfalse | hmem
      · cases hfalse
      · exact hmem

/-- An allowed press rewrites the bootloader, flashes firmware 1.4 and restarts the controller. -/
theorem allowed_press_rewrites_bootloader :
    let build : FirmwareBuild := ⟨0x0104, [0xAABBCCDD], some ⟨0x2100, [1, 2]⟩⟩
    let script := ([], [0, 0x22, 0xDF, 0x21, 0, 0, 0x22, 0x03, 1, 3, 0, 0x22, 0xDF, 0x21, 0,
      0, 0x22, 0xDE, 0x21, 0, 0, 0, 0, 0, 0, 0, 0, 0x3F, 0, 0, 0, 0, 0x22, 0xDF, 0x21, 1,
      0, 0x22, 0xDF, 0x21, 1])
    ∃ attempt ∈ (controller scriptedBoard build).outputs (boot scriptedBoard build script)
        [.setBootloaderRewriteAllowed true, .press],
      .erasing .transceiverWrite ∈ attempt.events ∧
      attempt.events.countP isUpdateBootloader = 1 ∧ .safeReboot ∈ attempt.events := by
  intro build script
  let attempts := (controller scriptedBoard build).outputs (boot scriptedBoard build script)
    [.setBootloaderRewriteAllowed true, .press]
  let attempt := attempts.head (by decide)
  have hmem : attempt ∈ attempts := List.head_mem _
  have hrewritten : attempt.events.countP isUpdateBootloader = 1 := by decide +kernel
  refine ⟨attempt, hmem, by decide +kernel, hrewritten, ?_⟩
  exact (bootloader_is_rewritten_behind_checkpoints scriptedBoard build script
    [.setBootloaderRewriteAllowed true, .press] attempt hmem).2.2 (by decide +kernel)

end HomeIoControl.FirmwareUpdateRuns
