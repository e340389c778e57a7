import HomeIoControl.DeviceRegistries
import HomeIoControl.OneWayFrames
import HomeIoControl.OneWaySequences
import HomeIoControl.TracedPrograms

/-!
# The one-way transmitter

Commands of a controller identity go out as bursts of one frame. A logical command reserves one
sequence of the store, builds its frame, sends the burst and reports what it did; an enrollment is
a gesture of several logical commands. The flash, the crypto helper and the radio answer as they
like.
-/

namespace HomeIoControl.OneWayTransmitters

open TracedPrograms ProtocolFrames ProtocolCrypto ProtocolCodecs DeviceModels DeviceRegistries
  DeviceRequests PendingOperations OneWayFrames OneWaySequences

def onewayBurstRepeats : ℕ := 4
def longPreamble : UInt16 := 1024
def onewayPositionFullyClosed : UInt8 := 100
def manufacturerVelux : UInt8 := 1
def manufacturerSomfy : UInt8 := 2

/-- The device classes of an enrollment sweep, `UNKNOWN` where there is none. -/
abbrev EnrollmentClasses := Vector DeviceType 3

structure OneWayControllerIdentity where
  id : String
  nodeId : NodeId
  systemKey : Block
  manufacturer : UInt8 := 0
  ioDeviceType : DeviceType := .unknown
  initialSequence : UInt16 := 0
  enrollmentWithMac : Bool := false
  executeAcei : UInt8 := 0
  executeBroadcastAll : Bool := false
  enrollmentClasses : EnrollmentClasses := #v[.unknown, .unknown, .unknown]

inductive EnrollGesture where
  | somfy
  | veluxKli
  deriving DecidableEq, Repr

structure OneWayWireProfile where
  executeAcei : UInt8
  profileIsAGuess : Bool
  enrollGesture : EnrollGesture
  enrollmentClasses : EnrollmentClasses

def veluxKliEnrollmentClasses : EnrollmentClasses := #v[.rollerShutter, .awning, .dualShutter]

def resolveOnewayWireProfile (manufacturer : UInt8) : OneWayWireProfile :=
  let none : EnrollmentClasses := #v[.unknown, .unknown, .unknown]
  if manufacturer = manufacturerVelux then
    ⟨onewayExecuteAceiVelux, false, .veluxKli, veluxKliEnrollmentClasses⟩
  else if manufacturer = manufacturerSomfy ∨ manufacturer = 0x00 then
    ⟨onewayExecuteAcei, false, .somfy, none⟩
  else ⟨onewayExecuteAcei, true, .somfy, none⟩

def effectiveEnrollmentClasses (identity : OneWayControllerIdentity) : EnrollmentClasses :=
  if identity.enrollmentClasses.any (· ≠ .unknown) then identity.enrollmentClasses
  else (resolveOnewayWireProfile identity.manufacturer).enrollmentClasses

def effectiveExecuteAcei (identity : OneWayControllerIdentity) : UInt8 :=
  if identity.executeAcei ≠ 0 then identity.executeAcei
  else (resolveOnewayWireProfile identity.manufacturer).executeAcei

/-- `OneWayControllerRegistry::get`: the first identity of the handle. -/
def getIdentity (identities : List OneWayControllerIdentity) (id : String) :
    Option OneWayControllerIdentity :=
  identities.find? fun identity => identity.id = id

structure OneWayCommandReport where
  controllerId : String
  intent : String
  targetType : DeviceType
  sequence : UInt16
  sequenceReserved : Bool
  transmitted : Bool

/-- `decode_1w_main_intent`. -/
def decode1wMainIntent (main0 main1 : UInt8) : String :=
  if main0 = posStop then "STOP"
  else if main0 = posFavorite then if main1 = posVentModifier then "VENT" else "FAVORITE"
  else if main0 = posUnknown then "UNCHANGED"
  else if main0 = posForceOpen then "FORCE_OPEN"
  else if main0 = posSecuredTarget then "SECURED_TARGET"
  else if main0 = posDefault then "DEFAULT"
  else if main0 ≤ positionWireMax then
    let percent := main0 / positionWireScale
    if percent = 0 then "OPEN"
    else if percent = 100 then "CLOSE"
    else "position " ++ toString percent.toNat ++ "%"
  else "0x" ++ String.ofList (hexByte main0)

/-- The label of a report: the caller's, or else what the frame says. -/
def reportIntent (explicitIntent : String) (frame : IoFrame) : String :=
  let info := decode1wFrame frame
  if explicitIntent = "" ∧ info.hasIntent = true then decode1wMainIntent info.main0 info.main1
  else explicitIntent

/-- What the transmitter leaves to be seen. -/
inductive Event where
  | reserved (nodeId : NodeId) (sequence : UInt16)
  | copy (frame : IoFrame) (transmitted : Bool)
  | report (report : OneWayCommandReport)

/-- The answers to a save with its sync, to a signature and to a transmission, given by a state
that may change as it likes. -/
structure Surroundings (ρ : Type) where
  persists : ρ → (Bool × Bool) × ρ
  signs : ρ → Bool × ρ
  transmits : IoFrame → UInt32 → UInt16 → ρ → Bool × ρ

/-- The sequence store with its preferences, and whatever answers the transmitter. -/
structure Station (ρ : Type) where
  store : OneWaySequenceStore
  preferences : Preferences
  rest : ρ

/-- The call of `next` on the store, under the answers of the flash. -/
def nextSequence {ρ : Type} (around : Surroundings ρ) (nodeId : NodeId) (s : Station ρ) :
    Option UInt16 × Station ρ :=
  let answer := around.persists s.rest
  match s.store.next s.preferences (replyOf answer.1.1) (replyOf answer.1.2) nodeId with
  | (store, preferences, .returned out) => (out, ⟨store, preferences, answer.2⟩)
  | (store, preferences, .powerLost) => (none, ⟨store, preferences, answer.2⟩)

variable {ρ : Type} (around : Surroundings ρ) (identities : List OneWayControllerIdentity)

abbrev Transmission (ρ α : Type) := Prog (Station ρ) Event α

/-- What the store hands out is seen. -/
def noteReservation (nodeId : NodeId) : Option UInt16 → Transmission ρ (Option UInt16)
  | none => pure none
  | some sequence => do
    tell (.reserved nodeId sequence)
    pure (some sequence)

/-- Reserve a sequence for one logical command. -/
def reserve (nodeId : NodeId) : Transmission ρ (Option UInt16) := do
  let out ← ask (nextSequence around nodeId)
  noteReservation nodeId out

/-- A builder signs, which may fail. -/
def sign : Transmission ρ Bool :=
  ask fun s => ((around.signs s.rest).1, { s with rest := (around.signs s.rest).2 })

/-- `transmit_` of one copy. -/
def transmit (frame : IoFrame) : Transmission ρ Bool := do
  let transmitted ← ask fun s =>
    let answer := around.transmits frame freqCh2 longPreamble s.rest
    (answer.1, { s with rest := answer.2 })
  tell (.copy frame transmitted)
  pure transmitted

/-- The copies of a burst, and how many of them were sent. -/
def sendCopies (frame : IoFrame) : ℕ → Transmission ρ ℕ
  | 0 => pure 0
  | n + 1 => do
    let transmitted ← transmit around frame
    let sent ← sendCopies frame n
    pure (sent + transmitted.toNat)

def sendBurst (frame : IoFrame) : Transmission ρ Bool := do
  let sent ← sendCopies around frame onewayBurstRepeats
  pure (decide (0 < sent))

def reportFailure (controllerId : String) (sequence : UInt16) (sequenceReserved : Bool) :
    Transmission ρ PUnit :=
  tell (.report ⟨controllerId, "", .unknown, sequence, sequenceReserved, false⟩)

/-- The rest of `send_`, once the sequence is reserved. -/
def sendUnder (controllerId : String) (identity : OneWayControllerIdentity)
    (build : OneWayControllerIdentity → UInt16 → Option IoFrame) (explicitIntent : String)
    (sequence : UInt16) : Transmission ρ Bool := do
  let signed ← sign around
  match if signed then build identity sequence else none with
  | none => do
    reportFailure controllerId sequence true
    pure false
  | some frame => do
    let transmitted ← sendBurst around frame
    tell (.report ⟨controllerId, reportIntent explicitIntent frame, identity.ioDeviceType,
      sequence, true, transmitted⟩)
    pure transmitted

/-- `send_`: one logical command, whose frame a builder makes of the identity and the sequence. -/
def send (controllerId : String) (build : OneWayControllerIdentity → UInt16 → Option IoFrame)
    (explicitIntent : String) : Transmission ρ Bool :=
  match getIdentity identities controllerId with
  | none => do
    reportFailure controllerId 0 false
    pure false
  | some identity => do
    let reserved ← reserve around identity.nodeId
    match reserved with
    | none => do
      reportFailure controllerId 0 false
      pure false
    | some sequence => sendUnder around controllerId identity build explicitIntent sequence

def sendCommand (controllerId : String) (cmd : CoverCommand) : Transmission ρ Bool :=
  send around identities controllerId (fun identity sequence =>
    create1wExecuteCommand identity.nodeId identity.ioDeviceType cmd sequence identity.systemKey
      (effectiveExecuteAcei identity) identity.executeBroadcastAll) ""

def sendPosition (controllerId : String) (position : UInt8) : Transmission ρ Bool :=
  send around identities controllerId (fun identity sequence =>
    create1wExecutePosition identity.nodeId identity.ioDeviceType position sequence
      identity.systemKey (effectiveExecuteAcei identity) identity.executeBroadcastAll) ""

def sendUnenrollment (controllerId : String) : Transmission ρ Bool :=
  send around identities controllerId (fun identity sequence =>
    create1wRemoveController identity.nodeId identity.ioDeviceType sequence identity.systemKey)
    "UNENROLL"

/-- `send_somfy_enrollment_`: clear the own entry, then add it. -/
def sendSomfyEnrollment (identity : OneWayControllerIdentity) : Transmission ρ Bool := do
  let _ ← sendUnenrollment around identities identity.id
  send around identities identity.id (fun identity sequence =>
    create1wAddController identity.nodeId identity.ioDeviceType identity.manufacturer sequence
      identity.systemKey identity.enrollmentWithMac) "ENROLL"

/-- The bursts of a sweep under one sequence, and whether any copy was sent. -/
def sweepClasses (identity : OneWayControllerIdentity) (sequence : UInt16) :
    List DeviceType → Transmission ρ Bool
  | [] => pure false
  | targetType :: classes =>
    if targetType = .unknown then sweepClasses identity sequence classes
    else do
      let signed ← sign around
      match if signed then create1wAddController identity.nodeId targetType identity.manufacturer
          sequence identity.systemKey identity.enrollmentWithMac else none with
      | none => sweepClasses identity sequence classes
      | some frame => do
        let transmitted ← sendBurst around frame
        let others ← sweepClasses identity sequence classes
        pure (transmitted || others)

/-- `send_enroll_sweep_`: one logical command for all classes. -/
def sendEnrollSweep (identity : OneWayControllerIdentity) (classes : EnrollmentClasses) :
    Transmission ρ Bool := do
  let reserved ← reserve around identity.nodeId
  match reserved with
  | none => do
    reportFailure identity.id 0 false
    pure false
  | some sequence => do
    let transmitted ← sweepClasses around identity sequence classes.toList
    tell (.report ⟨identity.id, "ENROLL", identity.ioDeviceType, sequence, true, transmitted⟩)
    pure transmitted

/-- `send_velux_kli_enrollment_`: clear, sweep, and only if the sweep went out, stop and lower. -/
def sendVeluxKliEnrollment (identity : OneWayControllerIdentity) : Transmission ρ Bool := do
  let _ ← send around identities identity.id (fun identity sequence =>
    create1wRemoveController identity.nodeId .unknown sequence identity.systemKey) "UNENROLL"
  let enrolled ← sendEnrollSweep around identity (effectiveEnrollmentClasses identity)
  if enrolled = false then pure false
  else do
    let acei := effectiveExecuteAcei identity
    let _ ← send around identities identity.id (fun identity sequence =>
      create1wExecuteCommand identity.nodeId identity.ioDeviceType .stop sequence
        identity.systemKey acei true) "ENROLL STOP"
    let _ ← send around identities identity.id (fun identity sequence =>
      create1wExecutePosition identity.nodeId identity.ioDeviceType onewayPositionFullyClosed
        sequence identity.systemKey acei true) "ENROLL DOWN"
    pure true

def sendEnrollment (controllerId : String) : Transmission ρ Bool :=
  match getIdentity identities controllerId with
  | none => do
    reportFailure controllerId 0 false
    pure false
  | some identity =>
    if (resolveOnewayWireProfile identity.manufacturer).enrollGesture = .veluxKli then
      sendVeluxKliEnrollment around identities identity
    else sendSomfyEnrollment around identities identity

/-- The public calls. -/
inductive Call where
  | command (controllerId : String) (cmd : CoverCommand)
  | position (controllerId : String) (position : UInt8)
  | enrollment (controllerId : String)
  | unenrollment (controllerId : String)

def call : Call → Transmission ρ Bool
  | .command controllerId cmd => sendCommand around identities controllerId cmd
  | .position controllerId position => sendPosition around identities controllerId position
  | .enrollment controllerId => sendEnrollment around identities controllerId
  | .unenrollment controllerId => sendUnenrollment around identities controllerId

/-- A run of the transmitter. -/
def calls : List Call → Transmission ρ PUnit
  | [] => pure ⟨⟩
  | c :: cs => do
    let _ ← call around identities c
    calls cs

/-- `setup`: every identity's counter is opened. -/
def setup (preferences : Preferences) (rest : ρ) : World (Station ρ) Event :=
  ⟨⟨identities.foldl (fun store identity =>
    store.addIdentity preferences identity.nodeId identity.initialSequence) [], preferences, rest⟩, []⟩

/-- What a run leaves to be seen, from setup on. -/
def transcript (preferences : Preferences) (rest : ρ) (cs : List Call) : List Event :=
  (calls around identities cs (setup identities preferences rest)).2.log

end HomeIoControl.OneWayTransmitters
