import HomeIoControl.CorpusFrames
import HomeIoControl.TextPieces

/-!
# The corpus gate

What a capture has to pass before it is committed. The gate is to let no system key through but
the public one of the corpus; it looks for key transfers in the one shape a controller records.
-/

namespace HomeIoControl.CorpusGate

open ProtocolFrames ProtocolCrypto TextPieces CorpusFrames

structure CapturedFrame where
  dir : String
  hex : String
  crc : String

structure ExpectFrame where
  keys : List String
  classification : Option String

/-- The expectations of a capture: the keys of each mapping, and what is checked under them. -/
structure Expect where
  keys : List String
  frames : Option (List ExpectFrame)
  exchange : Option (List String)
  device : Option (List String)
  oneway : Option (List String)

/-- A capture whose required fields are present. -/
structure Capture where
  id : String
  key : String
  origin : String
  capturedWith : String
  frames : List CapturedFrame
  expect : Option Expect

def allowedKeyModes : List String := ["corpus", "unknown"]
def allowedOrigins : List String :=
  ["own-hardware", "github-issue", "synthetic-bootstrap", "reference-material"]
def allowedCapturedWith : List String := ["sx1276", "sx1262", "lr1121", "other", "synthetic"]
def allowedDirs : List String := ["tx", "rx"]
def allowedCrc : List String := ["present", "absent"]
def allowedExpectKeys : List String := ["frames", "exchange", "device", "oneway"]
def allowedExpectFrameKeys : List String :=
  ["cmd", "start", "end", "protocol", "classification", "hmac_valid"]
def allowedExpectExchangeKeys : List String := ["kind", "outcome"]
def allowedExpectDeviceKeys : List String := ["reported_position", "reported_tilt", "name"]
def allowedExpectOnewayKeys : List String := ["intent", "target_type", "originator", "acei"]
def allowedClassifications : List String :=
  ["IGNORE_UNRELATED", "COMPLETE_DIRECT", "REQUIRE_AUTH", "ACCEPT", "NO_RESPONSE", "INVALID",
    "DISCOVERY_ACCEPT", "IGNORE"]
def knownPublicVectorIds : List String := ["reference_1w_enrollment_add_controller_kat"]

/-- What a capture fails on. -/
inductive Rejection where
  | id
  | keyMode
  | origin
  | capturedWith
  | noFrames
  | dir
  | crcMode
  | malformedHex
  | tooShort
  | tooLong
  | declaredLength
  | crcMismatch
  | unknownKeys
  | tooManyExpectations
  | classification
  | shortChallenge
  | shortKeyTransfer
  | foreignSystemKey
  | foreignControllerKey
  | shortResponse
  | foreignHmac
  | valueError
  deriving DecidableEq

/-- `require`. -/
def require (condition : Prop) [Decidable condition] (rejection : Rejection) :
    Except Rejection Unit :=
  if condition then .ok () else .error rejection

/-- The value of a function that raises no `ValueError`. -/
def valueOf {α : Type} (result : Option α) : Except Rejection α :=
  result.elim (.error .valueError) .ok

/-- A check of every element, in order. -/
def requireEach {α : Type} (check : α → Except Rejection Unit) : List α → Except Rejection Unit
  | [] => .ok ()
  | a :: as => do
    check a
    requireEach check as

theorem require_ok {condition : Prop} [Decidable condition] {rejection : Rejection}
    (h : require condition rejection = .ok ()) : condition := by
  unfold require at h
  split at h
  · next hc => exact hc
  · cases h

theorem valueOf_ok {α : Type} {result : Option α} {a : α} (h : valueOf result = .ok a) :
    result = some a := by
  cases result with
  | none => cases h
  | some b => exact congrArg some (Except.ok.inj h)

theorem requireEach_ok {α : Type} {check : α → Except Rejection Unit} {as : List α}
    (h : requireEach check as = .ok ()) : ∀ a ∈ as, check a = .ok () := by
  induction as with
  | nil =>
    intro a ha
    cases ha
  | cons b as ih =>
    obtain ⟨⟨⟩, hb, hrest⟩ := bind_ok h
    intro a ha
    rcases List.mem_cons.mp ha with rfl | ha
    · exact hb
    · exact ih hrest a ha

theorem bind_of_ok {α β : Type} {x : Except Rejection α} {g : α → Except Rejection β} {a : α}
    {b : β} (hx : x = .ok a) (hg : g a = .ok b) : x >>= g = .ok b := by
  rw [hx]
  exact hg

theorem require_of {condition : Prop} [Decidable condition] {rejection : Rejection}
    (h : condition) : require condition rejection = .ok () := if_pos h

theorem valueOf_of {α : Type} {result : Option α} {a : α} (h : result = some a) :
    valueOf result = .ok a := by
  rw [h]
  rfl

theorem requireEach_of {α : Type} {check : α → Except Rejection Unit} {as : List α}
    (h : ∀ a ∈ as, check a = .ok ()) : requireEach check as = .ok () := by
  induction as with
  | nil => rfl
  | cons a as ih =>
    obtain ⟨ha, has⟩ := List.forall_mem_cons.mp h
    exact bind_of_ok ha (ih has)

/-- `validate_frame`. -/
def validateFrame (frame : CapturedFrame) : Except Rejection Unit := do
  require (frame.dir ∈ allowedDirs) .dir
  require (frame.crc ∈ allowedCrc) .crcMode
  match parseHex frame.hex with
  | none => .error .malformedHex
  | some raw =>
    let nonCrcLen := if frame.crc = "present" then raw.length - 2 else raw.length
    require (frameMinSize ≤ nonCrcLen) .tooShort
    require (nonCrcLen ≤ frameMaxDeclaredSize + hmacSize) .tooLong
    let expectedDeclared := declaredLength (raw.getD 0 0)
    require (expectedDeclared = nonCrcLen ∨ nonCrcLen = expectedDeclared + hmacSize)
      .declaredLength
    if frame.crc = "present" then
      require (crcCcitt (raw.take nonCrcLen) =
        ((raw.getD nonCrcLen 0).toUInt16 ||| (raw.getD (nonCrcLen + 1) 0).toUInt16 <<< 8))
        .crcMismatch
    else .ok ()

/-- `require_known_keys`, of a mapping that may be missing. -/
def requireKnownKeys (allowed : List String) (keys : Option (List String)) :
    Except Rejection Unit :=
  require (∀ key ∈ keys.getD [], key ∈ allowed) .unknownKeys

/-- `validate_expect`. -/
def validateExpect (expect : Expect) (frameCount : ℕ) : Except Rejection Unit := do
  requireKnownKeys allowedExpectKeys (some expect.keys)
  require ((expect.frames.getD []).length ≤ frameCount) .tooManyExpectations
  requireEach (fun expectFrame => do
    requireKnownKeys allowedExpectFrameKeys (some expectFrame.keys)
    require (∀ name ∈ expectFrame.classification, name ∈ allowedClassifications)
      .classification) (expect.frames.getD [])
  requireKnownKeys allowedExpectExchangeKeys expect.exchange
  requireKnownKeys allowedExpectDeviceKeys expect.device
  requireKnownKeys allowedExpectOnewayKeys expect.oneway

/-- `_non_crc_raw_frame`. -/
def nonCrcRawFrame (frame : CapturedFrame) : RawFrame :=
  let raw := (parseHex frame.hex).getD []
  ⟨frame.dir, if frame.crc = "present" then raw.take (raw.length - 2) else raw⟩

section

variable (aes : BlockCipher)

/-- The check of one key transfer: it yields the corpus key. -/
def checkKeyTransfer (t : KeyTransferTriple) : Except Rejection Unit := do
  require (frameMinSize + hmacSize ≤ t.challenge.raw.length) .shortChallenge
  require (frameMinSize + aesKeySize ≤ t.transfer.raw.length) .shortKeyTransfer
  let decrypted ← valueOf (cryptKey aes ((t.keyInit.nonCrcBytes.drop 8).take 1)
    (t.challenge.payload.take hmacSize) (t.transfer.payload.take aesKeySize))
  require (decrypted = corpusSystemKey) .foreignSystemKey

def checkOnewayKey (captureId : String) (f : RawFrame) : Except Rejection Unit :=
  if captureId ∈ knownPublicVectorIds then .ok ()
  else do
    let parts ← valueOf (onewayAddControllerParts f)
    let unwrapped ← valueOf (crypt1wKey aes parts.src parts.encKey)
    require (unwrapped = corpusSystemKey) .foreignControllerKey

def checkChallengeResponse (t : ChallengeResponseTriple) : Except Rejection Unit := do
  require (frameMinSize + hmacSize ≤ t.challenge.raw.length) .shortChallenge
  require (frameMinSize + hmacSize ≤ t.response.raw.length) .shortResponse
  let hmac ← valueOf (createHmac aes
    ((t.origin.nonCrcBytes.drop 8).take 1 ++ t.origin.payload)
    (t.challenge.payload.take hmacSize) corpusSystemKey)
  require (hmac = t.response.payload.take hmacSize) .foreignHmac

def checkSelfAuthenticated (f : RawFrame) : Except Rejection Unit := do
  let hmac ← valueOf (createHmac aes ((f.nonCrcBytes.drop 8).take 1) (f.payload.take hmacSize)
    corpusSystemKey)
  require (hmac = (f.payload.drop hmacSize).take hmacSize) .foreignHmac

def checkAddControllerMac (f : RawFrame) : Except Rejection Unit := do
  let parts ← valueOf (onewayAddControllerParts f)
  if parts.trailer = [] then .ok ()
  else require (create1wHmac aes (cmdOnewayAddController :: parts.encKey) parts.sequence
    corpusSystemKey = parts.trailer) .foreignHmac

def checkRemoveControllerMac (f : RawFrame) : Except Rejection Unit := do
  let parts ← valueOf (onewayRemoveControllerParts f)
  require (create1wHmac aes parts.span parts.sequence corpusSystemKey = parts.mac) .foreignHmac

/-- The part of `validate_crypto` that only a capture under the corpus key is held to. -/
def validateCorpusKey (frames : List RawFrame) : Except Rejection Unit := do
  requireEach (checkChallengeResponse aes) (findChallengeResponseTriples frames)
  requireEach (checkSelfAuthenticated aes) (findSelfAuthenticatedFrames frames)
  requireEach (checkAddControllerMac aes) (findOnewayAddControllerFrames frames)
  requireEach (checkRemoveControllerMac aes) (findOnewayRemoveControllerFrames frames)

/-- `validate_crypto`. -/
def validateCrypto (data : Capture) : Except Rejection Unit := do
  let frames := data.frames.map nonCrcRawFrame
  requireEach (checkKeyTransfer aes) (findKeyTransferTriples frames)
  requireEach (checkOnewayKey aes data.id) (findOnewayAddControllerFrames frames)
  if data.key ≠ "corpus" then .ok () else validateCorpusKey aes frames

/-- `validate_capture`. -/
def validateCapture (data : Capture) : Except Rejection Unit := do
  require (data.id ≠ "") .id
  require (data.key ∈ allowedKeyModes) .keyMode
  require (data.origin ∈ allowedOrigins) .origin
  require (data.capturedWith ∈ allowedCapturedWith) .capturedWith
  require (data.frames ≠ []) .noFrames
  requireEach validateFrame data.frames
  data.expect.elim (.ok ()) fun expect => validateExpect expect data.frames.length
  validateCrypto aes data

end

end HomeIoControl.CorpusGate
