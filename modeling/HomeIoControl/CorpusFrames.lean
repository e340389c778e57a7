import HomeIoControl.DeviceRegistries
import HomeIoControl.ProtocolCrypto

/-!
# Frames of the golden-frame corpus

The corpus tools' own port of the protocol: recorded frames with their directions, the searches
that group them into exchanges, and the key transfer. The block cipher comes from a library and
is a parameter. A function that raises a `ValueError` returns `none`.
-/

namespace HomeIoControl.CorpusFrames

open ProtocolFrames ProtocolCrypto DeviceRegistries

/-- `aes128_ecb_encrypt_block` of a block under a key. -/
abbrev BlockCipher := Block → Block → Block

/-- `RawFrame`: a recorded frame, with the direction it was recorded in. -/
structure RawFrame where
  direction : String
  raw : List UInt8
  deriving DecidableEq

/-- The characters that `str.split` takes for white space. -/
def isSpace (ch : Char) : Bool :=
  let n := ch.toNat
  (9 ≤ n ∧ n ≤ 13) ∨ (28 ≤ n ∧ n ≤ 32) ∨ (0x2000 ≤ n ∧ n ≤ 0x200A) ∨
    n ∈ [0x85, 0xA0, 0x1680, 0x2028, 0x2029, 0x202F, 0x205F, 0x3000]

/-- `parse_hex`, which takes white space anywhere. -/
def parseHex (hexStr : String) : Option (List UInt8) :=
  hexPairs (hexStr.toList.filter fun ch => !isSpace ch)

/-- White space between the bytes does not matter. -/
theorem filter_intercalate (raw : List UInt8) :
    (List.intercalate [' '] (raw.map hexByte)).filter (fun ch => !isSpace ch) =
      raw.flatMap hexByte := by
  have hdigit : ∀ n < 16, isSpace (hexDigit n) = false := by decide
  have hbyte : ∀ b : UInt8, (hexByte b).filter (fun ch => !isSpace ch) = hexByte b := by
    intro b
    have hlt := b.toNat_lt
    rw [List.filter_eq_self, hexByte]
    simp [hdigit (b.toNat / 16) (by omega), hdigit (b.toNat % 16) (by omega)]
  induction raw with
  | nil => rfl
  | cons b raw ih =>
    cases raw with
    | nil => simp [List.intercalate, hbyte]
    | cons c raw =>
      rw [List.map_cons, List.map_cons, List.intercalate_cons_cons, List.filter_append,
        List.filter_append, ← List.map_cons, ih, hbyte, List.flatMap_cons]
      rfl

namespace RawFrame

/-- `crc_present`: exactly two bytes more than declared. -/
def crcPresent (f : RawFrame) : Bool :=
  match f.raw with
  | [] => false
  | ctrl0 :: _ => f.raw.length = declaredLength ctrl0 + 2

/-- `non_crc_bytes`. -/
def nonCrcBytes (f : RawFrame) : List UInt8 :=
  if f.crcPresent then f.raw.take (f.raw.length - 2) else f.raw

/-- `_frame_cmd`. -/
def cmd (f : RawFrame) : Option UInt8 := f.raw[8]?

def payload (f : RawFrame) : List UInt8 := f.nonCrcBytes.drop frameMinSize

/-- A frame of one command in one direction. -/
def Is (direction : String) (cmd : UInt8) (f : RawFrame) : Prop :=
  f.direction = direction ∧ f.cmd = some cmd

instance (direction : String) (cmd : UInt8) (f : RawFrame) : Decidable (f.Is direction cmd) :=
  inferInstanceAs (Decidable (_ ∧ _))

end RawFrame

/-- Bytes of an expected number. -/
def exactly (n : ℕ) (bytes : List UInt8) : Option (Vector UInt8 n) :=
  if h : bytes.length = n then some ⟨bytes.toArray, by simpa using h⟩ else none

@[simp] theorem exactly_toList {n : ℕ} (v : Vector UInt8 n) : exactly n v.toList = some v := by
  have harray : v.toList.toArray = v.toArray := Array.toArray_toList
  simp [exactly, harray]

section

variable (aes : BlockCipher)

/-- `crypt_key` under the shared transfer key. -/
def cryptKey (data challenge inKey : List UInt8) : Option Block := do
  let inKey ← exactly 16 inKey
  let challenge ← exactly 6 challenge
  some (xorBlocks inKey (aes (constructIv data challenge) transferKey))

/-- `crypt_1w_key`. -/
def crypt1wKey (node : NodeId) (inKey : List UInt8) : Option Block := do
  let inKey ← exactly 16 inKey
  some (xorBlocks inKey (aes (constructIv1wNode node) transferKey))

/-- `create_hmac`. -/
def createHmac (data challenge : List UInt8) (key : Block) : Option (List UInt8) := do
  let challenge ← exactly 6 challenge
  some ((aes (constructIv data challenge) key).toList.take hmacSize)

/-- `create_1w_hmac`. -/
def create1wHmac (data : List UInt8) (sequence : UInt16) (controllerKey : Block) : List UInt8 :=
  (aes (constructIv1wSequence data sequence) controllerKey).toList.take hmacSize

end

/-- `CORPUS_SYSTEM_KEY`. -/
def corpusSystemKey : Block :=
  #v[0xDE, 0xCA, 0xFC, 0x0F, 0xFE, 0xE0, 0xFF, 0x1C, 0xEB, 0xAD, 0xBE, 0xEF, 0xF0, 0x0D, 0xBA, 0x11]

/-- The loop of `find_key_transfer_triples`: a received challenge, then a sent key init. A search
goes backwards from a frame: it is given the earlier frames, the nearest first. -/
def searchKeyInit : Option RawFrame → List RawFrame → Option (RawFrame × RawFrame)
  | _, [] => none
  | challenge, candidate :: earlier =>
    match candidate.cmd with
    | none => searchKeyInit challenge earlier
    | some cmd =>
      match challenge with
      | none =>
        if candidate.direction = "rx" ∧ cmd = cmdChallengeReq then
          searchKeyInit (some candidate) earlier
        else searchKeyInit none earlier
      | some challenge =>
        if candidate.direction = "tx" ∧ cmd = cmdKeyInit then some (candidate, challenge)
        else searchKeyInit (some challenge) earlier

/-- What a search from every frame finds, in order. -/
def searchEach {α : Type} (search : List RawFrame → RawFrame → Option α) :
    List RawFrame → List RawFrame → List α
  | _, [] => []
  | earlier, frame :: later =>
    (search earlier frame).toList ++ searchEach search (frame :: earlier) later

/-- The key init, the challenge and the key transfer of one exchange. -/
structure KeyTransferTriple where
  keyInit : RawFrame
  challenge : RawFrame
  transfer : RawFrame

def keyTransferTriple (earlier : List RawFrame) (frame : RawFrame) : Option KeyTransferTriple :=
  if frame.direction ≠ "tx" ∨ frame.cmd ≠ some cmdKeyTransfer then none
  else (searchKeyInit none earlier).map fun found => ⟨found.1, found.2, frame⟩

/-- `find_key_transfer_triples`. -/
def findKeyTransferTriples (frames : List RawFrame) : List KeyTransferTriple :=
  searchEach keyTransferTriple [] frames

/-- The loop of `find_challenge_response_triples`: a challenge, then the responder's own frame. -/
def searchOrigin (responderDir challengerDir : String) :
    Option RawFrame → List RawFrame → Option (RawFrame × RawFrame)
  | _, [] => none
  | challenge, candidate :: earlier =>
    match candidate.cmd with
    | none => searchOrigin responderDir challengerDir challenge earlier
    | some cmd =>
      match challenge with
      | none =>
        if candidate.direction = challengerDir ∧ cmd = cmdChallengeReq then
          searchOrigin responderDir challengerDir (some candidate) earlier
        else searchOrigin responderDir challengerDir none earlier
      | some challenge =>
        if candidate.direction = responderDir then some (candidate, challenge)
        else searchOrigin responderDir challengerDir (some challenge) earlier

structure ChallengeResponseTriple where
  origin : RawFrame
  challenge : RawFrame
  response : RawFrame

def opposite (direction : String) : String := if direction = "tx" then "rx" else "tx"

def challengeResponseTriple (earlier : List RawFrame) (frame : RawFrame) :
    Option ChallengeResponseTriple :=
  if frame.cmd ≠ some cmdChallengeResp then none
  else (searchOrigin frame.direction (opposite frame.direction) none earlier).map fun found =>
    ⟨found.1, found.2, frame⟩

/-- `find_challenge_response_triples`. -/
def findChallengeResponseTriples (frames : List RawFrame) : List ChallengeResponseTriple :=
  searchEach challengeResponseTriple [] frames

/-- `find_self_authenticated_frames`. -/
def findSelfAuthenticatedFrames (frames : List RawFrame) : List RawFrame :=
  frames.filter fun f => f.cmd = some cmdDiscoverSpeReq ∧ f.payload.length = 2 * hmacSize

/-- `find_oneway_add_controller_frames`. -/
def findOnewayAddControllerFrames (frames : List RawFrame) : List RawFrame :=
  frames.filter fun f => f.cmd = some cmdOnewayAddController

def cmdOnewayRemove : UInt8 := 0x39

/-- `find_oneway_remove_controller_frames`. -/
def findOnewayRemoveControllerFrames (frames : List RawFrame) : List RawFrame :=
  frames.filter fun f => f.cmd = some cmdOnewayRemove

def onewayAddControllerDeclaredPayloadSize : ℕ := aesKeySize + 4
def onewayRemoveDeclaredPayloadSize : ℕ := 9

def word (high low : UInt8) : UInt16 := high.toUInt16 <<< 8 ||| low.toUInt16

structure OneWayAddControllerParts where
  src : NodeId
  encKey : List UInt8
  sequence : UInt16
  trailer : List UInt8

/-- `oneway_add_controller_parts`. -/
def onewayAddControllerParts (f : RawFrame) : Option OneWayAddControllerParts :=
  if f.payload.length < onewayAddControllerDeclaredPayloadSize then none
  else some
    { src := ⟨f.nonCrcBytes.getD 5 0, f.nonCrcBytes.getD 6 0, f.nonCrcBytes.getD 7 0⟩
      encKey := f.payload.take aesKeySize
      sequence := word (f.payload.getD 18 0) (f.payload.getD 19 0)
      trailer := f.payload.drop onewayAddControllerDeclaredPayloadSize }

structure OneWayRemoveControllerParts where
  span : List UInt8
  sequence : UInt16
  mac : List UInt8

/-- `oneway_remove_controller_parts`. -/
def onewayRemoveControllerParts (f : RawFrame) : Option OneWayRemoveControllerParts :=
  if f.payload.length ≠ onewayRemoveDeclaredPayloadSize then none
  else some
    { span := cmdOnewayRemove :: f.payload.take 1
      sequence := word (f.payload.getD 1 0) (f.payload.getD 2 0)
      mac := (f.payload.drop 3).take hmacSize }

end HomeIoControl.CorpusFrames
