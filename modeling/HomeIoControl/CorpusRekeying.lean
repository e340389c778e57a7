import HomeIoControl.CorpusGate
import Mathlib.Data.List.Infix

/-!
# Re-keying a capture

The pipeline that turns a recording made under a real key into a capture under the corpus key.
Five rewriters run one after another, each over the frames as the last one left them and each
refusing a frame that does not verify under the real key; the addresses are replaced at the end.
A run that raises returns `none`.
-/

namespace HomeIoControl.CorpusRekeying

open ProtocolFrames ProtocolCrypto CorpusFrames

def crcBytes (data : List UInt8) : List UInt8 :=
  [(crcCcitt data).toUInt8, (crcCcitt data >>> 8).toUInt8]

/-- `_set_frame_raw`: new bytes, and their CRC where the frame had one. -/
def setFrameRaw (f : RawFrame) (newNonCrcBytes : List UInt8) : RawFrame :=
  ⟨f.direction, if f.crcPresent then newNonCrcBytes ++ crcBytes newNonCrcBytes
    else newNonCrcBytes⟩

/-- A frame with another payload behind its header. -/
def setPayload (f : RawFrame) (payload : List UInt8) : RawFrame :=
  setFrameRaw f (f.nonCrcBytes.take frameMinSize ++ payload)

/-- The bytes of a frame as a log shows them, `" ".join(f"{b:02X}" for b in raw)`. -/
def hexText (raw : List UInt8) : String :=
  String.ofList (List.intercalate [' '] (raw.map DeviceRegistries.hexByte))

/-- `render_frame_yaml`, the fields that the gate reads. -/
def renderFrameYaml (f : RawFrame) : CorpusGate.CapturedFrame where
  dir := f.direction
  hex := hexText f.raw
  crc := if f.crcPresent then "present" else "absent"

def frameAt (frames : List RawFrame) (i : ℕ) : RawFrame := frames.getD i ⟨"", []⟩

section

variable (view : ℕ → RawFrame)

/-- The loop of `find_challenge_response_triples`, over the positions before the response. -/
def searchOriginAt (responderDir challengerDir : String) : Option ℕ → List ℕ → Option (ℕ × ℕ)
  | _, [] => none
  | challenge, j :: earlier =>
    match (view j).cmd with
    | none => searchOriginAt responderDir challengerDir challenge earlier
    | some cmd =>
      match challenge with
      | none =>
        if (view j).direction = challengerDir ∧ cmd = cmdChallengeReq then
          searchOriginAt responderDir challengerDir (some j) earlier
        else searchOriginAt responderDir challengerDir none earlier
      | some challenge =>
        if (view j).direction = responderDir then some (j, challenge)
        else searchOriginAt responderDir challengerDir (some challenge) earlier

/-- The loop of `find_key_transfer_triples`. -/
def searchKeyInitAt : Option ℕ → List ℕ → Option (ℕ × ℕ)
  | _, [] => none
  | challenge, j :: earlier =>
    match (view j).cmd with
    | none => searchKeyInitAt challenge earlier
    | some cmd =>
      match challenge with
      | none =>
        if (view j).direction = "rx" ∧ cmd = cmdChallengeReq then
          searchKeyInitAt (some j) earlier
        else searchKeyInitAt none earlier
      | some challenge =>
        if (view j).direction = "tx" ∧ cmd = cmdKeyInit then some (j, challenge)
        else searchKeyInitAt (some challenge) earlier

/-- The positions before `i`, the nearest first. -/
def before (i : ℕ) : List ℕ := (List.range i).reverse

/-- The origin and the challenge of the response at a position. -/
def challengeResponseAt (i : ℕ) : Option (ℕ × ℕ) :=
  if (view i).cmd ≠ some cmdChallengeResp then none
  else searchOriginAt view (view i).direction (opposite (view i).direction) none (before i)

/-- The key init and the challenge of the key transfer at a position. -/
def keyTransferAt (i : ℕ) : Option (ℕ × ℕ) :=
  if (view i).direction ≠ "tx" ∨ (view i).cmd ≠ some cmdKeyTransfer then none
  else searchKeyInitAt view none (before i)

end

def isSelfAuthenticated (f : RawFrame) : Bool :=
  f.cmd = some cmdDiscoverSpeReq ∧ f.payload.length = 2 * hmacSize

/-- The loop of a rewriter: every frame in turn, from the frames as they are by then. -/
def rewriteAll (rewrite : (ℕ → RawFrame) → ℕ → Option RawFrame) (frames : List RawFrame) :
    Option (List RawFrame) :=
  (List.range frames.length).foldlM (fun current i => do
    let f ← rewrite (frameAt current) i
    some (current.set i f)) frames

section

variable (aes : BlockCipher)

/-- A response of a triple that was found in the frames `found`. -/
def rekeyResponse (realKey : Block) (found current : ℕ → RawFrame) (i : ℕ) : Option RawFrame :=
  match challengeResponseAt found i with
  | none => some (current i)
  | some (origin, challenge) => do
    let cmd ← (current origin).nonCrcBytes[8]?
    let transcript := cmd :: (current origin).payload
    let challenge := (current challenge).payload.take hmacSize
    let hmac ← createHmac aes transcript challenge realKey
    let newHmac ← createHmac aes transcript challenge corpusSystemKey
    if hmac = (current i).payload.take hmacSize then some (setPayload (current i) newHmac)
    else none

/-- `rekey_hmac_frames`. -/
def rekeyHmacFrames (realKey : Block) (frames : List RawFrame) : Option (List RawFrame) :=
  rewriteAll (rekeyResponse aes realKey (frameAt frames)) frames

def rekeySelfAuthenticated (realKey : Block) (f : RawFrame) : Option RawFrame :=
  if isSelfAuthenticated f = false then some f
  else do
    let cmd ← f.nonCrcBytes[8]?
    let challenge := f.payload.take hmacSize
    let hmac ← createHmac aes [cmd] challenge realKey
    let newHmac ← createHmac aes [cmd] challenge corpusSystemKey
    if hmac = (f.payload.drop hmacSize).take hmacSize then
      some (setPayload f (challenge ++ newHmac))
    else none

/-- `rekey_self_authenticated_frames`. -/
def rekeySelfAuthenticatedFrames (realKey : Block) (frames : List RawFrame) :
    Option (List RawFrame) :=
  rewriteAll (fun current i => rekeySelfAuthenticated aes realKey (current i)) frames

/-- A key transfer of a triple that was found in the frames `found`. -/
def rekeyTransfer (realKey : Block) (found current : ℕ → RawFrame) (i : ℕ) : Option RawFrame :=
  match keyTransferAt found i with
  | none => some (current i)
  | some (keyInit, challenge) => do
    let cmd := ((current keyInit).nonCrcBytes.drop 8).take 1
    let challenge := (current challenge).payload.take hmacSize
    let decrypted ← cryptKey aes cmd challenge ((current i).payload.take aesKeySize)
    let newEncrypted ← cryptKey aes cmd challenge corpusSystemKey.toList
    if decrypted = realKey then some (setPayload (current i) newEncrypted.toList) else none

/-- `rekey_key_transfer_frames`. -/
def rekeyKeyTransferFrames (realKey : Block) (frames : List RawFrame) :
    Option (List RawFrame) :=
  rewriteAll (rekeyTransfer aes realKey (frameAt frames)) frames

def rekeyAddController (realOnewayKey : Block) (f : RawFrame) : Option RawFrame :=
  if f.cmd ≠ some cmdOnewayAddController then some f
  else do
    let parts ← onewayAddControllerParts f
    let unwrapped ← crypt1wKey aes parts.src parts.encKey
    let newEncKey ← crypt1wKey aes parts.src corpusSystemKey.toList
    let newPayload := newEncKey.toList ++ (f.payload.drop aesKeySize).take 4
    if unwrapped ≠ realOnewayKey then none
    else if parts.trailer = [] then some (setPayload f newPayload)
    else if create1wHmac aes (cmdOnewayAddController :: parts.encKey) parts.sequence
        realOnewayKey ≠ parts.trailer then none
    else some (setPayload f (newPayload ++ create1wHmac aes
      (cmdOnewayAddController :: newEncKey.toList) parts.sequence corpusSystemKey))

/-- `rekey_oneway_add_controller_frames`. -/
def rekeyOnewayAddControllerFrames (realOnewayKey : Block) (frames : List RawFrame) :
    Option (List RawFrame) :=
  rewriteAll (fun current i => rekeyAddController aes realOnewayKey (current i)) frames

def rekeyRemoveController (realOnewayKey : Block) (f : RawFrame) : Option RawFrame :=
  if f.cmd ≠ some cmdOnewayRemove then some f
  else do
    let parts ← onewayRemoveControllerParts f
    if create1wHmac aes parts.span parts.sequence realOnewayKey ≠ parts.mac then none
    else some (setPayload f (f.payload.take 1 ++
      [(parts.sequence >>> 8).toUInt8, parts.sequence.toUInt8] ++
      create1wHmac aes parts.span parts.sequence corpusSystemKey))

/-- `rekey_oneway_remove_controller_frames`. -/
def rekeyOnewayRemoveControllerFrames (realOnewayKey : Block) (frames : List RawFrame) :
    Option (List RawFrame) :=
  rewriteAll (fun current i => rekeyRemoveController aes realOnewayKey (current i)) frames

end

/-- The `--remap` entries in their order; the old addresses are the keys of a dictionary. -/
structure NodeRemap where
  entries : List (NodeId × NodeId)
  keys : (entries.map Prod.fst).Nodup

/-- The replacement that the table gives for an address. -/
def NodeRemap.newId (remap : NodeRemap) (id : NodeId) : NodeId :=
  ((remap.entries.find? fun entry => entry.1 = id).map Prod.snd).getD id

def idAt (raw : List UInt8) (i : ℕ) : NodeId :=
  ⟨raw.getD i 0, raw.getD (i + 1) 0, raw.getD (i + 2) 0⟩

def dstOf (raw : List UInt8) : NodeId := idAt raw 2
def srcOf (raw : List UInt8) : NodeId := idAt raw 5

def setIdAt (raw : List UInt8) (i : ℕ) (id : NodeId) : List UInt8 :=
  raw.take i ++ id.bytes ++ raw.drop (i + 3)

/-- One entry of the table, on both addresses of a frame. -/
def remapEntry (raw : List UInt8) (entry : NodeId × NodeId) : List UInt8 :=
  let raw := if dstOf raw = entry.1 then setIdAt raw 2 entry.2 else raw
  if srcOf raw = entry.1 then setIdAt raw 5 entry.2 else raw

def remapFrame (remap : NodeRemap) (f : RawFrame) : RawFrame :=
  if f.raw.length < frameMinSize then f
  else setFrameRaw f (remap.entries.foldl remapEntry f.raw)

/-- `apply_node_remap`, the frames. -/
def applyNodeRemap (remap : NodeRemap) (frames : List RawFrame) : List RawFrame :=
  if remap.entries = [] then frames else frames.map (remapFrame remap)

/-- `assert_no_key_leakage`. -/
def leaksKey (realKey : Block) (frames : List RawFrame) : Bool :=
  frames.any fun f => realKey.toList <:+: f.raw ∨ realKey.toList.reverse <:+: f.raw

def has2wCrypto (frames : List RawFrame) : Bool :=
  (List.range frames.length).any fun i =>
    (keyTransferAt (frameAt frames) i).isSome || (challengeResponseAt (frameAt frames) i).isSome ||
      isSelfAuthenticated (frameAt frames i)

def hasOneway (frames : List RawFrame) : Bool :=
  frames.any fun f => f.cmd = some cmdOnewayAddController || f.cmd = some cmdOnewayRemove

section

variable (aes : BlockCipher)

def rekey2w (realKey : Block) (frames : List RawFrame) : Option (List RawFrame) := do
  let frames ← rekeyHmacFrames aes realKey frames
  let frames ← rekeySelfAuthenticatedFrames aes realKey frames
  rekeyKeyTransferFrames aes realKey frames

def rekeyOneway (realOnewayKey : Block) (frames : List RawFrame) : Option (List RawFrame) := do
  let frames ← rekeyOnewayAddControllerFrames aes realOnewayKey frames
  rekeyOnewayRemoveControllerFrames aes realOnewayKey frames

/-- `apply_rekey`, the frames. -/
def applyRekey (realKey realOnewayKey : Block) (remap : NodeRemap) (frames : List RawFrame) :
    Option (List RawFrame) := do
  let rekeyed ← (if has2wCrypto frames then rekey2w aes realKey frames else some frames)
  let rekeyed ← (if hasOneway frames then rekeyOneway aes realOnewayKey rekeyed else some rekeyed)
  let rekeyed := applyNodeRemap remap rekeyed
  if has2wCrypto frames && leaksKey realKey rekeyed then none
  else if hasOneway frames && leaksKey realOnewayKey rekeyed then none
  else some rekeyed

end

end HomeIoControl.CorpusRekeying
