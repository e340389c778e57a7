import HomeIoControl.BacktrackingRegexes
import HomeIoControl.CorpusCrypto
import HomeIoControl.PythonIntegers
import HomeIoControl.SoftPhy

/-!
# The scan of committed text for key material

The script looks for runs of hexadecimal pairs and for base64 in a text, decodes them, and searches
the bytes for frames whose command carries key material.
-/

namespace HomeIoControl.KeyMaterialScans

open BacktrackingRegexes BacktrackingRegexes.Regex ProtocolFrames PythonIntegers

def frameCmdOffset : ℕ := 8
def frameMaxSize : ℕ := 32

/-- `WATCHED_OPCODES`. -/
def watchedOpcodes : List UInt8 :=
  [cmdOnewayAddController, cmdKeyTransfer, cmdChallengeReq, cmdChallengeResp]

def keyTransferDeclaredLen : ℕ := 25
def onewayAddControllerDeclaredLen : ℕ := 29

/-- `(?<![0-9A-Fa-f])`. -/
def notBehindHex (c : Cursor) : Bool := !(c.before.head?.any isHexDigit)

/-- `(?![0-9A-Fa-f])`. -/
def notBeforeHex (c : Cursor) : Bool := !(c.after.head?.any isHexDigit)

/-- `(?:0x|\\x)?`. -/
def hexMark : Regex Empty := opt (alt (literal ['0', 'x']) (literal ['\\', 'x']))

/-- `_HEX_TOKEN`. -/
def hexToken : Regex Empty :=
  seq (look notBehindHex) (seq hexMark (seq (times 2 (char isHexDigit)) (look notBeforeHex)))

def isSeparator (ch : Char) : Bool := ch ∈ [' ', '\t', ',', ':', '_', '-']

/-- `_HEX_SEP`. -/
def hexSep : Regex Empty := plus (char isSeparator)

/-- `_HEX_RUN_RE`. -/
def hexRun : Regex Empty := seq hexToken (star (seq hexSep hexToken))

/-- `int(tok.group(0)[-2:], 16)`. -/
def tokenByte (token : List Char) : UInt8 :=
  UInt8.ofNat ((token.drop (token.length - 2)).foldl
    (fun n digit => 16 * n + (hexValue digit).getD 0) 0)

/-- Decoded bytes, with the offset in the text of each. -/
abbrev Run := List UInt8 × List ℕ

/-- The bytes of a match of `_HEX_RUN_RE`. -/
def hexRunOf (run : Match Empty) : Option Run :=
  let tokens := hexToken.findIter ⟨[], run.text⟩
  let byteVals := tokens.map fun token => tokenByte token.text
  let offsets := tokens.map fun token => run.start.offset + token.start.offset
  if byteVals.length < frameMinSize then none else some (byteVals, offsets)

/-- `_hex_runs`. -/
def hexRuns (text : List Char) : List Run := (hexRun.findIter ⟨[], text⟩).filterMap hexRunOf

def base64Value (ch : Char) : Option ℕ :=
  if 'A' ≤ ch ∧ ch ≤ 'Z' then some (ch.toNat - 65)
  else if 'a' ≤ ch ∧ ch ≤ 'z' then some (ch.toNat - 71)
  else if '0' ≤ ch ∧ ch ≤ '9' then some (ch.toNat + 4)
  else if ch = '+' then some 62
  else if ch = '/' then some 63
  else none

def isBase64 (ch : Char) : Bool := (base64Value ch).isSome

/-- `_BASE64_RUN_RE`. -/
def base64Run : Regex Empty :=
  seq (atLeast 16 (char isBase64)) (opt (seq (char (· = '=')) (opt (char (· = '=')))))

/-- `base64.b64decode` without validation, from a place of a group of four characters with the
bits left over there. Padding that completes a group ends the text. -/
def b64decodeFrom : ℕ → ℕ → ℕ → List Char → Option (List UInt8)
  | quadPos, _, _, [] => if quadPos = 0 then some [] else none
  | quadPos, left, pads, ch :: rest =>
    if ch = '=' then
      if 2 ≤ quadPos ∧ 4 ≤ quadPos + pads + 1 then some []
      else b64decodeFrom quadPos left (if 2 ≤ quadPos then pads + 1 else pads) rest
    else
      match base64Value ch with
      | none => b64decodeFrom quadPos left pads rest
      | some value =>
        if quadPos = 0 then b64decodeFrom 1 value 0 rest
        else if quadPos = 1 then
          (b64decodeFrom 2 (value % 16) 0 rest).map (UInt8.ofNat (4 * left + value / 16) :: ·)
        else if quadPos = 2 then
          (b64decodeFrom 3 (value % 4) 0 rest).map (UInt8.ofNat (16 * left + value / 4) :: ·)
        else (b64decodeFrom 0 0 0 rest).map (UInt8.ofNat (64 * left + value) :: ·)

/-- The bytes of a match of `_BASE64_RUN_RE`, each at the start of the match. -/
def base64RunOf (run : Match Empty) : Option Run :=
  let padded := run.text ++ List.replicate ((4 - run.text.length % 4) % 4) '='
  match b64decodeFrom 0 0 0 padded with
  | none => none
  | some decoded =>
    if decoded.length < frameMinSize then none
    else some (decoded, List.replicate decoded.length run.start.offset)

/-- `_base64_runs`. -/
def base64Runs (text : List Char) : List Run :=
  (base64Run.findIter ⟨[], text⟩).filterMap base64RunOf

inductive Tier where
  | crcValid
  | shape
  deriving DecidableEq

structure Finding where
  path : String
  line : ℕ
  tier : Tier
  cmd : UInt8
  declaredLen : ℕ
  candidateLen : ℕ
  rawPrefix : List UInt8
  replacementNearby : Bool
  deriving DecidableEq

/-- `_line_number`. -/
def lineNumber (text : List Char) (offset : ℕ) : ℕ := (text.take offset).count '\n' + 1

def replacementChar : Char := '\ufffd'
def replacementWindow : ℕ := 32

/-- `_make_finding`. -/
def makeFinding (run : Run) (path : String) (text : List Char) (start : ℕ) (tier : Tier)
    (cmd : UInt8) (declaredLen candidateLen : ℕ) : Finding :=
  let textOffset := run.2.getD start 0
  let windowStart := textOffset - replacementWindow
  let windowEnd := min text.length (textOffset + replacementWindow)
  { path, tier, cmd, declaredLen, candidateLen
    line := lineNumber text textOffset
    rawPrefix := (run.1.drop start).take (min 16 candidateLen)
    replacementNearby := replacementChar ∈ (text.take windowEnd).drop windowStart }

/-- `_crc_le`. -/
def crcLe (buf : List UInt8) (offset : ℕ) : ℕ :=
  (buf.getD offset 0).toNat ||| ((buf.getD (offset + 1) 0).toNat <<< 8)

def candidateLens (cmd : UInt8) (declaredLen : ℕ) : List ℕ :=
  declaredLen ::
    if cmd = cmdOnewayAddController then [declaredLen + hmacSize] else []

def isKeyTransferShape (cmd : UInt8) (declaredLen : ℕ) : Bool :=
  cmd = cmdKeyTransfer ∧ declaredLen = keyTransferDeclaredLen

def isAddControllerShape (cmd : UInt8) (declaredLen : ℕ) : Bool :=
  cmd = cmdOnewayAddController ∧ declaredLen = onewayAddControllerDeclaredLen

/-- The tier in which a candidate counts, if any. -/
def tierOf (buf : List UInt8) (isHexSource : Bool) (start : ℕ) (cmd : UInt8)
    (declaredLen candidateLen : ℕ) : Option Tier :=
  if buf.length < start + candidateLen then none
  else if start + candidateLen + frameCrcSize ≤ buf.length ∧
      crcLe buf (start + candidateLen) =
        CorpusCrypto.crcCcitt ((buf.drop start).take candidateLen) then some .crcValid
  else if isHexSource = false then none
  else if start ≠ 0 ∨ start + candidateLen ≠ buf.length then none
  else if isKeyTransferShape cmd declaredLen || isAddControllerShape cmd declaredLen then some .shape
  else none

/-- The findings of `_scan_buffer` at one start. -/
def scanStart (run : Run) (path : String) (text : List Char) (isHexSource : Bool) (start : ℕ) :
    List Finding :=
  let cmd := run.1.getD (start + frameCmdOffset) 0
  let declaredLen := declaredLength (run.1.getD start 0)
  if cmd ∉ watchedOpcodes then []
  else if ¬ (frameMinSize ≤ declaredLen ∧ declaredLen ≤ frameMaxSize) then []
  else
    (candidateLens cmd declaredLen).filterMap fun candidateLen =>
      (tierOf run.1 isHexSource start cmd declaredLen candidateLen).map fun tier =>
        makeFinding run path text start tier cmd declaredLen candidateLen

/-- `_scan_buffer`. -/
def scanBuffer (path : String) (text : List Char) (isHexSource : Bool) (run : Run) : List Finding :=
  ((List.range run.1.length).takeWhile fun start => start + frameMinSize ≤ run.1.length).flatMap
    (scanStart run path text isHexSource)

/-- `scan_text`. -/
def scanText (path : String) (text : List Char) : List Finding :=
  (hexRuns text).flatMap (scanBuffer path text true) ++
    (base64Runs text).flatMap (scanBuffer path text false)

end HomeIoControl.KeyMaterialScans
