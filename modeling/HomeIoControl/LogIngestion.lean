import HomeIoControl.BacktrackingRegexes
import HomeIoControl.CorpusFrames
import HomeIoControl.PythonIntegers

/-!
# Frames extracted from a pasted log

The corpus tools read a log line by line. A line is tried against the structured tag of the
firmware, its legacy tag and, last, any run of hexadecimal pairs; a frame that repeats the one
before is taken for the second log line of one event and merged into it. A function that raises a
`ValueError` returns `none`.
-/

namespace HomeIoControl.LogIngestion

open BacktrackingRegexes BacktrackingRegexes.Regex ProtocolFrames CorpusFrames PythonIntegers

inductive Direction where
  | tx
  | rx
  deriving DecidableEq

/-- `RawFrame`: a frame as a log shows it. -/
structure RawFrame where
  direction : Direction
  hexBytes : List Char
  freq : ℕ
  tMs : Option ℕ
  chip : Option (List Char)
  unverified : Bool
  sourceLine : List Char
  deriving DecidableEq

/-- `RawFrame.raw`. -/
def RawFrame.raw (f : RawFrame) : Option (List UInt8) := parseHex (String.ofList f.hexBytes)

/-- The named groups of the expressions. -/
inductive Field where
  | chip
  | stage
  | freq
  | ts
  | len
  | cmd
  | src
  | dst
  | payload
  | txRx
  | preamble
  | cmdName
  | flags
  | hex
  | hours
  | minutes
  | seconds
  | ms
  deriving DecidableEq

/-- What the interpreter's Unicode database says of characters: besides the rest, whether one is
alphanumeric. -/
structure CharTable extends Unicode where
  isAlnum : Char → Bool

section Expressions

variable (u : CharTable)

def isAsciiDigit (ch : Char) : Bool := '0' ≤ ch ∧ ch ≤ '9'

/-- `\d`. -/
def isDigit (ch : Char) : Bool :=
  isAsciiDigit ch || 128 ≤ ch.toNat && (u.decimal ch).isSome

/-- `\w`. -/
def isWord (ch : Char) : Bool :=
  isAsciiDigit ch || 'a' ≤ ch && ch ≤ 'z' || 'A' ≤ ch && ch ≤ 'Z' || ch = '_' ||
    128 ≤ ch.toNat && u.isAlnum ch

/-- `\b`. -/
def wordBoundary : Regex Field :=
  look fun c => c.before.head?.any (isWord u) != c.after.head?.any (isWord u)

/-- `\s+`. -/
def spaces : Regex Field := plus (char isSpace)

/-- `\s*`. -/
def anySpaces : Regex Field := star (char isSpace)

/-- `\S+`. -/
def word : Regex Field := plus (char fun ch => !isSpace ch)

/-- `\d+`. -/
def digits : Regex Field := plus (char (isDigit u))

/-- `[0-9A-Fa-f]`. -/
def hexDigit : Regex Field := char isHexDigit

def text (s : String) : Regex Field := literal s.toList

/-- `(?P<payload>[0-9A-Fa-f ]+)`. -/
def payloadField : Regex Field := capture .payload (plus (char fun ch => isHexDigit ch || ch = ' '))

/-- `_IO_CAPTURE_WITH_FRAME_RE`. -/
def ioCaptureWithFrame : Regex Field :=
  sequence [text "chip=", capture .chip word, spaces, text "phase=component", spaces,
    text "stage=", capture .stage word, spaces, text "freq=", capture .freq (digits u), spaces,
    text "ts=", capture .ts (digits u), spaces, text "len=", capture .len (digits u), spaces,
    text "cmd=0x", capture .cmd (plus hexDigit), spaces, text "src=",
    capture .src (times 6 hexDigit), spaces, text "dst=", capture .dst (times 6 hexDigit), spaces,
    text "payload=", payloadField]

/-- `_IO_CAPTURE_NO_FRAME_RE`. -/
def ioCaptureNoFrame : Regex Field :=
  sequence [text "chip=", capture .chip word, spaces, text "phase=component", spaces,
    text "stage=", capture .stage word, spaces, text "freq=", capture .freq (digits u), spaces,
    text "ts=", capture .ts (digits u), spaces, text "len=", capture .len (digits u), spaces,
    text "payload=", payloadField]

/-- `(?:preamble=(?P<preamble>\d+)\s*)?`. -/
def preambleField : Regex Field :=
  opt (sequence [text "preamble=", capture .preamble (digits u), anySpaces])

/-- `\[[A-Z]+\]`. -/
def flag : Regex Field := sequence [text "[", plus (char fun ch => 'A' ≤ ch ∧ ch ≤ 'Z'), text "]"]

/-- `(?:cmd=(?P<cmd_name>\S+)\s*(?P<flags>(?:\[[A-Z]+\])*)\s*)?`. -/
def cmdField : Regex Field :=
  opt (sequence [text "cmd=", capture .cmdName word, anySpaces, capture .flags (star flag),
    anySpaces])

/-- `[0-9A-Fa-f]{2}(?:\s+[0-9A-Fa-f]{2})+`. -/
def hexPairsText : Regex Field :=
  seq (times 2 hexDigit) (plus (seq spaces (times 2 hexDigit)))

/-- `_IO_FRAME_RE`. -/
def ioFrame : Regex Field :=
  sequence [capture .txRx (alt (text "TX") (text "RX")), spaces, text "[",
    capture .len (digits u), spaces, text "bytes]", spaces, text "freq=",
    capture .freq (digits u), anySpaces, preambleField u, cmdField, text ":", anySpaces,
    capture .hex hexPairsText]

/-- `_TIMESTAMP_PREFIX_RE`. -/
def timestampPrefix : Regex Field :=
  sequence [look fun c => c.before = [], text "[", capture .hours (times 2 (char (isDigit u))),
    text ":", capture .minutes (times 2 (char (isDigit u))), text ":",
    capture .seconds (times 2 (char (isDigit u))), text ".",
    capture .ms (times 3 (char (isDigit u))), text "]"]

/-- `\b[0-9A-Fa-f]{2}\b`. -/
def boundedPair : Regex Field := sequence [wordBoundary u, times 2 hexDigit, wordBoundary u]

/-- `_HEX_RUN_RE`. -/
def hexRun : Regex Field :=
  seq (atLeast (frameMinSize - 1) (seq (boundedPair u) spaces)) (boundedPair u)

/-- `int` of decimal digits. -/
def decimalValue (digits : List Char) : ℕ :=
  digits.foldl (fun n ch => 10 * n +
    if isAsciiDigit ch then ch.toNat - 48 else ((u.decimal ch).map Fin.val).getD 0) 0

/-- `int(digits, 16)` of digits alone. -/
def hexNumber (digits : List Char) : ℕ :=
  digits.foldl (fun n ch => 16 * n + (hexValue ch).getD 0) 0

/-- What a group of a match captured; the empty text for a group that took no part. -/
def Match.field (m : Match Field) (g : Field) : List Char := (m.reading.group g).getD []

/-- `str.strip`. -/
def strip (text : List Char) : List Char :=
  ((text.dropWhile isSpace).reverse.dropWhile isSpace).reverse

/-- `_wall_clock_ms`. -/
def wallClockMs (line : List Char) : Option ℕ :=
  ((timestampPrefix u).first ⟨⟨[], line⟩, []⟩).map fun t =>
    let int (g : Field) := decimalValue u ((t.group g).getD [])
    ((int .hours * 60 + int .minutes) * 60 + int .seconds) * 1000 + int .ms

/-- `_io_capture_metadata_agrees`. -/
def ioCaptureMetadataAgrees (m : Match Field) : Option Bool :=
  match parseHex (String.ofList (Match.field m .payload)) with
  | none => none
  | some payload =>
    if payload.length ≠ decimalValue u (Match.field m .len) then some false
    else if payload.length ≤ 8 then some false
    else if (payload.getD 8 0).toNat ≠ hexNumber (Match.field m .cmd) then some false
    else
      match parseHex (String.ofList (Match.field m .dst)),
        parseHex (String.ofList (Match.field m .src)) with
      | some dst, some src =>
        some ((payload.take 5).drop 2 = dst ∧ (payload.take 8).drop 5 = src)
      | _, _ => none

/-- `parse_log_line`: the frame of a line, if it has one. -/
def parseLogLine (line : List Char) : Option (Option RawFrame) :=
  let tMs := wallClockMs u line
  match (ioCaptureWithFrame u).search line with
  | some m =>
    (ioCaptureMetadataAgrees u m).map fun agrees => some
      { direction := if Match.field m .stage = "tx_frame".toList then .tx else .rx
        hexBytes := strip (Match.field m .payload)
        freq := decimalValue u (Match.field m .freq)
        tMs
        chip := some (Match.field m .chip)
        unverified := !agrees
        sourceLine := line }
  | none =>
    match (ioCaptureNoFrame u).search line with
    | some m => some (some
        { direction := .rx
          hexBytes := strip (Match.field m .payload)
          freq := decimalValue u (Match.field m .freq)
          tMs
          chip := some (Match.field m .chip)
          unverified := true
          sourceLine := line })
    | none =>
      match (ioFrame u).search line with
      | some m => some (some
          { direction := if Match.field m .txRx = "TX".toList then .tx else .rx
            hexBytes := strip (Match.field m .hex)
            freq := decimalValue u (Match.field m .freq)
            tMs
            chip := none
            unverified := false
            sourceLine := line })
      | none =>
        match (hexRun u).search line with
        | some m => some (some
            { direction := .rx
              hexBytes := strip m.text
              freq := 0
              tMs
              chip := none
              unverified := true
              sourceLine := line })
        | none => some none

end Expressions

/-- `"".join(hex_bytes.split()).upper()`, of a text of hexadecimal digits. -/
def joinedHex (hexBytes : List Char) : List Char :=
  (hexBytes.filter fun ch => !isSpace ch).map Char.toUpper

/-- `_same_physical_frame`. -/
def samePhysicalFrame (a b : RawFrame) : Bool :=
  if a.direction ≠ b.direction then false
  else if joinedHex a.hexBytes ≠ joinedHex b.hexBytes then false
  else a.chip.isSome || b.chip.isSome

/-- `_merge_frames`. -/
def mergeFrames (a b : RawFrame) : RawFrame where
  direction := a.direction
  hexBytes := if a.unverified && !b.unverified then b.hexBytes else a.hexBytes
  freq := if a.freq ≠ 0 then a.freq else b.freq
  tMs :=
    if a.tMs ∉ [none, some 0] then a.tMs
    else if b.tMs ∉ [none, some 0] then b.tMs
    else if a.tMs.isSome then a.tMs
    else b.tMs
  chip :=
    match a.chip with
    | some (ch :: name) => some (ch :: name)
    | _ => b.chip
  unverified := a.unverified && b.unverified
  sourceLine := a.sourceLine ++ " | ".toList ++ b.sourceLine

/-- The characters at which `str.splitlines` breaks a text. -/
def isLineBreak (ch : Char) : Bool :=
  ch ∈ ['\n', '\r', '\x0b', '\x0c', '\x1c', '\x1d', '\x1e', '\x85', '\u2028', '\u2029']

/-- `str.splitlines` with the beginning of a line read so far, the latest character first. -/
def splitLinesFrom : List Char → List Char → List (List Char)
  | line, [] => if line = [] then [] else [line.reverse]
  | line, '\r' :: '\n' :: rest => line.reverse :: splitLinesFrom [] rest
  | line, ch :: rest =>
    if isLineBreak ch then line.reverse :: splitLinesFrom [] rest
    else splitLinesFrom (ch :: line) rest

/-- `str.splitlines`. -/
def splitLines (text : List Char) : List (List Char) := splitLinesFrom [] text

section Logs

variable (u : CharTable)

/-- What the loop of `parse_log` does with the frame of a line. -/
def addFrame (frames : List RawFrame) (frame : RawFrame) : List RawFrame :=
  match frames.getLast? with
  | some last =>
    if samePhysicalFrame last frame then frames.dropLast ++ [mergeFrames last frame]
    else frames ++ [frame]
  | none => [frame]

/-- One turn of the loop of `parse_log`. -/
def parseLogStep (frames : List RawFrame) (line : List Char) : Option (List RawFrame) :=
  (parseLogLine u line).map fun
    | none => frames
    | some frame => addFrame frames frame

/-- `parse_log`. -/
def parseLog (log : List Char) : Option (List RawFrame) :=
  (splitLines log).foldlM (parseLogStep u) []

end Logs

end HomeIoControl.LogIngestion
