import HomeIoControl.CaptureLogLines
import HomeIoControl.FirstOccurrences

/-!
# The frames of a whole log

A log shows each event on the air as the line of the legacy tag, alone or next to the line of the
structured tag, among other lines. A frame that two lines were merged into keeps the chip of the
structured line, so the next event with the same direction and bytes is taken for a third line of
the same event.
-/

namespace HomeIoControl.IngestedLogs

open BacktrackingRegexes ProtocolFrames LogIngestion FrameLogLines CaptureLogLines FirstOccurrences
open CorpusFrames (isSpace parseHex filter_intercalate)
open DeviceRegistries (hexByte)
open ReceptionLogs (IsMasked)

/-- A frame sent or received, its length the one its first byte declares and its bytes not masked
in a log. -/
structure Event where
  direction : Direction
  bytes : List UInt8
  min : frameMinSize ≤ bytes.length
  declared : bytes.length = declaredLength (bytes.getD 0 0)
  unmasked : ¬ IsMasked bytes

/-- What tells an event from another. -/
def Event.key (e : Event) : Direction × List UInt8 := (e.direction, e.bytes)

/-- A line of the legacy tag, but for the event: what the logger puts in front, and the radio's
settings. -/
structure FrameLine where
  stamp : List Char
  plain : '=' ∉ stamp ∧ 'X' ∉ stamp
  freq : UInt32
  preamble : UInt16

def FrameLine.text (l : FrameLine) (e : Event) : List Char :=
  l.stamp ++ logFrame (directionText e.direction) e.bytes l.freq l.preamble

/-- A line of the structured tag for an event in this direction, with the fields of the decoded
frame. -/
structure CaptureLine (direction : Direction) where
  stamp : List Char
  plain : '=' ∉ stamp
  chipName : List Char
  named : IsName chipName
  stage : List Char
  staged : IsName stage
  sent : stage = "tx_frame".toList ↔ direction = .tx
  freq : UInt32
  ts : UInt32
  frame : IoFrame

def CaptureLine.text {e : Event} (l : CaptureLine e.direction) : List Char :=
  l.stamp ++ logComponentCapture l.chipName l.stage l.freq l.ts e.bytes l.frame

/-- An event with its lines: one, or two next to each other in either order. -/
structure Record where
  event : Event
  frameLine : FrameLine
  captureLine : Option (CaptureLine event.direction)
  captureFirst : Bool

def Record.key (r : Record) : Direction × List UInt8 := r.event.key

def Record.lines (r : Record) : List (List Char) :=
  match r.captureLine with
  | none => [r.frameLine.text r.event]
  | some l =>
    if r.captureFirst then [l.text, r.frameLine.text r.event]
    else [r.frameLine.text r.event, l.text]

/-- The lines of an event as `RawFrame.source_line` gives them. -/
def Record.source (r : Record) : List Char := List.intercalate " | ".toList r.lines

inductive Entry where
  | other (line : List Char)
  | record (r : Record)

def Entry.lines : Entry → List (List Char)
  | .other line => [line]
  | .record r => r.lines

def Entry.record? : Entry → Option Record
  | .other _ => none
  | .record r => some r

/-- A log whose events all have their two lines or all have the legacy line alone, and whose other
lines hold no run of hexadecimal pairs as long as a frame. -/
structure Log (u : CharTable) where
  entries : List Entry
  uniform : (∀ r ∈ entries.filterMap Entry.record?, r.captureLine.isSome) ∨
    ∀ r ∈ entries.filterMap Entry.record?, r.captureLine = none
  noRun : ∀ line, .other line ∈ entries → (hexRun u).search line = none

section Logs

variable {u : CharTable}

def Log.lines (log : Log u) : List (List Char) := log.entries.flatMap Entry.lines

def Log.records (log : Log u) : List Record := log.entries.filterMap Entry.record?

/-- One frame for each event, in order, with its direction and its bytes. -/
def Log.OneFramePerEvent (log : Log u) (frames : List RawFrame) : Prop :=
  frames.map (fun f => (f.direction, f.raw)) =
    log.records.map fun r => (r.event.direction, some r.event.bytes)

/-- Each frame comes from the lines of its own event. -/
def Log.FromOwnLines (log : Log u) (frames : List RawFrame) : Prop :=
  frames.map RawFrame.sourceLine = log.records.map Record.source

/-- None of the expressions for a tagged line matches. -/
def Untagged (u : CharTable) (line : List Char) : Prop :=
  (ioCaptureWithFrame u).search line = none ∧ (ioCaptureNoFrame u).search line = none ∧
    (ioFrame u).search line = none

/-- No other line is taken for a frame. -/
def Log.OthersUntagged (log : Log u) : Prop :=
  ∀ line, .other line ∈ log.entries → Untagged u line

/-- Where events have two lines, no two events next to each other are equal. -/
def Log.NoRepeats (log : Log u) : Prop :=
  (∃ r ∈ log.records, r.captureLine.isSome) → (log.records.map Record.key).IsChain (· ≠ ·)

end Logs

/-- The direction of a frame and its bytes as they are spelled. -/
def shown (f : RawFrame) : Direction × List Char := (f.direction, f.hexBytes)

/-- How the lines of an event spell it. -/
def printed (k : Direction × List UInt8) : Direction × List Char := (k.1, hexText k.2)

theorem parseHex_hexText_self (bytes : List UInt8) :
    parseHex (String.ofList (hexText bytes)) = some bytes := by
  have hread : parseHex (String.ofList (hexText bytes ++ [])) = some bytes :=
    parseHex_hexText bytes (by simp)
  rwa [List.append_nil] at hread

theorem printed_injective : Function.Injective printed := by
  intro j k h
  have hbytes : some j.2 = some k.2 := by
    rw [← parseHex_hexText_self j.2, ← parseHex_hexText_self k.2, (Prod.mk.inj h).2]
  exact Prod.ext (Prod.mk.inj h).1 (Option.some.inj hbytes)

theorem Event.fits (e : Event) : e.bytes.length ≤ RadioLinks.radioPacketBufferSize := by
  rw [e.declared]
  exact (declaredLength_le _).trans (by decide)

theorem Event.bytes_ne_nil (e : Event) : e.bytes ≠ [] := by
  intro hnil
  have hmin := e.min
  rw [hnil] at hmin
  exact absurd hmin (by decide)

theorem splitLinesFrom_line {line : List Char} (h : ∀ ch ∈ line, isLineBreak ch = false)
    (begun rest : List Char) :
    splitLinesFrom begun (line ++ '\n' :: rest) =
      (begun.reverse ++ line) :: splitLinesFrom [] rest := by
  induction line generalizing begun with
  | nil =>
    have hbreak : isLineBreak '\n' = true := by decide
    rw [List.nil_append, splitLinesFrom.eq_3 begun '\n' rest (by simp), if_pos hbreak,
      List.append_nil]
  | cons ch line ih =>
    have hch := h ch List.mem_cons_self
    have hnot : ch ≠ '\r' := by
      rintro rfl
      exact absurd hch (by decide)
    rw [List.cons_append, splitLinesFrom.eq_3 begun ch _ (fun _ hr _ => hnot hr), hch,
      if_neg Bool.false_ne_true, ih (fun c hc => h c (List.mem_cons_of_mem _ hc))]
    simp

/-- A text of lines, each with its newline. -/
def pasted (lines : List (List Char)) : List Char := lines.flatMap fun line => line ++ ['\n']

/-- Lines that each end in a newline are the lines of the text. -/
theorem splitLines_flatMap {lines : List (List Char)}
    (h : ∀ line ∈ lines, ∀ ch ∈ line, isLineBreak ch = false) :
    splitLines (pasted lines) = lines := by
  induction lines with
  | nil => rfl
  | cons line lines ih =>
    have hrest := ih fun l hl => h l (List.mem_cons_of_mem _ hl)
    rw [splitLines] at hrest ⊢
    rw [pasted, List.flatMap_cons, List.append_assoc, List.singleton_append, ← pasted,
      splitLinesFrom_line (h line List.mem_cons_self), hrest]
    rfl

section Lines

variable {u : CharTable}

theorem parseLogLine_frameLine (l : FrameLine) (e : Event) :
    ∃ f, parseLogLine u (l.text e) = some (some f) ∧ shown f = printed e.key ∧ f.chip = none ∧
      f.sourceLine = l.text e := by
  obtain ⟨f, hline, hdirection, hbytes, hchip, hsource⟩ :=
    parseLogLine_logFrame (u := u) l.plain e.min e.fits e.unmasked
  exact ⟨f, hline, Prod.ext hdirection hbytes, hchip, hsource⟩

theorem parseLogLine_captureLine {e : Event} (l : CaptureLine e.direction) :
    ∃ f, parseLogLine u l.text = some (some f) ∧ shown f = printed e.key ∧
      f.chip = some l.chipName ∧ f.sourceLine = l.text := by
  obtain ⟨f, hline, hdirection, hbytes, hchip, hsource⟩ :=
    parseLogLine_logComponentCapture (u := u) l.plain l.named l.staged l.sent e.bytes_ne_nil e.fits
      e.unmasked
  exact ⟨f, hline, Prod.ext hdirection hbytes, hchip, hsource⟩

theorem parseLogLine_of_noFrame {line : List Char} {m : Match Field}
    (hwith : (ioCaptureWithFrame u).search line = none)
    (h : (ioCaptureNoFrame u).search line = some m) :
    parseLogLine u line = some (some
      { direction := .rx
        hexBytes := strip (Match.field m .payload)
        freq := decimalValue u (Match.field m .freq)
        tMs := wallClockMs u line
        chip := some (Match.field m .chip)
        unverified := true
        sourceLine := line }) := by
  simp only [parseLogLine, hwith, h]

theorem parseLogLine_of_hexRun {line : List Char} {m : Match Field} (huntagged : Untagged u line)
    (h : (hexRun u).search line = some m) :
    parseLogLine u line = some (some
      { direction := .rx
        hexBytes := strip m.text
        freq := 0
        tMs := wallClockMs u line
        chip := none
        unverified := true
        sourceLine := line }) := by
  simp only [parseLogLine, huntagged.1, huntagged.2.1, huntagged.2.2, h]

theorem parseLogLine_of_untagged {line : List Char} (huntagged : Untagged u line)
    (hrun : (hexRun u).search line = none) : parseLogLine u line = some none := by
  simp only [parseLogLine, huntagged.1, huntagged.2.1, huntagged.2.2, hrun]

/-- What reading a line comes to: nothing found, an error, or a frame that keeps the line. -/
theorem parseLogLine_cases (line : List Char) :
    (Untagged u line ∧ parseLogLine u line = some none) ∨ parseLogLine u line = none ∨
      ∃ f, parseLogLine u line = some (some f) ∧ f.sourceLine = line := by
  cases hwith : (ioCaptureWithFrame u).search line with
  | some m =>
    cases hagrees : ioCaptureMetadataAgrees u m with
    | none =>
      refine Or.inr (Or.inl ?_)
      simp only [parseLogLine, hwith, hagrees]
      rfl
    | some agrees => exact Or.inr (Or.inr ⟨_, parseLogLine_of_ioCapture hwith hagrees, rfl⟩)
  | none =>
    cases hno : (ioCaptureNoFrame u).search line with
    | some m => exact Or.inr (Or.inr ⟨_, parseLogLine_of_noFrame hwith hno, rfl⟩)
    | none =>
      cases hframe : (ioFrame u).search line with
      | some m => exact Or.inr (Or.inr ⟨_, parseLogLine_of_ioFrame hwith hno hframe, rfl⟩)
      | none =>
        cases hrun : (hexRun u).search line with
        | some m =>
          exact Or.inr (Or.inr ⟨_, parseLogLine_of_hexRun ⟨hwith, hno, hframe⟩ hrun, rfl⟩)
        | none =>
          exact Or.inl ⟨⟨hwith, hno, hframe⟩,
            parseLogLine_of_untagged ⟨hwith, hno, hframe⟩ hrun⟩

theorem parseLogStep_of_none {frames : List RawFrame} {line : List Char}
    (h : parseLogLine u line = some none) : parseLogStep u frames line = some frames := by
  rw [parseLogStep, h]
  rfl

theorem parseLogStep_of_frame {frames : List RawFrame} {line : List Char} {f : RawFrame}
    (h : parseLogLine u line = some (some f)) :
    parseLogStep u frames line = some (addFrame frames f) := by
  rw [parseLogStep, h]
  rfl

end Lines

theorem toUpper_of_mem {b : UInt8} {ch : Char} (h : ch ∈ hexByte b) : ch.toUpper = ch := by
  have hall : ∀ n < 16, (DeviceRegistries.hexDigit n).toUpper = DeviceRegistries.hexDigit n := by
    decide
  have hlt := b.toNat_lt
  simp only [hexByte, List.mem_cons, List.not_mem_nil, or_false] at h
  rcases h with rfl | rfl
  · exact hall _ (by omega)
  · exact hall _ (by omega)

theorem joinedHex_hexText (bytes : List UInt8) :
    joinedHex (hexText bytes) = bytes.flatMap hexByte := by
  rw [joinedHex, hexText, filter_intercalate]
  refine (List.map_congr_left fun ch hch => ?_).trans (List.map_id _)
  obtain ⟨b, -, hb⟩ := List.mem_flatMap.mp hch
  exact toUpper_of_mem hb

theorem joinedHex_inj {a b : List UInt8} :
    joinedHex (hexText a) = joinedHex (hexText b) ↔ a = b := by
  constructor
  · intro h
    rw [joinedHex_hexText, joinedHex_hexText] at h
    have hpairs : some a = some b := by
      rw [← DeviceRegistries.hexPairs_flatMap a, h, DeviceRegistries.hexPairs_flatMap]
    exact Option.some.inj hpairs
  · rintro rfl
    rfl

/-- The bytes are spelled as the firmware spells them. -/
def Printed (f : RawFrame) : Prop := ∃ k, shown f = printed k

theorem samePhysicalFrame_iff {a b : RawFrame} (ha : Printed a) (hb : Printed b) :
    samePhysicalFrame a b = true ↔ shown a = shown b ∧ (a.chip.isSome ∨ b.chip.isSome) := by
  obtain ⟨j, hj⟩ := ha
  obtain ⟨k, hk⟩ := hb
  have hjoined : joinedHex a.hexBytes = joinedHex b.hexBytes ↔ a.hexBytes = b.hexBytes := by
    have hja : a.hexBytes = hexText j.2 := congrArg Prod.snd hj
    have hkb : b.hexBytes = hexText k.2 := congrArg Prod.snd hk
    rw [hja, hkb, joinedHex_inj]
    constructor
    · intro h
      rw [h]
    · intro h
      exact joinedHex_inj.mp (congrArg joinedHex h)
  rw [samePhysicalFrame, shown, shown, Prod.mk.injEq, ← hjoined]
  by_cases hdirection : a.direction = b.direction
  · by_cases hbytes : joinedHex a.hexBytes = joinedHex b.hexBytes
    · simp [hdirection, hbytes]
    · simp [hdirection, hbytes]
  · simp [hdirection]

theorem addFrame_concat (front : List RawFrame) {last f : RawFrame}
    (h : samePhysicalFrame last f = true) :
    addFrame (front ++ [last]) f = front ++ [mergeFrames last f] := by
  rw [addFrame, List.getLast?_concat]
  simp only [h, if_true, List.dropLast_concat]

theorem addFrame_new {frames : List RawFrame} {f : RawFrame}
    (h : ∀ last, frames.getLast? = some last → samePhysicalFrame last f = false) :
    addFrame frames f = frames ++ [f] := by
  cases hlast : frames.getLast? with
  | none => rw [addFrame, List.getLast?_eq_none_iff.mp hlast]; rfl
  | some last =>
    rw [addFrame, hlast]
    simp only [h last hlast, Bool.false_eq_true, if_false]

theorem shown_mergeFrames {a b : RawFrame} (h : shown a = shown b) :
    shown (mergeFrames a b) = shown a := by
  refine Prod.ext rfl ?_
  have hbytes : a.hexBytes = b.hexBytes := congrArg Prod.snd h
  simp only [shown, mergeFrames, ← hbytes, ite_self]

/-- The frame names a chip. -/
def NamesChip (f : RawFrame) : Prop := ∃ ch name, f.chip = some (ch :: name)

theorem NamesChip.isSome {f : RawFrame} (h : NamesChip f) : f.chip.isSome = true := by
  obtain ⟨ch, name, hchip⟩ := h
  rw [hchip]
  rfl

/-- A merged frame keeps the chip: the next line is compared with a frame that has one. -/
theorem NamesChip.mergeFrames {a : RawFrame} (h : NamesChip a) (b : RawFrame) :
    NamesChip (mergeFrames a b) := by
  obtain ⟨ch, name, hchip⟩ := h
  exact ⟨ch, name, by rw [LogIngestion.mergeFrames, hchip]⟩

theorem NamesChip.mergeFrames_right {a b : RawFrame} (ha : a.chip = none) (h : NamesChip b) :
    NamesChip (LogIngestion.mergeFrames a b) := by
  obtain ⟨ch, name, hchip⟩ := h
  exact ⟨ch, name, by rw [LogIngestion.mergeFrames, ha, hchip]⟩

theorem Printed.of_shown {a b : RawFrame} (h : Printed a) (hab : shown a = shown b) :
    Printed b := by
  obtain ⟨k, hk⟩ := h
  exact ⟨k, hab.symm.trans hk⟩

/-- Every frame is spelled by the firmware and names a chip. -/
def AllPaired (frames : List RawFrame) : Prop := ∀ f ∈ frames, Printed f ∧ NamesChip f

theorem allPaired_nil : AllPaired [] := fun _ hf => absurd hf List.not_mem_nil

/-- The two frames of an event: merged into one, and that into the last frame where it is equal. -/
theorem addFrame_pair {frames : List RawFrame} {a b : RawFrame} (hframes : AllPaired frames)
    (ha : Printed a) (hab : shown a = shown b) (hchip : NamesChip a ∨ a.chip = none ∧ NamesChip b) :
    AllPaired (addFrame (addFrame frames a) b) ∧
      (addFrame (addFrame frames a) b).map shown = appendNew (frames.map shown) (shown a) ∧
      ((frames.map shown).getLast? ≠ some (shown a) →
        addFrame (addFrame frames a) b = frames ++ [mergeFrames a b]) := by
  have hb : Printed b := ha.of_shown hab
  by_cases hlast : (frames.map shown).getLast? = some (shown a)
  · rw [List.getLast?_map, Option.map_eq_some_iff] at hlast
    obtain ⟨last, hlast, hshown⟩ := hlast
    obtain ⟨front, rfl⟩ := List.getLast?_eq_some_iff.mp hlast
    obtain ⟨hprinted, hnames⟩ := hframes last (List.mem_append_right _ List.mem_cons_self)
    have hfirst := addFrame_concat front
      ((samePhysicalFrame_iff hprinted ha).mpr ⟨hshown, Or.inl hnames.isSome⟩)
    have honce : shown (mergeFrames last a) = shown last := shown_mergeFrames hshown
    have hsecond := addFrame_concat front ((samePhysicalFrame_iff
      (hprinted.of_shown honce.symm) hb).mpr
        ⟨(honce.trans hshown).trans hab, Or.inl (hnames.mergeFrames a).isSome⟩)
    have htwice : shown (mergeFrames (mergeFrames last a) b) = shown last :=
      (shown_mergeFrames ((honce.trans hshown).trans hab)).trans honce
    rw [hfirst, hsecond, List.map_append, List.map_append, List.map_singleton, List.map_singleton,
      htwice, hshown, appendNew, List.getLast?_concat, if_pos rfl]
    refine ⟨?_, rfl, fun hnew => absurd rfl hnew⟩
    intro f hf
    rcases List.mem_append.mp hf with hf | hf
    · exact hframes f (List.mem_append_left _ hf)
    · obtain rfl := List.mem_singleton.mp hf
      exact ⟨hprinted.of_shown htwice.symm, (hnames.mergeFrames a).mergeFrames b⟩
  · have hfirst : addFrame frames a = frames ++ [a] := by
      refine addFrame_new fun last hsome => Bool.eq_false_iff.mpr fun hsame => hlast ?_
      obtain ⟨hprinted, -⟩ := hframes last (List.mem_of_getLast? hsome)
      rw [List.getLast?_map, hsome, Option.map_some,
        ((samePhysicalFrame_iff hprinted ha).mp hsame).1]
    have hmerged : NamesChip (mergeFrames a b) := by
      rcases hchip with h | ⟨hnone, h⟩
      · exact h.mergeFrames b
      · exact h.mergeFrames_right hnone
    have hsome : a.chip.isSome = true ∨ b.chip.isSome = true := by
      rcases hchip with h | ⟨-, h⟩
      · exact Or.inl h.isSome
      · exact Or.inr h.isSome
    have hsecond := addFrame_concat frames ((samePhysicalFrame_iff ha hb).mpr ⟨hab, hsome⟩)
    rw [hfirst, hsecond, List.map_append, List.map_singleton, shown_mergeFrames hab, appendNew,
      if_neg hlast]
    refine ⟨?_, rfl, fun _ => rfl⟩
    intro f hf
    rcases List.mem_append.mp hf with hf | hf
    · exact hframes f hf
    · obtain rfl := List.mem_singleton.mp hf
      exact ⟨ha.of_shown (shown_mergeFrames hab).symm, hmerged⟩

section Runs

variable {u : CharTable}

theorem CaptureLine.namesChip {e : Event} (l : CaptureLine e.direction) {f : RawFrame}
    (h : f.chip = some l.chipName) : NamesChip f := by
  obtain ⟨ch, name, hname⟩ := List.exists_cons_of_ne_nil l.named.1
  exact ⟨ch, name, by rw [h, hname]⟩

/-- An event with two lines becomes one frame, unless the frame before it looks the same. -/
theorem parseLogStep_paired {r : Record} (hpaired : r.captureLine.isSome)
    {frames : List RawFrame} (hframes : AllPaired frames) :
    ∃ frames', r.lines.foldlM (parseLogStep u) frames = some frames' ∧ AllPaired frames' ∧
      frames'.map shown = appendNew (frames.map shown) (printed r.key) ∧
      ((frames.map shown).getLast? ≠ some (printed r.key) →
        frames'.map RawFrame.sourceLine = frames.map RawFrame.sourceLine ++ [r.source]) := by
  obtain ⟨l, hl⟩ := Option.isSome_iff_exists.mp hpaired
  obtain ⟨f, hf, hfShown, hfChip, hfSource⟩ :=
    parseLogLine_frameLine (u := u) r.frameLine r.event
  obtain ⟨g, hg, hgShown, hgChip, hgSource⟩ := parseLogLine_captureLine (u := u) l
  have hfg : shown f = shown g := hfShown.trans hgShown.symm
  by_cases hfirst : r.captureFirst = true
  · have hlines : r.lines = [l.text, r.frameLine.text r.event] := by
      rw [Record.lines, hl]
      exact if_pos hfirst
    obtain ⟨hall, hmap, hnew⟩ := addFrame_pair hframes ⟨_, hgShown⟩ hfg.symm
      (Or.inl (l.namesChip hgChip))
    refine ⟨addFrame (addFrame frames g) f, ?_, hall, hmap.trans (by rw [hgShown]; rfl), ?_⟩
    · rw [hlines, List.foldlM_cons, parseLogStep_of_frame hg]
      simp only [Option.bind_eq_bind, Option.bind_some]
      rw [List.foldlM_cons, parseLogStep_of_frame hf]
      rfl
    · intro hlast
      rw [hnew (by rw [hgShown]; exact hlast), List.map_append, List.map_singleton, mergeFrames,
        hgSource, hfSource, Record.source, hlines]
      simp [List.intercalate]
  · have hlines : r.lines = [r.frameLine.text r.event, l.text] := by
      rw [Record.lines, hl]
      exact if_neg hfirst
    obtain ⟨hall, hmap, hnew⟩ := addFrame_pair hframes ⟨_, hfShown⟩ hfg
      (Or.inr ⟨hfChip, l.namesChip hgChip⟩)
    refine ⟨addFrame (addFrame frames f) g, ?_, hall, hmap.trans (by rw [hfShown]; rfl), ?_⟩
    · rw [hlines, List.foldlM_cons, parseLogStep_of_frame hf]
      simp only [Option.bind_eq_bind, Option.bind_some]
      rw [List.foldlM_cons, parseLogStep_of_frame hg]
      rfl
    · intro hlast
      rw [hnew (by rw [hfShown]; exact hlast), List.map_append, List.map_singleton, mergeFrames,
        hfSource, hgSource, Record.source, hlines]
      simp [List.intercalate]

/-- An event with the legacy line alone always becomes a frame of its own. -/
theorem parseLogStep_bare {r : Record} (hbare : r.captureLine = none) {frames : List RawFrame}
    (hframes : ∀ f ∈ frames, f.chip = none) :
    ∃ f, r.lines.foldlM (parseLogStep u) frames = some (frames ++ [f]) ∧ f.chip = none ∧
      shown f = printed r.key ∧ f.sourceLine = r.source := by
  obtain ⟨f, hf, hshown, hchip, hsource⟩ := parseLogLine_frameLine (u := u) r.frameLine r.event
  have hlines : r.lines = [r.frameLine.text r.event] := by
    rw [Record.lines, hbare]
  have hadd : addFrame frames f = frames ++ [f] := by
    refine addFrame_new fun last hlast => ?_
    have hnone := hframes last (List.mem_of_getLast? hlast)
    simp [samePhysicalFrame, hnone, hchip]
  refine ⟨f, ?_, hchip, hshown, ?_⟩
  · rw [hlines, List.foldlM_cons, parseLogStep_of_frame hf, hadd]
    rfl
  · rw [hsource, Record.source, hlines, List.intercalate_singleton]

/-- The events of a run of entries, as they are spelled. -/
def printedKeys (entries : List Entry) : List (Direction × List Char) :=
  (entries.filterMap Entry.record?).map fun r => printed r.key

def sources (entries : List Entry) : List (List Char) :=
  (entries.filterMap Entry.record?).map Record.source

/-- With two lines for each event, one frame is left of every stretch of equal events. -/
theorem foldlM_paired (entries : List Entry)
    (hpaired : ∀ r ∈ entries.filterMap Entry.record?, r.captureLine.isSome)
    (hothers : ∀ line, .other line ∈ entries → parseLogLine u line = some none)
    {frames : List RawFrame} (hframes : AllPaired frames) :
    ∃ frames', (entries.flatMap Entry.lines).foldlM (parseLogStep u) frames = some frames' ∧
      frames'.map shown = (printedKeys entries).foldl appendNew (frames.map shown) ∧
      (((frames.map shown).getLast?.toList ++ printedKeys entries).IsChain (· ≠ ·) →
        frames'.map RawFrame.sourceLine = frames.map RawFrame.sourceLine ++ sources entries) := by
  induction entries generalizing frames with
  | nil => exact ⟨frames, rfl, rfl, fun _ => (List.append_nil _).symm⟩
  | cons entry entries ih =>
    have hrest : ∀ line, .other line ∈ entries → parseLogLine u line = some none :=
      fun line hline => hothers line (List.mem_cons_of_mem _ hline)
    rw [List.flatMap_cons, List.foldlM_append]
    cases entry with
    | other line =>
      have hstep : (Entry.other line).lines.foldlM (parseLogStep u) frames = some frames := by
        rw [Entry.lines, List.foldlM_cons, parseLogStep_of_none (hothers line List.mem_cons_self)]
        rfl
      rw [hstep]
      exact ih hpaired hrest hframes
    | record r =>
      obtain ⟨mid, hmid, hmidPaired, hmidShown, hmidSources⟩ :=
        parseLogStep_paired (u := u) (hpaired r List.mem_cons_self) hframes
      obtain ⟨frames', hrun, hshown, hsources⟩ :=
        ih (fun q hq => hpaired q (List.mem_cons_of_mem _ hq)) hrest hmidPaired
      rw [Entry.lines, hmid]
      refine ⟨frames', hrun, ?_, fun hchain => ?_⟩
      · rw [hshown, hmidShown]
        rfl
      · have hkeys : printedKeys (.record r :: entries) =
            printed r.key :: printedKeys entries := rfl
        rw [hkeys] at hchain
        rw [hmidShown, getLast?_appendNew] at hsources
        rw [hsources (List.IsChain.right_of_append hchain), hmidSources ?_, List.append_assoc]
        · rfl
        · intro hlast
          rw [hlast] at hchain
          exact (List.isChain_cons_cons.mp hchain).1 rfl

/-- With one line for each event, every event is left. -/
theorem foldlM_bare (entries : List Entry)
    (hbare : ∀ r ∈ entries.filterMap Entry.record?, r.captureLine = none)
    (hothers : ∀ line, .other line ∈ entries → parseLogLine u line = some none)
    {frames : List RawFrame} (hframes : ∀ f ∈ frames, f.chip = none) :
    ∃ frames', (entries.flatMap Entry.lines).foldlM (parseLogStep u) frames = some frames' ∧
      frames'.map shown = frames.map shown ++ printedKeys entries ∧
      frames'.map RawFrame.sourceLine = frames.map RawFrame.sourceLine ++ sources entries := by
  induction entries generalizing frames with
  | nil => exact ⟨frames, rfl, (List.append_nil _).symm, (List.append_nil _).symm⟩
  | cons entry entries ih =>
    have hrest : ∀ line, .other line ∈ entries → parseLogLine u line = some none :=
      fun line hline => hothers line (List.mem_cons_of_mem _ hline)
    rw [List.flatMap_cons, List.foldlM_append]
    cases entry with
    | other line =>
      have hstep : (Entry.other line).lines.foldlM (parseLogStep u) frames = some frames := by
        rw [Entry.lines, List.foldlM_cons, parseLogStep_of_none (hothers line List.mem_cons_self)]
        rfl
      rw [hstep]
      exact ih hbare hrest hframes
    | record r =>
      obtain ⟨f, hstep, hchip, hshown, hsource⟩ :=
        parseLogStep_bare (u := u) (hbare r List.mem_cons_self) hframes
      have hmid : ∀ g ∈ frames ++ [f], g.chip = none := by
        intro g hg
        rcases List.mem_append.mp hg with hg | hg
        · exact hframes g hg
        · obtain rfl := List.mem_singleton.mp hg
          exact hchip
      obtain ⟨frames', hrun, hrunShown, hrunSources⟩ :=
        ih (fun q hq => hbare q (List.mem_cons_of_mem _ hq)) hrest hmid
      rw [Entry.lines, hstep]
      refine ⟨frames', hrun, ?_, ?_⟩
      · rw [hrunShown, List.map_append, List.map_singleton, hshown, List.append_assoc]
        rfl
      · rw [hrunSources, List.map_append, List.map_singleton, hsource, List.append_assoc]
        rfl

/-- What a frame has gathered: its lines, each with a separator. -/
def weight (frames : List RawFrame) : ℕ := (frames.map fun f => f.sourceLine.length + 3).sum

theorem weight_append (front back : List RawFrame) :
    weight (front ++ back) = weight front + weight back := by
  rw [weight, List.map_append, List.sum_append]
  rfl

theorem weight_singleton (f : RawFrame) : weight [f] = f.sourceLine.length + 3 := by
  simp [weight]

/-- Appended or merged, a line is gathered once. -/
theorem weight_addFrame (frames : List RawFrame) (f : RawFrame) :
    weight (addFrame frames f) = weight frames + (f.sourceLine.length + 3) := by
  by_cases h : ∀ last, frames.getLast? = some last → samePhysicalFrame last f = false
  · rw [addFrame_new h, weight_append, weight_singleton]
  · simp only [not_forall, Bool.not_eq_false] at h
    obtain ⟨last, hlast, hsame⟩ := h
    obtain ⟨front, rfl⟩ := List.getLast?_eq_some_iff.mp hlast
    have hgap : " | ".toList.length = 3 := rfl
    rw [addFrame_concat front hsame, weight_append, weight_append, weight_singleton,
      weight_singleton, mergeFrames, List.length_append, List.length_append, hgap]
    omega

/-- What a line adds to the frames. -/
def lineWeight (u : CharTable) (line : List Char) : ℕ :=
  match parseLogLine u line with
  | some (some _) => line.length + 3
  | _ => 0

theorem lineWeight_of_frame {line : List Char} {f : RawFrame}
    (h : parseLogLine u line = some (some f)) : lineWeight u line = line.length + 3 := by
  simp only [lineWeight, h]

theorem weight_parseLogStep {frames frames' : List RawFrame} {line : List Char}
    (h : parseLogStep u frames line = some frames') :
    weight frames' = weight frames + lineWeight u line ∧ parseLogLine u line ≠ none := by
  rcases parseLogLine_cases (u := u) line with ⟨-, hnone⟩ | herror | ⟨f, hf, hsource⟩
  · rw [parseLogStep_of_none hnone, Option.some.injEq] at h
    simp [lineWeight, hnone, h]
  · rw [parseLogStep, herror] at h
    exact absurd h (by simp)
  · rw [parseLogStep_of_frame hf, Option.some.injEq] at h
    rw [← h, weight_addFrame, lineWeight_of_frame hf, hsource]
    exact ⟨rfl, by simp [hf]⟩

/-- Over a run, the frames gather every line that was read as one. -/
theorem weight_foldlM {lines : List (List Char)} {frames frames' : List RawFrame}
    (h : lines.foldlM (parseLogStep u) frames = some frames') :
    weight frames' = weight frames + (lines.map (lineWeight u)).sum ∧
      ∀ line ∈ lines, parseLogLine u line ≠ none := by
  induction lines generalizing frames with
  | nil =>
    obtain rfl := Option.some.inj h
    exact ⟨rfl, fun line hline => absurd hline List.not_mem_nil⟩
  | cons line lines ih =>
    rw [List.foldlM_cons] at h
    obtain ⟨mid, hstep, hrun⟩ := Option.bind_eq_some_iff.mp h
    obtain ⟨hweight, hread⟩ := weight_parseLogStep hstep
    obtain ⟨hweights, hreads⟩ := ih hrun
    refine ⟨?_, List.forall_mem_cons.mpr ⟨hread, hreads⟩⟩
    rw [hweights, hweight, List.map_cons, List.sum_cons, Nat.add_assoc]

theorem lineWeight_record (r : Record) :
    (r.lines.map (lineWeight u)).sum = r.source.length + 3 := by
  obtain ⟨f, hf, -, -, -⟩ := parseLogLine_frameLine (u := u) r.frameLine r.event
  have hframe := lineWeight_of_frame hf
  cases hl : r.captureLine with
  | none =>
    rw [Record.source, Record.lines, hl]
    simp [hframe, List.intercalate_singleton]
  | some l =>
    obtain ⟨g, hg, -, -, -⟩ := parseLogLine_captureLine (u := u) l
    have hcapture := lineWeight_of_frame hg
    have hgap : " | ".toList.length = 3 := rfl
    rw [Record.source, Record.lines, hl]
    simp only []
    split_ifs
    · simp [hframe, hcapture, List.intercalate]
      omega
    · simp [hframe, hcapture, List.intercalate]
      omega

/-- What a line that is not an event's adds. -/
def Entry.otherWeight (u : CharTable) : Entry → ℕ
  | .other line => lineWeight u line
  | .record _ => 0

/-- Besides the lines of the events, the frames gather the other lines that were read as one. -/
theorem sum_lineWeight (entries : List Entry) :
    ((entries.flatMap Entry.lines).map (lineWeight u)).sum =
      ((sources entries).map fun source => source.length + 3).sum +
        (entries.map (Entry.otherWeight u)).sum := by
  induction entries with
  | nil => rfl
  | cons entry entries ih =>
    rw [List.flatMap_cons, List.map_append, List.sum_append, ih]
    cases entry with
    | other line =>
      have hsources : sources (.other line :: entries) = sources entries := rfl
      simp only [Entry.lines, Entry.otherWeight, hsources, List.map_cons, List.map_nil,
        List.sum_cons, List.sum_nil]
      omega
    | record r =>
      have hsources : sources (.record r :: entries) = r.source :: sources entries := rfl
      simp only [Entry.lines, Entry.otherWeight, hsources, lineWeight_record, List.map_cons,
        List.sum_cons]
      omega

/-- Where the frames have gathered the events' lines alone, the other lines gave none. -/
theorem untagged_of_sources {entries : List Entry} {frames : List RawFrame}
    (h : (entries.flatMap Entry.lines).foldlM (parseLogStep u) [] = some frames)
    (hsources : frames.map RawFrame.sourceLine = sources entries) :
    ∀ line, .other line ∈ entries → Untagged u line := by
  intro line hline
  obtain ⟨hweight, hreads⟩ := weight_foldlM h
  have hgathered : weight frames = ((sources entries).map fun source => source.length + 3).sum := by
    rw [← hsources, List.map_map]
    rfl
  have hnil : weight [] = 0 := rfl
  rw [sum_lineWeight, hgathered, hnil] at hweight
  have hzero : lineWeight u line = 0 := by
    have hsum : (entries.map (Entry.otherWeight u)).sum = 0 := by omega
    exact List.sum_eq_zero_iff_forall_eq_nat.mp hsum _
      (List.mem_map.mpr ⟨.other line, hline, rfl⟩)
  have hread := hreads line (List.mem_flatMap.mpr ⟨.other line, hline, List.mem_singleton.mpr rfl⟩)
  rcases parseLogLine_cases (u := u) line with ⟨huntagged, -⟩ | herror | ⟨f, hf, -⟩
  · exact huntagged
  · exact absurd herror hread
  · rw [lineWeight_of_frame hf] at hzero
    omega

/-- The direction and the bytes that a spelling reads as. -/
def readBack (k : Direction × List Char) : Direction × Option (List UInt8) :=
  (k.1, parseHex (String.ofList k.2))

theorem readBack_printed (k : Direction × List UInt8) : readBack (printed k) = (k.1, some k.2) :=
  Prod.ext rfl (parseHex_hexText_self k.2)

theorem Log.oneFramePerEvent_of_shown {log : Log u} {frames : List RawFrame}
    (h : frames.map shown = printedKeys log.entries) : log.OneFramePerEvent frames := by
  have hread := congrArg (List.map readBack) h
  rw [printedKeys, List.map_map, List.map_map] at hread
  refine hread.trans (List.map_congr_left fun r _ => ?_)
  exact readBack_printed r.key

theorem isChain_printedKeys (log : Log u) : (printedKeys log.entries).IsChain (· ≠ ·) ↔
    (log.records.map Record.key).IsChain (· ≠ ·) := by
  rw [printedKeys, List.isChain_map, List.isChain_map]
  exact List.IsChain.iff fun a b => printed_injective.ne_iff

theorem parseLogLine_others {log : Log u} (h : log.OthersUntagged) :
    ∀ line, .other line ∈ log.entries → parseLogLine u line = some none := fun line hline =>
  parseLogLine_of_untagged (h line hline) (log.noRun line hline)

/-- The frames of a log in which the other lines give none: one for each event unless equal events
with two lines meet. -/
theorem Log.parseLog_of_untagged {log : Log u} {text : List Char}
    (htext : splitLines text = log.lines) (h : log.OthersUntagged) :
    ∃ frames, parseLog u text = some frames ∧
      (log.NoRepeats → log.OneFramePerEvent frames ∧ log.FromOwnLines frames) ∧
      (log.OneFramePerEvent frames → log.NoRepeats) := by
  rw [parseLog, htext]
  rcases log.uniform with hpaired | hbare
  · obtain ⟨frames, hrun, hshown, hsources⟩ := foldlM_paired log.entries hpaired
      (parseLogLine_others h) allPaired_nil
    refine ⟨frames, hrun, fun hrepeats => ?_, fun hone _ => ?_⟩
    · have hchain : (printedKeys log.entries).IsChain (· ≠ ·) := by
        rw [isChain_printedKeys]
        cases hrecords : log.records with
        | nil => exact List.isChain_nil
        | cons r records =>
          have hr : r ∈ log.records := by
            rw [hrecords]
            exact List.mem_cons_self
          rw [← hrecords]
          exact hrepeats ⟨r, hr, hpaired r hr⟩
      exact ⟨Log.oneFramePerEvent_of_shown (hshown.trans (foldl_appendNew_eq_self.mpr hchain)),
        hsources hchain⟩
    · rw [← isChain_printedKeys]
      apply isChain_of_length_foldl_appendNew
      have hlength := congrArg List.length hone
      have hframes := congrArg List.length hshown
      rw [List.length_map, List.length_map] at hlength
      rw [List.length_map, List.map_nil] at hframes
      rw [← hframes, hlength, printedKeys, List.length_map]
      rfl
  · have hnoChips : ∀ f ∈ ([] : List RawFrame), f.chip = none := fun f hf =>
      absurd hf List.not_mem_nil
    obtain ⟨frames, hrun, hshown, hsources⟩ := foldlM_bare log.entries hbare
      (parseLogLine_others h) hnoChips
    refine ⟨frames, hrun, fun _ => ⟨Log.oneFramePerEvent_of_shown hshown, hsources⟩,
      fun _ hsome => ?_⟩
    obtain ⟨r, hr, hcapture⟩ := hsome
    rw [hbare r hr] at hcapture
    exact absurd hcapture (by simp)

/-- A log gives one frame for each event, read from that event's lines, exactly when no other line
is taken for a frame and, where events have two lines, no event repeats the one before. Other lines
apart, the repeats alone decide. -/
theorem Log.one_frame_per_event_iff (log : Log u) {text : List Char}
    (htext : splitLines text = log.lines) :
    ((∃ frames, parseLog u text = some frames ∧ log.OneFramePerEvent frames ∧
        log.FromOwnLines frames) ↔ log.OthersUntagged ∧ log.NoRepeats) ∧
      (log.OthersUntagged →
        ((∃ frames, parseLog u text = some frames ∧ log.OneFramePerEvent frames) ↔
          log.NoRepeats)) := by
  have hrepeats (h : log.OthersUntagged) :
      (∃ frames, parseLog u text = some frames ∧ log.OneFramePerEvent frames) ↔
        log.NoRepeats := by
    obtain ⟨frames, hparse, hif, honly⟩ := Log.parseLog_of_untagged htext h
    constructor
    · rintro ⟨frames', hparse', hone⟩
      obtain rfl := Option.some.inj (hparse.symm.trans hparse')
      exact honly hone
    · intro hno
      exact ⟨frames, hparse, (hif hno).1⟩
  refine ⟨⟨?_, ?_⟩, hrepeats⟩
  · rintro ⟨frames, hparse, hone, hsources⟩
    have hrun := hparse
    rw [parseLog, htext] at hrun
    have huntagged : log.OthersUntagged := untagged_of_sources hrun hsources
    exact ⟨huntagged, (hrepeats huntagged).mp ⟨frames, hparse, hone⟩⟩
  · rintro ⟨huntagged, hno⟩
    obtain ⟨frames, hparse, hif, -⟩ := Log.parseLog_of_untagged htext huntagged
    exact ⟨frames, hparse, hif hno⟩

end Runs

/-- A character table of ASCII alone. -/
def asciiTable : CharTable := { PythonIntegers.asciiOnly with isAlnum := fun _ => false }

/-- A call that a neighbouring hub sends. -/
def request : Event where
  direction := .rx
  bytes := [0xC8, 0x00, 0x00, 0x00, 0x3B, 0xC0, 0xFF, 0xEE, 0x28]
  min := by decide
  declared := by decide
  unmasked := by decide

/-- A frame of nine bytes that carries the answer's command. -/
def answer : Event where
  direction := .rx
  bytes := [0x08, 0x00, 0xC0, 0xFF, 0xEE, 0x31, 0xBA, 0xF7, 0x29]
  min := by decide
  declared := by decide
  unmasked := by decide

theorem request_direction : request.direction = .rx := rfl

theorem answer_direction : answer.direction = .rx := rfl

/-- An event that was received, as the radio driver and then the hub log it. -/
def received (e : Event) (h : e.direction = .rx) : Record where
  event := e
  frameLine := ⟨[], by decide, 868950000, 0⟩
  captureLine := some
    { stamp := []
      plain := by decide
      chipName := "sx1262".toList
      named := ⟨by decide, TextPieces.forall_mem_of_all (by decide)⟩
      stage := "parse_ok".toList
      staged := ⟨by decide, TextPieces.forall_mem_of_all (by decide)⟩
      sent := ⟨fun hstage => absurd hstage (by decide),
        fun htx => absurd (h.symm.trans htx) (by decide)⟩
      freq := 868950000
      ts := 22229
      frame := ⟨0xC8, 0, ⟨0, 0, 0x3B⟩, ⟨0xC0, 0xFF, 0xEE⟩, 0x28, [], none, by decide⟩ }
  captureFirst := false

/-- Two events that were received, and a line between them. -/
def heardLog (first second : Event) (hfirst : first.direction = .rx)
    (hsecond : second.direction = .rx) : Log asciiTable where
  entries := [.record (received first hfirst), .other "up".toList,
    .record (received second hsecond)]
  uniform := Or.inl (by simp [Entry.record?, received])
  noRun := by
    intro line hline
    simp only [List.mem_cons, List.not_mem_nil, or_false, reduceCtorEq, false_or,
      Entry.other.injEq] at hline
    subst hline
    decide

theorem plain_of_all {lines : List (List Char)}
    (h : lines.all (fun line => line.all fun ch => !isLineBreak ch) = true) :
    ∀ line ∈ lines, ∀ ch ∈ line, isLineBreak ch = false := by
  intro line hline ch hch
  have hline' := List.all_eq_true.mp h line hline
  have hch' := List.all_eq_true.mp hline' ch hch
  rwa [Bool.not_eq_true'] at hch'

set_option maxRecDepth 8000 in
theorem received_plain {e : Event} (h : e.direction = .rx) (he : e = request ∨ e = answer) :
    ∀ line ∈ (received e h).lines, ∀ ch ∈ line, isLineBreak ch = false := by
  have hrequest : ∀ line ∈ (received request request_direction).lines, ∀ ch ∈ line,
      isLineBreak ch = false := plain_of_all (by decide)
  have hanswer : ∀ line ∈ (received answer answer_direction).lines, ∀ ch ∈ line,
      isLineBreak ch = false := plain_of_all (by decide)
  rcases he with rfl | rfl
  · exact hrequest
  · exact hanswer

theorem splitLines_heardLog {first second : Event} {hfirst : first.direction = .rx}
    {hsecond : second.direction = .rx} (h : first = request ∨ first = answer)
    (h' : second = request ∨ second = answer) :
    splitLines (pasted (heardLog first second hfirst hsecond).lines) =
      (heardLog first second hfirst hsecond).lines := by
  refine splitLines_flatMap fun line hline => ?_
  obtain ⟨entry, hentry, hmem⟩ := List.mem_flatMap.mp hline
  simp only [heardLog, List.mem_cons, List.not_mem_nil, or_false] at hentry
  rcases hentry with rfl | rfl | rfl
  · exact received_plain hfirst h line hmem
  · obtain rfl := List.mem_singleton.mp hmem
    exact TextPieces.forall_mem_of_all (by decide)
  · exact received_plain hsecond h' line hmem

theorem heardLog_othersUntagged {first second : Event} (hfirst : first.direction = .rx)
    (hsecond : second.direction = .rx) : (heardLog first second hfirst hsecond).OthersUntagged := by
  intro line hline
  simp only [heardLog, List.mem_cons, List.not_mem_nil, or_false, reduceCtorEq, false_or,
    Entry.other.injEq] at hline
  subst hline
  exact ⟨by decide, by decide, by decide⟩

/-- Two different events that are heard. -/
def callAndAnswer : Log asciiTable :=
  heardLog request answer request_direction answer_direction

/-- An event that is heard twice, as the copies of a burst are. -/
def repeatedCall : Log asciiTable :=
  heardLog request request request_direction request_direction

theorem Log.one_frame_per_event_callAndAnswer :
    ∃ frames, parseLog asciiTable (pasted callAndAnswer.lines) = some frames ∧
      callAndAnswer.OneFramePerEvent frames ∧ callAndAnswer.FromOwnLines frames :=
  (Log.one_frame_per_event_iff callAndAnswer
    (splitLines_heardLog (Or.inl rfl) (Or.inr rfl))).1.mpr
      ⟨heardLog_othersUntagged _ _, fun _ => by decide⟩

/-- The copies of a burst become one frame. -/
theorem Log.repeated_call_merged :
    repeatedCall.OthersUntagged ∧ repeatedCall.records.length = 2 ∧
      ∃ frames, parseLog asciiTable (pasted repeatedCall.lines) = some frames ∧
        frames.length = 1 ∧ ¬ repeatedCall.OneFramePerEvent frames := by
  have huntagged : repeatedCall.OthersUntagged := heardLog_othersUntagged _ _
  obtain ⟨frames, hrun, hshown, -⟩ := foldlM_paired repeatedCall.entries (by decide)
    (parseLogLine_others huntagged) allPaired_nil
  have hlength : frames.length = 1 := by
    have hone := congrArg List.length hshown
    rw [List.length_map] at hone
    exact hone
  refine ⟨huntagged, rfl, frames, ?_, hlength, fun hone => ?_⟩
  · rw [parseLog, repeatedCall, splitLines_heardLog (Or.inl rfl) (Or.inl rfl)]
    exact hrun
  · have htwo := congrArg List.length hone
    rw [List.length_map, hlength, List.length_map] at htwo
    exact absurd htwo (by decide)

end HomeIoControl.IngestedLogs
