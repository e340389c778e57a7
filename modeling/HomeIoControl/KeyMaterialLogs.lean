import HomeIoControl.ReceptionLogs
import HomeIoControl.SoftPhyReceptions

/-!
# Key material in the log

Two receptions that differ only in the payload of a key-bearing frame. The log tells them apart
exactly when the probes come out differently or the bytes that are printed differ: redaction goes
by the ninth byte of what is printed, and what a failed probe prints is not a frame but its cells.
-/

namespace HomeIoControl.KeyMaterialLogs

open SerialCells ProtocolFrames RadioLinks DeviceRegistries SoftPhy SoftPhyProbes SoftPhyDriver
  SoftPhyReceptions ReceptionLogs

theorem hexCell_injective {a b : UInt8} (h : hexCell a = hexCell b) : a = b :=
  hexByte_injective (List.append_cancel_right h)

theorem flatMap_hexCell_injective {xs ys : List UInt8}
    (h : xs.flatMap hexCell = ys.flatMap hexCell) : xs = ys := by
  induction xs generalizing ys with
  | nil =>
    cases ys with
    | nil => rfl
    | cons y ys => cases h
  | cons x xs ih =>
    cases ys with
    | nil => cases h
    | cons y ys =>
      rw [List.flatMap_cons, List.flatMap_cons] at h
      obtain ⟨hcell, hrest⟩ := List.append_inj h rfl
      rw [hexCell_injective hcell, ih hrest]

/-- No hex digit opens the note of what is masked. -/
theorem bracket_notMem_hex (bytes : List UInt8) : '[' ∉ bytes.flatMap hexCell := by
  have hdigit : ∀ n < 16, hexDigit n ≠ '[' := by decide
  intro hmem
  obtain ⟨b, -, hb⟩ := List.mem_flatMap.mp hmem
  have hbyte := b.toNat_lt
  have hcell : '[' = hexDigit (b.toNat / 16) ∨ '[' = hexDigit (b.toNat % 16) := by
    simpa [hexCell, hexByte] using hb
  rcases hcell with hhigh | hlow
  · exact hdigit _ (by omega) hhigh.symm
  · exact hdigit _ (by omega) hlow.symm

/-- A buffer with room shows every byte. -/
theorem bytesToHexFrom_eq {outSize pos : ℕ} {data : List UInt8}
    (h : pos + 3 * data.length + 1 < outSize) :
    bytesToHexFrom outSize pos data = data.flatMap hexCell := by
  induction data generalizing pos with
  | nil => rfl
  | cons b rest ih =>
    rw [List.length_cons] at h
    rw [bytesToHexFrom, if_pos (by omega), ih (by omega), List.flatMap_cons]

/-- The bytes that a rendered packet shows. -/
def shownBytes (data : List UInt8) : List UInt8 :=
  if IsMasked data then data.take frameMinSize else data

/-- The packets look the same when rendered with their lengths. -/
def Shown (data data' : List UInt8) : Prop :=
  data.length = data'.length ∧ shownBytes data = shownBytes data'

section

variable {data data' : List UInt8}

theorem Shown.symm (h : Shown data data') : Shown data' data := ⟨h.1.symm, h.2.symm⟩

/-- Packets that look the same are the same, or both masked behind the same header. -/
theorem Shown.take_eq (h : Shown data data') :
    data.take frameMinSize = data'.take frameMinSize := by
  obtain ⟨hlength, hshown⟩ := h
  unfold shownBytes at hshown
  split_ifs at hshown with hmask hmask'
  · exact hshown
  · rw [← hshown, List.take_take, Nat.min_self]
  · rw [hshown, List.take_take, Nat.min_self]
  · rw [hshown]

theorem Shown.getD_eq (h : Shown data data') {i : ℕ} (hi : i < frameMinSize) :
    data.getD i 0 = data'.getD i 0 := by
  have hget := congrArg (fun bytes => bytes.getD i 0) h.take_eq
  simpa [List.getD_eq_getElem?_getD, List.getElem?_take_of_lt hi] using hget

theorem renderFrameHexRedacted_of_masked (h : IsMasked data) (outSize : ℕ) :
    renderFrameHexRedacted data outSize = (shownBytes data).flatMap hexCell ++
      ('[' :: (toString (data.length - frameMinSize) ++ " bytes masked]").toList) := by
  have hheader : (data.take frameMinSize).length = frameMinSize := by
    rw [List.length_take, Nat.min_eq_left h.1]
  rw [renderFrameHexRedacted, if_pos h, shownBytes, if_pos h, bytesToHex,
    bytesToHexFrom_eq (by rw [hheader]; decide)]

theorem renderFrameHexRedacted_of_unmasked (h : ¬ IsMasked data)
    (hfits : data.length ≤ radioPacketBufferSize) :
    renderFrameHexRedacted data frameLogHexBufferSize = (shownBytes data).flatMap hexCell := by
  have hroom : 0 + 3 * data.length + 1 < frameLogHexBufferSize := by
    simp only [radioPacketBufferSize, frameLogHexBufferSize] at *
    omega
  rw [renderFrameHexRedacted, if_neg h, shownBytes, if_neg h, bytesToHex,
    bytesToHexFrom_eq hroom]

/-- Packets of one length render alike exactly when they show the same bytes. -/
theorem renderFrameHexRedacted_eq_iff (hlength : data.length = data'.length)
    (hfits : data.length ≤ radioPacketBufferSize) :
    renderFrameHexRedacted data frameLogHexBufferSize =
      renderFrameHexRedacted data' frameLogHexBufferSize ↔ Shown data data' := by
  have hfits' : data'.length ≤ radioPacketBufferSize := hlength ▸ hfits
  have hbracket : ∀ (bytes bytes' : List UInt8) (note : List Char),
      bytes.flatMap hexCell ++ '[' :: note ≠ bytes'.flatMap hexCell := by
    intro bytes bytes' note h
    exact bracket_notMem_hex bytes' (h ▸ List.mem_append_right _ List.mem_cons_self)
  by_cases hmask : IsMasked data <;> by_cases hmask' : IsMasked data'
  · rw [renderFrameHexRedacted_of_masked hmask, renderFrameHexRedacted_of_masked hmask', hlength,
      List.append_left_inj]
    exact ⟨fun h => ⟨hlength, flatMap_hexCell_injective h⟩, fun h => by rw [h.2]⟩
  · rw [renderFrameHexRedacted_of_masked hmask,
      renderFrameHexRedacted_of_unmasked hmask' hfits']
    refine iff_of_false (hbracket _ _ _) ?_
    intro h
    have hcmd := h.getD_eq (show frameCmdOffset < frameMinSize by decide)
    exact hmask' ⟨hlength ▸ hmask.1, hcmd ▸ hmask.2⟩
  · rw [renderFrameHexRedacted_of_unmasked hmask hfits,
      renderFrameHexRedacted_of_masked hmask']
    refine iff_of_false (fun h => hbracket _ _ _ h.symm) ?_
    intro h
    have hcmd := h.getD_eq (show frameCmdOffset < frameMinSize by decide)
    exact hmask ⟨hlength ▸ hmask'.1, hcmd ▸ hmask'.2⟩
  · rw [renderFrameHexRedacted_of_unmasked hmask hfits,
      renderFrameHexRedacted_of_unmasked hmask' hfits']
    exact ⟨fun h => ⟨hlength, flatMap_hexCell_injective h⟩, fun h => by rw [h.2]⟩

/-- Packets look the same that are the same, or differ only behind the header of a masked one. -/
theorem shown_iff : Shown data data' ↔ data.length = data'.length ∧
    data.take frameMinSize = data'.take frameMinSize ∧ (¬ IsMasked data → data = data') := by
  have hmasked (hlength : data.length = data'.length)
      (htake : data.take frameMinSize = data'.take frameMinSize) :
      IsMasked data ↔ IsMasked data' := by
    have hcmd : data.getD frameCmdOffset 0 = data'.getD frameCmdOffset 0 := by
      have hget := congrArg (fun bytes => bytes.getD frameCmdOffset 0) htake
      have hoffset : frameCmdOffset < frameMinSize := by decide
      simpa [List.getD_eq_getElem?_getD, List.getElem?_take_of_lt hoffset] using hget
    unfold IsMasked
    rw [hlength, hcmd]
  constructor
  · intro h
    refine ⟨h.1, h.take_eq, fun hmask => ?_⟩
    have hshown := h.2
    rwa [shownBytes, shownBytes, if_neg hmask, if_neg (mt (hmasked h.1 h.take_eq).mpr hmask)]
      at hshown
  · rintro ⟨hlength, htake, hsame⟩
    refine ⟨hlength, ?_⟩
    by_cases hmask : IsMasked data
    · rw [shownBytes, shownBytes, if_pos hmask, if_pos ((hmasked hlength htake).mp hmask), htake]
    · rw [hsame hmask]

/-- Packets that look the same parse alike. -/
theorem Shown.parse_isSome (h : Shown data data') :
    (parse data).isSome ↔ (parse data').isSome := by
  rw [parse_isSome_iff, parse_isSome_iff, h.1, h.getD_eq (show 0 < frameMinSize by decide),
    h.getD_eq (show 8 < frameMinSize by decide)]

theorem Shown.parse_eq_none (h : Shown data data') : parse data = none ↔ parse data' = none := by
  have hsome := h.parse_isSome
  rw [← Option.not_isSome_iff_eq_none, ← Option.not_isSome_iff_eq_none, hsome]

end

/-- The header of a parsed frame stands in the first bytes of its packet. -/
theorem parse_header {buf : List UInt8} {f : IoFrame} (h : parse buf = some f) :
    f.ctrl0 = buf.getD 0 0 ∧ f.cmd = buf.getD 8 0 ∧
      f.dst = ⟨buf.getD 2 0, buf.getD 3 0, buf.getD 4 0⟩ ∧
      f.src = ⟨buf.getD 5 0, buf.getD 6 0, buf.getD 7 0⟩ := by
  unfold parse at h
  split at h
  · split_ifs at h
    · rw [← Option.some.inj h]
      exact ⟨rfl, rfl, rfl, rfl⟩
    · rw [← Option.some.inj h]
      exact ⟨rfl, rfl, rfl, rfl⟩
  · cases h

section

variable (s : Setting) {data data' : List UInt8}

theorem frameLines_eq_iff (hfits : data.length ≤ radioPacketBufferSize) :
    (frameLines s data).map LogLine.blur = (frameLines s data').map LogLine.blur ↔
      Shown data data' := by
  constructor
  · intro h
    unfold frameLines at h
    split_ifs at h with hempty hempty' hempty'
    · have hboth : data = data' := by
        rw [List.eq_nil_of_length_eq_zero hempty, List.eq_nil_of_length_eq_zero hempty']
      rw [hboth]
      exact ⟨rfl, rfl⟩
    · cases h
    · cases h
    · have hline := (List.cons.inj h).1
      simp only [logFrame, LogLine.blur, LogLine.mk.injEq, List.map_cons, List.map_nil, Arg.blur,
        List.cons.injEq, Arg.number.injEq, Arg.buffer.injEq] at hline
      obtain ⟨-, -, -, -, hlength, -, -, -, hrendered, -⟩ := hline
      exact (renderFrameHexRedacted_eq_iff hlength hfits).mp hrendered
  · intro h
    have hrendered := (renderFrameHexRedacted_eq_iff h.1 hfits).mpr h
    unfold frameLines logFrame
    rw [hrendered, h.1, h.getD_eq (show frameCmdOffset < frameMinSize by decide),
      h.getD_eq (show 1 < frameMinSize by decide)]

private theorem shown_of_captureLine_eq (hfits : data.length ≤ radioPacketBufferSize)
    (h : (captureLine s data).blur = (captureLine s data').blur) : Shown data data' := by
  unfold captureLine at h
  cases hparse : parse data <;> cases hparse' : parse data' <;> rw [hparse, hparse'] at h <;>
    simp only [logComponentCapture, LogLine.blur, LogLine.mk.injEq, List.map_cons, List.map_nil,
      Arg.blur, List.cons.injEq, Arg.number.injEq, Arg.buffer.injEq] at h
  · obtain ⟨-, -, -, -, -, -, -, hlength, hrendered, -⟩ := h
    exact (renderFrameHexRedacted_eq_iff hlength hfits).mp hrendered
  · simp at h
  · simp at h
  · obtain ⟨-, -, -, -, -, -, -, hlength, -, -, -, -, -, -, -, hrendered, -⟩ := h
    exact (renderFrameHexRedacted_eq_iff hlength hfits).mp hrendered

private theorem captureLine_eq_of_shown (hfits : data.length ≤ radioPacketBufferSize)
    (h : Shown data data') : (captureLine s data).blur = (captureLine s data').blur := by
  have hrendered := (renderFrameHexRedacted_eq_iff h.1 hfits).mpr h
  unfold captureLine
  cases hparse : parse data with
  | none =>
    rw [h.parse_eq_none.mp hparse]
    simp only [logComponentCapture, hrendered, h.1]
  | some f =>
    obtain ⟨f', hparse'⟩ := Option.isSome_iff_exists.mp (h.parse_isSome.mp (by rw [hparse]; rfl))
    obtain ⟨-, hcmd, hdst, hsrc⟩ := parse_header hparse
    obtain ⟨-, hcmd', hdst', hsrc'⟩ := parse_header hparse'
    have hget : ∀ i < 9, data.getD i 0 = data'.getD i 0 := fun i hi => h.getD_eq hi
    rw [hparse']
    simp only [logComponentCapture, hrendered, h.1, hcmd, hdst, hsrc, hcmd', hdst', hsrc',
      hget 2 (by decide), hget 3 (by decide), hget 4 (by decide), hget 5 (by decide),
      hget 6 (by decide), hget 7 (by decide), hget 8 (by decide)]

/-- The capture shows of a packet what its hex shows. -/
theorem captureLine_eq_iff (hfits : data.length ≤ radioPacketBufferSize) :
    (captureLine s data).blur = (captureLine s data').blur ↔ Shown data data' :=
  ⟨shown_of_captureLine_eq s hfits, captureLine_eq_of_shown s hfits⟩

/-- A packet is delivered and does not parse. -/
def Unparsed (data : List UInt8) : Prop := data.length ≠ 0 ∧ parse data = none

theorem Shown.unparsed (h : Shown data data') : Unparsed data ↔ Unparsed data' := by
  unfold Unparsed
  rw [h.1, h.parse_eq_none]

theorem listenerLines_idle_eq_iff (hidle : s.listener = .idle)
    (hfits : data.length ≤ radioPacketBufferSize) :
    (listenerLines s data).map LogLine.blur = (listenerLines s data').map LogLine.blur ↔
      Shown data data' := by
  unfold listenerLines
  rw [hidle]
  split_ifs with hempty hempty' hempty'
  · rw [List.eq_nil_of_length_eq_zero hempty, List.eq_nil_of_length_eq_zero hempty']
    exact iff_of_true rfl ⟨rfl, rfl⟩
  · exact iff_of_false (fun h => nomatch h) fun h => hempty' (h.1 ▸ hempty)
  · exact iff_of_false (fun h => nomatch h) fun h => hempty (h.1.trans hempty')
  · rw [← captureLine_eq_iff s hfits]
    simp only [List.map_cons, List.map_nil, List.cons.injEq, and_true]

/-- An exchange's lines are about packets that do not parse, and show their length and, where frames
are logged, their bytes. -/
theorem listenerLines_awaiting (data : List UInt8) {stage : String} {tries : ℕ}
    (hawaiting : s.listener = .awaiting stage tries) :
    (Unparsed data → listenerLines s data = logUnparsableFrame s stage tries data) ∧
      (¬ Unparsed data → listenerLines s data = []) := by
  unfold listenerLines Unparsed
  rw [hawaiting]
  constructor
  · rintro ⟨hlength, hparse⟩
    rw [if_neg hlength, hparse]
  · intro hnot
    split_ifs with hempty
    · rfl
    · cases hparse : parse data with
      | none => exact absurd ⟨hempty, hparse⟩ hnot
      | some f => rfl

theorem listenerLines_awaiting_eq_iff {stage : String} {tries : ℕ}
    (hawaiting : s.listener = .awaiting stage tries)
    (hfits : data.length ≤ radioPacketBufferSize) :
    (listenerLines s data).map LogLine.blur = (listenerLines s data').map LogLine.blur ↔
      (Unparsed data ↔ Unparsed data') ∧ (Unparsed data → data.length = data'.length ∧
        (s.frameLog = true → Shown data data')) := by
  obtain ⟨hlines, hnone⟩ := listenerLines_awaiting s data hawaiting
  obtain ⟨hlines', hnone'⟩ := listenerLines_awaiting s data' hawaiting
  by_cases hunparsed : Unparsed data <;> by_cases hunparsed' : Unparsed data'
  · rw [hlines hunparsed, hlines' hunparsed']
    simp only [hunparsed, hunparsed', true_and, forall_const, logUnparsableFrame, List.map_cons,
      LogLine.blur, List.map_nil, Arg.blur, List.cons.injEq, LogLine.mk.injEq, Arg.number.injEq,
      and_true]
    refine and_congr_right fun hlength => ?_
    cases s.frameLog with
    | false => simp
    | true =>
      rw [← renderFrameHexRedacted_eq_iff hlength hfits]
      simp [LogLine.blur, Arg.blur]
  · rw [hlines hunparsed, hnone' hunparsed']
    exact iff_of_false (fun h => nomatch h) fun h => hunparsed' (h.1.mp hunparsed)
  · rw [hnone hunparsed, hlines' hunparsed']
    exact iff_of_false (fun h => nomatch h) fun h => hunparsed (h.1.mpr hunparsed')
  · rw [hnone hunparsed, hnone' hunparsed']
    exact iff_of_true rfl ⟨iff_of_false hunparsed hunparsed', fun h => absurd h hunparsed⟩

end

namespace CrcCheck

/-- What a check shows besides the checksums. -/
def shown (check : CrcCheck) : ℕ × UInt8 × Bool :=
  (check.candidateLen, check.cmd, check.computed = check.received)

end CrcCheck

theorem crcCheckLine_eq_iff (check check' : CrcCheck) :
    (crcCheckLine check).blur = (crcCheckLine check').blur ↔
      CrcCheck.shown check = CrcCheck.shown check' := by
  simp only [crcCheckLine, LogLine.blur, LogLine.mk.injEq, List.map_cons, List.map_nil, Arg.blur,
    List.cons.injEq, Arg.number.injEq, Arg.string.injEq, CrcCheck.shown, Prod.mk.injEq,
    UInt8.toNat_inj, true_and, and_true]
  by_cases hmatch : check.computed = check.received <;>
    by_cases hmatch' : check'.computed = check'.received <;> simp [hmatch, hmatch']

/-- Both probes find a frame, at the same place of decodes of the same length. -/
def FoundAlike (raw raw' : List UInt8) : Prop :=
  (findUartProbe raw).valid = true ∧ (findUartProbe raw').valid = true ∧
    (findUartProbe raw).bitOffset = (findUartProbe raw').bitOffset ∧
    (findUartProbe raw).frameStart = (findUartProbe raw').frameStart ∧
    (findUartProbe raw).frameLen = (findUartProbe raw').frameLen ∧
    (findUartProbe raw).decoded.length = (findUartProbe raw').decoded.length

/-- Neither probe finds a frame, the windows agree in the raw bytes that are shown, and the longest
decodes begin with frames of one length and command or with none. -/
def LostAlike (s : Setting) (raw raw' : List UInt8) : Prop :=
  (findUartProbe raw).valid = false ∧ (findUartProbe raw').valid = false ∧
    raw.take (dumpLen s) = raw'.take (dumpLen s) ∧
    (crcCheck (findUartProbe raw).decoded).map CrcCheck.shown =
      (crcCheck (findUartProbe raw').decoded).map CrcCheck.shown

theorem probeLines_eq_iff (s : Setting) (raw raw' : List UInt8) :
    (probeLines s raw).map LogLine.blur = (probeLines s raw').map LogLine.blur ↔
      FoundAlike raw raw' ∨ LostAlike s raw raw' := by
  unfold probeLines FoundAlike LostAlike
  dsimp only
  cases hvalid : (findUartProbe raw).valid <;> cases hvalid' : (findUartProbe raw').valid
  · have hchecks : (((crcCheck (findUartProbe raw).decoded).map crcCheckLine).toList.map
        LogLine.blur = ((crcCheck (findUartProbe raw').decoded).map crcCheckLine).toList.map
        LogLine.blur) ↔ (crcCheck (findUartProbe raw).decoded).map CrcCheck.shown =
          (crcCheck (findUartProbe raw').decoded).map CrcCheck.shown := by
      cases crcCheck (findUartProbe raw).decoded <;>
        cases crcCheck (findUartProbe raw').decoded <;> simp [crcCheckLine_eq_iff]
    have hdump : (raw.take (dumpLen s)).flatMap hexCell = (raw'.take (dumpLen s)).flatMap hexCell ↔
        raw.take (dumpLen s) = raw'.take (dumpLen s) :=
      ⟨flatMap_hexCell_injective, fun h => by rw [h]⟩
    rw [← hchecks, ← hdump]
    simp [LogLine.blur, Arg.blur]
  · simp [LogLine.blur]
  · simp [LogLine.blur]
  · simp [LogLine.blur, Arg.blur]

/-- The probes that decide come out alike. -/
def AlikeProbed (s : Setting) (w w' : Windows) : Prop :=
  match w.earlyProbe, w'.earlyProbe with
  | some _, some _ => True
  | none, none => FoundAlike w.raw w'.raw ∨ LostAlike s w.raw w'.raw
  | _, _ => False

theorem receiveLines_eq_iff (s : Setting) (w w' : Windows) :
    (receiveLines s w).map LogLine.blur = (receiveLines s w').map LogLine.blur ↔
      AlikeProbed s w w' := by
  have hearly : ∀ raw, (probeLines s raw).map LogLine.blur ≠ [(earlyLine s).blur] := by
    intro raw
    unfold probeLines earlyLine
    dsimp only
    split_ifs <;> simp [LogLine.blur]
  unfold receiveLines AlikeProbed
  cases w.earlyProbe <;> cases w'.earlyProbe
  · exact probeLines_eq_iff s w.raw w'.raw
  · exact iff_of_false (hearly w.raw) id
  · exact iff_of_false (fun h => hearly w'.raw h.symm) id
  · exact iff_of_true rfl trivial

/-- Lists whose parts a predicate tells apart are equal part by part. -/
private theorem append_eq_append_iff_of_filter {α : Type} {p : α → Bool} {xs xs' ys ys' : List α}
    (hxs : ∀ x ∈ xs, p x = true) (hxs' : ∀ x ∈ xs', p x = true)
    (hys : ∀ y ∈ ys, p y = false) (hys' : ∀ y ∈ ys', p y = false) :
    xs ++ ys = xs' ++ ys' ↔ xs = xs' ∧ ys = ys' := by
  constructor
  · intro h
    have hfront := congrArg (List.filter p) h
    rw [List.filter_append, List.filter_append, List.filter_eq_self.mpr hxs,
      List.filter_eq_self.mpr hxs', List.filter_eq_nil_iff.mpr (by simpa using hys),
      List.filter_eq_nil_iff.mpr (by simpa using hys'), List.append_nil, List.append_nil] at hfront
    rw [hfront] at h
    exact ⟨hfront, List.append_cancel_left h⟩
  · rintro ⟨rfl, rfl⟩
    rfl

private theorem receiveLines_tag (s : Setting) (w : Windows) :
    ∀ line ∈ (receiveLines s w).map LogLine.blur, line.tag = softPhyTag := by
  unfold receiveLines probeLines
  dsimp only
  split
  · simp [earlyLine, LogLine.blur]
  · split_ifs
    · simp [LogLine.blur]
    · cases crcCheck (findUartProbe w.raw).decoded <;> simp [crcCheckLine, LogLine.blur]

private theorem frameLines_tag (s : Setting) (packet : List UInt8) :
    ∀ line ∈ (frameLines s packet).map LogLine.blur, line.tag = frameTag := by
  unfold frameLines
  split_ifs <;> simp [logFrame, LogLine.blur]

private theorem listenerLines_tag (s : Setting) (packet : List UInt8) :
    ∀ line ∈ (listenerLines s packet).map LogLine.blur,
      line.tag = captureTag ∨ line.tag = exchangeTag := by
  unfold listenerLines
  by_cases hempty : packet.length = 0
  · rw [if_pos hempty]
    exact fun line hline => nomatch hline
  · rw [if_neg hempty]
    cases s.listener with
    | idle =>
      cases hparse : parse packet <;>
        simp [captureLine, hparse, logComponentCapture, LogLine.blur]
    | awaiting stage tries =>
      cases parse packet with
      | none =>
        unfold logUnparsableFrame
        split_ifs <;> simp [LogLine.blur]
      | some f => exact fun line hline => nomatch hline

/-- The lines about the probe, the frame and the packet are told apart by their tags. -/
private theorem parts_eq_iff (s : Setting) (w w' : Windows) (packet packet' : List UInt8) :
    (receiveLines s w).map LogLine.blur ++
        ((frameLines s packet).map LogLine.blur ++ (listenerLines s packet).map LogLine.blur) =
      (receiveLines s w').map LogLine.blur ++
        ((frameLines s packet').map LogLine.blur ++ (listenerLines s packet').map LogLine.blur) ↔
    (receiveLines s w).map LogLine.blur = (receiveLines s w').map LogLine.blur ∧
      (frameLines s packet).map LogLine.blur = (frameLines s packet').map LogLine.blur ∧
      (listenerLines s packet).map LogLine.blur = (listenerLines s packet').map LogLine.blur := by
  have hprobe : ∀ w, ∀ line ∈ (receiveLines s w).map LogLine.blur,
      (line.tag == softPhyTag) = true := by
    intro w line hline
    rw [receiveLines_tag s w line hline]
    exact beq_self_eq_true _
  have hrest : ∀ packet, ∀ line ∈ (frameLines s packet).map LogLine.blur ++
      (listenerLines s packet).map LogLine.blur, (line.tag == softPhyTag) = false := by
    intro packet line hline
    rcases List.mem_append.mp hline with hline | hline
    · rw [frameLines_tag s packet line hline]
      decide
    · rcases listenerLines_tag s packet line hline with htag | htag <;> rw [htag] <;> decide
  have hframe : ∀ packet, ∀ line ∈ (frameLines s packet).map LogLine.blur,
      (line.tag == frameTag) = true := by
    intro packet line hline
    rw [frameLines_tag s packet line hline]
    exact beq_self_eq_true _
  have hlistener : ∀ packet, ∀ line ∈ (listenerLines s packet).map LogLine.blur,
      (line.tag == frameTag) = false := by
    intro packet line hline
    rcases listenerLines_tag s packet line hline with htag | htag <;> rw [htag] <;> decide
  rw [append_eq_append_iff_of_filter (hprobe w) (hprobe w') (hrest _) (hrest _),
    append_eq_append_iff_of_filter (hframe _) (hframe _) (hlistener _) (hlistener _)]

theorem delivered_length_le (s : Setting) (w : Windows) :
    (delivered s w).length ≤ radioPacketBufferSize := by
  unfold delivered
  cases hearly : w.earlyProbe with
  | none => exact recoverPacket_length_le _ _
  | some probe =>
    unfold Windows.earlyProbe at hearly
    obtain ⟨raw, -, hprobe⟩ := Option.map_eq_some_iff.mp (Option.filter_eq_some_iff.mp hearly).1
    rw [← hprobe]
    exact frame_length_le raw

/-- What is logged of a full window is the packet that the driver delivers from it. -/
theorem delivered_of_fromWindow {s : Setting} {r : Reception} (h : FromWindow r)
    (hreported : r.capture.reportedLen = s.reportedLen) :
    delivered s ⟨none, r.capture.raw⟩ = r.packet.data := by
  rw [h, hreported]
  rfl

/-- And so of an early window that holds a frame. -/
theorem delivered_of_early (s : Setting) {r : Reception} (h : FromWindow r)
    (hvalid : (findUartProbe r.capture.raw).valid = true) (raw : List UInt8) :
    delivered s ⟨some r.capture.raw, raw⟩ = r.packet.data := by
  have hprobe : Windows.earlyProbe ⟨some r.capture.raw, raw⟩ =
      some (findUartProbe r.capture.raw) := Option.filter_eq_some_iff.mpr ⟨rfl, hvalid⟩
  have hpacket : r.packet.data = (findUartProbe r.capture.raw).frame := by
    rw [h, recoverPacket, if_pos hvalid]
  rw [delivered, hprobe, hpacket]

/-- Of a lost frame the raw bytes are delivered. -/
theorem delivered_of_lost {s : Setting} {w : Windows} (hearly : w.early = none)
    (hlost : (findUartProbe w.raw).valid = false) :
    delivered s w = w.raw.take (min s.reportedLen frameMaxWireSize) := by
  have hprobe : w.earlyProbe = none := by rw [Windows.earlyProbe, hearly]; rfl
  rw [delivered, hprobe]
  dsimp only
  rw [recoverPacket, if_neg (by rw [hlost]; exact Bool.false_ne_true)]

/-- The receptions look alike: where frames are logged, to the probes; where bytes are shown, in
the packets as redacted; and an exchange finds neither unparsable, or both with one length. -/
structure Alike (s : Setting) (w w' : Windows) : Prop where
  probed : s.frameLog = true → AlikeProbed s w w'
  shown : s.frameLog = true ∨ s.listener = .idle → Shown (delivered s w) (delivered s w')
  unparsed : (Unparsed (delivered s w) ↔ Unparsed (delivered s w')) ∧
    (Unparsed (delivered s w) → (delivered s w).length = (delivered s w').length)

theorem listenerLines_eq_iff (s : Setting) {data : List UInt8} (data' : List UInt8)
    (hfits : data.length ≤ radioPacketBufferSize) :
    (listenerLines s data).map LogLine.blur = (listenerLines s data').map LogLine.blur ↔
      (s.listener = .idle → Shown data data') ∧
      ((Unparsed data ↔ Unparsed data') ∧ (Unparsed data → data.length = data'.length)) ∧
      (s.frameLog = true → Unparsed data → Shown data data') := by
  cases hlistener : s.listener with
  | idle =>
    rw [listenerLines_idle_eq_iff s hlistener hfits]
    exact ⟨fun h => ⟨fun _ => h, ⟨h.unparsed, fun _ => h.1⟩, fun _ _ => h⟩, fun h => h.1 rfl⟩
  | awaiting stage tries =>
    rw [listenerLines_awaiting_eq_iff s hlistener hfits]
    constructor
    · rintro ⟨hunparsed, hshown⟩
      exact ⟨nofun, ⟨hunparsed, fun h => (hshown h).1⟩, fun hlog h => (hshown h).2 hlog⟩
    · rintro ⟨-, ⟨hunparsed, hlength⟩, hshown⟩
      exact ⟨hunparsed, fun h => ⟨hlength h, fun hlog => hshown hlog h⟩⟩

/-- Two logs are the same, up to checksums and error positions, exactly when the receptions look
alike. -/
theorem visibleLog_eq_iff (s : Setting) (w w' : Windows) :
    visibleLog s w = visibleLog s w' ↔ Alike s w w' := by
  have hfits := delivered_length_le s w
  have hlistener := listenerLines_eq_iff s (delivered s w') hfits
  unfold visibleLog receptionLog
  rw [List.map_append, List.map_append]
  cases hlog : s.frameLog with
  | false =>
    rw [if_neg Bool.false_ne_true, if_neg Bool.false_ne_true, List.map_nil, List.nil_append,
      List.nil_append, hlistener, hlog]
    constructor
    · rintro ⟨hshown, hunparsed, -⟩
      refine ⟨fun h => ?_, fun h => hshown (h.resolve_left ?_), hunparsed⟩
      · rw [hlog] at h
        cases h
      · rw [hlog]
        exact Bool.false_ne_true
    · intro h
      exact ⟨fun hidle => h.shown (.inr hidle), h.unparsed, nofun⟩
  | true =>
    rw [if_pos rfl, if_pos rfl, List.map_append, List.map_append, List.append_assoc,
      List.append_assoc, parts_eq_iff, receiveLines_eq_iff, frameLines_eq_iff s hfits, hlistener]
    constructor
    · rintro ⟨hprobed, hshown, -, hunparsed, -⟩
      exact ⟨fun _ => hprobed, fun _ => hshown, hunparsed⟩
    · intro h
      have hshown := h.shown (.inl hlog)
      exact ⟨h.probed hlog, hshown, fun _ => hshown, h.unparsed, fun _ _ => hshown⟩

end HomeIoControl.KeyMaterialLogs
