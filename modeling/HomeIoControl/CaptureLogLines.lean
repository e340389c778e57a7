import HomeIoControl.FrameLogLines

/-!
# The structured log line of a frame, read back

The structured tag names the chip and the stage before the fields of the frame, and the bytes come
last. The direction is the stage's.
-/

namespace HomeIoControl.CaptureLogLines

open BacktrackingRegexes BacktrackingRegexes.Regex ProtocolFrames CorpusFrames PythonIntegers
  LogIngestion FrameLogLines
open DeviceRegistries (hexByte)
open ReceptionLogs (IsMasked)

/-- A word without white space. -/
def IsName (name : List Char) : Prop := name ≠ [] ∧ ∀ ch ∈ name, isSpace ch = false

section Fields

variable {u : CharTable} {rest word others : List Char} {found : List (Field × List Char)}
  {rs : List (Regex Field)}

/-- A field behind a space. -/
theorem takes_field (key : String) (g : Field) {r : Regex Field}
    (hkey : key.toList.head?.any (fun ch => !isSpace ch) = true)
    (hr : Takes r word [] (others ++ rest)) (hrs : Takes (sequence rs) others found rest) :
    Takes (sequence (spaces :: text key :: capture g r :: rs))
      ([' '] ++ (key.toList ++ (word ++ others))) (found ++ [(g, word)]) rest := by
  obtain ⟨first, hfirst, hspace⟩ := (Option.any_eq_true _ _).mp hkey
  have hgap : Takes spaces [' '] [] ((key.toList ++ (word ++ others)) ++ rest) := by
    refine takes_spaces fun ch hch => ?_
    rw [List.append_assoc, List.head?_append, hfirst] at hch
    obtain rfl := Option.some.inj hch
    simpa using hspace
  have hfield := takes_sequence_cons (takes_capture g hr) hrs
  have hkeyed := takes_sequence_cons (takes_text key _) hfield
  have hwhole := takes_sequence_cons hgap hkeyed
  rwa [List.append_nil, List.append_nil] at hwhole

theorem head_space {rest : List Char} : ∀ ch, (' ' :: rest).head? = some ch → isSpace ch = true :=
  head_of_cons rfl

theorem takes_hexDigits (b : UInt8) (rest : List Char) :
    Takes (plus hexDigit) (hexByte b) [] (' ' :: rest) :=
  takes_plus_char (by simp [hexByte]) (fun _ hch => isHexDigit_of_mem hch)
    (head_of_cons (by decide))

theorem takes_nodeHex (id : NodeId) (rest : List Char) :
    Takes (times 6 hexDigit) (nodeHex id) [] rest := by
  have hdigits : ∀ ch ∈ nodeHex id, isHexDigit ch = true := by
    intro ch hch
    simp only [nodeHex, List.mem_append] at hch
    rcases hch with h | h | h <;> exact isHexDigit_of_mem h
  have hsix : Takes (times (nodeHex id).length hexDigit) (nodeHex id) [] rest :=
    takes_times_char hdigits rest
  exact hsix

theorem takes_payload (bytes : List UInt8) :
    Takes (sequence [spaces, text "payload=", payloadField])
      ([' '] ++ ("payload=".toList ++ (hexText bytes ++ [' '])))
      [(.payload, hexText bytes ++ [' '])] [] := by
  have hmem : ∀ ch ∈ hexText bytes ++ [' '], (isHexDigit ch || ch = ' ') = true := by
    intro ch hch
    rcases List.mem_append.mp hch with h | h
    · by_contra hnot
      simp only [Bool.or_eq_true, decide_eq_true_eq, not_or, Bool.not_eq_true] at hnot
      exact not_mem_hexText hnot.1 hnot.2 bytes h
    · obtain rfl := List.mem_singleton.mp h
      rfl
  have hrun : Takes (plus (char fun ch => isHexDigit ch || ch = ' ') : Regex Field)
      (hexText bytes ++ [' ']) [] [] := takes_plus_char (by simp) hmem (by simp)
  have hpayload : Takes payloadField (hexText bytes ++ [' ']) [(.payload, hexText bytes ++ [' '])]
      [] := takes_capture Field.payload hrun
  have hgap : Takes spaces [' '] [] (("payload=".toList ++ (hexText bytes ++ [' '])) ++ []) :=
    takes_spaces (head_of_cons rfl)
  have hkeyed := takes_sequence_cons (takes_text "payload=" _) (takes_sequence_singleton hpayload)
  exact takes_sequence_cons hgap hkeyed

end Fields

/-- The text that the expression of the structured tag takes. -/
def captureWord (chipName stage : List Char) (freq ts len : ℕ) (frame : IoFrame)
    (bytes : List UInt8) : List Char :=
  "chip=".toList ++ (chipName ++ ([' '] ++ ("phase=component".toList ++
    ([' '] ++ ("stage=".toList ++ (stage ++
    ([' '] ++ ("freq=".toList ++ (unsignedText freq ++
    ([' '] ++ ("ts=".toList ++ (unsignedText ts ++
    ([' '] ++ ("len=".toList ++ (unsignedText len ++
    ([' '] ++ ("cmd=0x".toList ++ (hexByte frame.cmd ++
    ([' '] ++ ("src=".toList ++ (nodeHex frame.src ++
    ([' '] ++ ("dst=".toList ++ (nodeHex frame.dst ++
    ([' '] ++ ("payload=".toList ++ (hexText bytes ++ [' '])))))))))))))))))))))))))))

section Line

variable {u : CharTable} {chipName stage : List Char}

theorem takes_ioCapture (hchip : IsName chipName) (hstage : IsName stage) (freq ts len : ℕ)
    (frame : IoFrame) (bytes : List UInt8) :
    ∃ found, Takes (ioCaptureWithFrame u) (captureWord chipName stage freq ts len frame bytes)
        found [] ∧
      found.lookup .chip = some chipName ∧ found.lookup .stage = some stage ∧
      found.lookup .payload = some (hexText bytes ++ [' ']) ∧
      found.lookup .src = some (nodeHex frame.src) ∧
      found.lookup .dst = some (nodeHex frame.dst) := by
  have hdigits (n : ℕ) (text : List Char) : Takes (digits u) (unsignedText n) [] (' ' :: text) :=
    takes_digits n (head_of_cons (isDigit_space u))
  have hname {name : List Char} (h : IsName name) (text : List Char) :
      Takes LogIngestion.word name [] (' ' :: text) := takes_word h.1 h.2 head_space
  have hpayload := takes_payload bytes
  generalize hpayloadText : "payload=".toList ++ (hexText bytes ++ [' ']) = payload at hpayload
  have hdst := takes_field "dst=" .dst (by decide) (takes_nodeHex frame.dst _) hpayload
  generalize hdstText : "dst=".toList ++ (nodeHex frame.dst ++ ([' '] ++ payload)) = dst at hdst
  have hsrc := takes_field "src=" .src (by decide) (takes_nodeHex frame.src _) hdst
  generalize hsrcText : "src=".toList ++ (nodeHex frame.src ++ ([' '] ++ dst)) = src at hsrc
  have hcmd := takes_field "cmd=0x" .cmd (by decide) (takes_hexDigits frame.cmd _) hsrc
  generalize hcmdText : "cmd=0x".toList ++ (hexByte frame.cmd ++ ([' '] ++ src)) = cmd at hcmd
  have hlen := takes_field "len=" .len (by decide) (hdigits len _) hcmd
  generalize hlenText : "len=".toList ++ (unsignedText len ++ ([' '] ++ cmd)) = counted at hlen
  have hts := takes_field "ts=" .ts (by decide) (hdigits ts _) hlen
  generalize htsText : "ts=".toList ++ (unsignedText ts ++ ([' '] ++ counted)) = timed at hts
  have hfreq := takes_field "freq=" .freq (by decide) (hdigits freq _) hts
  generalize hfreqText : "freq=".toList ++ (unsignedText freq ++ ([' '] ++ timed)) = tuned at hfreq
  have hstaged := takes_field "stage=" .stage (by decide) (hname hstage _) hfreq
  generalize hstageText : "stage=".toList ++ (stage ++ ([' '] ++ tuned)) = staged at hstaged
  have hphase := takes_sequence_cons (takes_text "phase=component" _) hstaged
  have hgap : Takes spaces [' '] [] (("phase=component".toList ++ ([' '] ++ staged)) ++ []) :=
    takes_spaces (head_of_cons rfl)
  have hspaced := takes_sequence_cons hgap hphase
  have hchipped := takes_sequence_cons (takes_capture .chip (hname hchip _)) hspaced
  have hwhole := takes_sequence_cons (takes_text "chip=" _) hchipped
  subst hstageText hfreqText htsText hlenText hcmdText hsrcText hdstText hpayloadText
  exact ⟨_, hwhole, rfl, rfl, rfl, rfl, rfl⟩

theorem logComponentCapture_eq {freq ts : UInt32} {buf : List UInt8} {frame : IoFrame}
    (hne : buf ≠ []) (hfits : buf.length ≤ RadioLinks.radioPacketBufferSize)
    (hmask : ¬ IsMasked buf) :
    logComponentCapture chipName stage freq ts buf frame =
      captureWord chipName stage freq.toNat ts.toNat buf.length frame buf := by
  have hphase : " phase=component stage=".toList =
      [' '] ++ ("phase=component".toList ++ ([' '] ++ "stage=".toList)) := rfl
  have hfreq : " freq=".toList = [' '] ++ "freq=".toList := rfl
  have hts : " ts=".toList = [' '] ++ "ts=".toList := rfl
  have hlen : " len=".toList = [' '] ++ "len=".toList := rfl
  have hcmd : " cmd=0x".toList = [' '] ++ "cmd=0x".toList := rfl
  have hsrc : " src=".toList = [' '] ++ "src=".toList := rfl
  have hdst : " dst=".toList = [' '] ++ "dst=".toList := rfl
  have hpayload : " payload=".toList = [' '] ++ "payload=".toList := rfl
  rw [logComponentCapture, renderFrameHexRedacted_eq hne hfits hmask, captureWord, hphase, hfreq,
    hts, hlen, hcmd, hsrc, hdst, hpayload]
  simp only [List.flatten_cons, List.flatten_nil, List.append_assoc, List.append_nil]

theorem parseHex_nodeHex (id : NodeId) :
    parseHex (String.ofList (nodeHex id)) = some [id.b0, id.b1, id.b2] := by
  have hflat : nodeHex id = [id.b0, id.b1, id.b2].flatMap hexByte := by simp [nodeHex]
  have hall : ∀ ch ∈ nodeHex id, (!isSpace ch) = true := by
    intro ch hch
    obtain ⟨b, -, hb⟩ := List.mem_flatMap.mp (hflat ▸ hch)
    have hhead : isSpace ch = false := isSpace_of_mem hb
    simp [hhead]
  rw [parseHex, String.toList_ofList, List.filter_eq_self.mpr hall, hflat,
    DeviceRegistries.hexPairs_flatMap]

/-- The bytes read back, with blanks behind them or not. -/
theorem parseHex_hexText (bytes : List UInt8) {blanks : List Char}
    (hblanks : ∀ ch ∈ blanks, isSpace ch = true) :
    parseHex (String.ofList (hexText bytes ++ blanks)) = some bytes := by
  have hnone : blanks.filter (fun ch => !isSpace ch) = [] :=
    List.filter_eq_nil_iff.mpr fun ch hch => by simp [hblanks ch hch]
  rw [parseHex, String.toList_ofList, List.filter_append, hnone, List.append_nil, hexText,
    filter_intercalate, DeviceRegistries.hexPairs_flatMap]

/-- Where the bytes and the addresses read, the cross-check comes to a verdict. -/
theorem ioCaptureMetadataAgrees_of_reads {m : Match Field} {payload dst src : List UInt8}
    (hpayload : parseHex (String.ofList (Match.field m .payload)) = some payload)
    (hdst : parseHex (String.ofList (Match.field m .dst)) = some dst)
    (hsrc : parseHex (String.ofList (Match.field m .src)) = some src) :
    ∃ agrees, ioCaptureMetadataAgrees u m = some agrees := by
  rw [ioCaptureMetadataAgrees, hpayload, hdst, hsrc]
  simp only []
  split_ifs <;> exact ⟨_, rfl⟩

theorem parseLogLine_of_ioCapture {line : List Char} {m : Match Field} {agrees : Bool}
    (h : (ioCaptureWithFrame u).search line = some m)
    (hagrees : ioCaptureMetadataAgrees u m = some agrees) :
    parseLogLine u line = some (some
      { direction := if Match.field m .stage = "tx_frame".toList then .tx else .rx
        hexBytes := strip (Match.field m .payload)
        freq := decimalValue u (Match.field m .freq)
        tMs := wallClockMs u line
        chip := some (Match.field m .chip)
        unverified := !agrees
        sourceLine := line }) := by
  simp only [parseLogLine, h, hagrees]
  rfl

/-- The line of the structured tag gives the stage's direction, the bytes and the chip. -/
theorem parseLogLine_logComponentCapture {stamp : List Char} {direction : Direction}
    {freq ts : UInt32} {buf : List UInt8} {frame : IoFrame} (hstamp : '=' ∉ stamp)
    (hchip : IsName chipName) (hstage : IsName stage)
    (hdirection : stage = "tx_frame".toList ↔ direction = .tx) (hne : buf ≠ [])
    (hfits : buf.length ≤ RadioLinks.radioPacketBufferSize) (hmask : ¬ IsMasked buf) :
    ∃ raw, parseLogLine u (stamp ++ logComponentCapture chipName stage freq ts buf frame) =
        some (some raw) ∧
      raw.direction = direction ∧ raw.hexBytes = hexText buf ∧ raw.chip = some chipName ∧
      raw.sourceLine = stamp ++ logComponentCapture chipName stage freq ts buf frame := by
  rw [logComponentCapture_eq hne hfits hmask]
  obtain ⟨found, htakes, hchipFound, hstageFound, hpayload, hsrc, hdst⟩ :=
    takes_ioCapture (u := u) hchip hstage freq.toNat ts.toNat buf.length frame buf
  generalize hword : captureWord chipName stage freq.toNat ts.toNat buf.length frame buf = word
    at htakes
  obtain ⟨others, hcons⟩ : ∃ others, word = ['c', 'h', 'i', 'p'] ++ others := ⟨_, hword.symm⟩
  have hskip : ∀ front back, stamp = front ++ back → back ≠ [] →
      (ioCaptureWithFrame u).reads ⟨⟨front.reverse, back ++ (word ++ [])⟩, []⟩ = [] := by
    intro front back hsplit hback
    refine reads_seq_of_nil (reads_literal_nil ?_)
    have htext : back ++ (word ++ []) = (back ++ ['c', 'h', 'i', 'p']) ++ others := by
      rw [hcons]
      simp
    rw [htext]
    have hpos := List.length_pos_iff.mpr hback
    have hmark : '=' ∈ "chip=".toList := by decide
    refine not_prefix_of_mark hmark ?_ ?_
    · rw [List.mem_append, not_or]
      exact ⟨fun h => hstamp (by rw [hsplit]; exact List.mem_append_right _ h), by decide⟩
    · rw [List.length_append]
      have hfive : "chip=".toList.length = 5 := rfl
      rw [hfive, List.length_cons, List.length_cons, List.length_cons, List.length_singleton]
      omega
  have hsearch := search_of_takes htakes (by rw [hcons]; exact List.cons_ne_nil _ _) hskip
  rw [List.append_nil] at hsearch
  have hfield (g : Field) {value : List Char} (h : found.lookup g = some value) :
      ∀ m, (ioCaptureWithFrame u).search (stamp ++ word) = some m → Match.field m g = value := by
    intro m hm
    obtain rfl := Option.some.inj (hsearch.symm.trans hm)
    simp [Match.field, Reading.group, h]
  have hblank : ∀ ch ∈ [' '], isSpace ch = true := TextPieces.forall_mem_of_all (by decide)
  obtain ⟨agrees, hagrees⟩ := ioCaptureMetadataAgrees_of_reads (u := u)
    (by rw [hfield .payload hpayload _ hsearch]; exact parseHex_hexText buf hblank)
    (by rw [hfield .dst hdst _ hsearch]; exact parseHex_nodeHex frame.dst)
    (by rw [hfield .src hsrc _ hsearch]; exact parseHex_nodeHex frame.src)
  refine ⟨_, parseLogLine_of_ioCapture hsearch hagrees, ?_, ?_, ?_, rfl⟩
  · simp only [hfield .stage hstageFound _ hsearch]
    by_cases htx : direction = .tx
    · rw [if_pos (hdirection.mpr htx), htx]
    · rw [if_neg fun h => htx (hdirection.mp h)]
      cases direction with
      | tx => exact absurd rfl htx
      | rx => rfl
  · simp only [hfield .payload hpayload _ hsearch]
    obtain ⟨a, bytes, rfl⟩ := List.exists_cons_of_ne_nil hne
    exact strip_hexText a bytes hblank
  · simp only [hfield .chip hchipFound _ hsearch]

end Line

end HomeIoControl.CaptureLogLines
