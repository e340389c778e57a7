import HomeIoControl.HexPairLines

/-!
# Key material shown as hexadecimal pairs

The scan searches each piece of a line of pairs by itself. It reports a command on the line exactly
when a piece holds a frame of the command with its checksum, or has as a whole the shape of one.
-/

namespace HomeIoControl.RenderedKeyFrames

open BacktrackingRegexes BacktrackingRegexes.Regex ProtocolFrames PythonIntegers KeyMaterialScans
  HexPairLines
open SoftPhy (withCrc)

/-- A frame of the command, of the length that it declares or with a MAC behind that. -/
structure IsKeyFrame (cmd : UInt8) (frame : List UInt8) : Prop where
  watched : cmd ∈ watchedOpcodes
  command : frame.getD frameCmdOffset 0 = cmd
  declared : frameMinSize ≤ declaredLength (frame.getD 0 0)
  length : frame.length = declaredLength (frame.getD 0 0) ∨
    cmd = cmdOnewayAddController ∧ frame.length = declaredLength (frame.getD 0 0) + hmacSize

/-- A frame of the command stands in the bytes with its checksum. -/
def HoldsFrame (cmd : UInt8) (bytes : List UInt8) : Prop :=
  ∃ front frame back, bytes = front ++ (withCrc frame ++ back) ∧ IsKeyFrame cmd frame

/-- The bytes as a whole have the shape of a frame that carries a wrapped key. -/
def HasKeyShape (cmd : UInt8) (bytes : List UInt8) : Prop :=
  bytes.getD frameCmdOffset 0 = cmd ∧
    (cmd = cmdKeyTransfer ∧ declaredLength (bytes.getD 0 0) = keyTransferDeclaredLen ∧
        bytes.length = keyTransferDeclaredLen ∨
      cmd = cmdOnewayAddController ∧
        declaredLength (bytes.getD 0 0) = onewayAddControllerDeclaredLen ∧
        (bytes.length = onewayAddControllerDeclaredLen ∨
          bytes.length = onewayAddControllerDeclaredLen + hmacSize))

theorem crcLe_eq_iff (buf : List UInt8) (offset : ℕ) (crc : UInt16) :
    crcLe buf offset = crc.toNat ↔
      buf.getD offset 0 = crc.toUInt8 ∧ buf.getD (offset + 1) 0 = (crc >>> 8).toUInt8 := by
  have hlow : (buf.getD offset 0).toNat < 2 ^ 8 := (buf.getD offset 0).toNat_lt
  have hhigh := (buf.getD (offset + 1) 0).toNat_lt
  have hcrc := crc.toNat_lt
  have hsum : crcLe buf offset =
      2 ^ 8 * (buf.getD (offset + 1) 0).toNat + (buf.getD offset 0).toNat := by
    rw [crcLe, Nat.shiftLeft_eq, Nat.or_comm, Nat.mul_comm, Nat.two_pow_add_eq_or_of_lt hlow]
  rw [hsum, ← UInt8.toNat_inj, ← UInt8.toNat_inj]
  simp only [UInt16.toNat_toUInt8, UInt16.toNat_shiftRight, UInt16.reduceToNat, Nat.reduceMod,
    Nat.shiftRight_eq_div_pow]
  omega

/-- A candidate counts for its checksum. -/
def CrcValidAt (buf : List UInt8) (start candidateLen : ℕ) : Prop :=
  start + candidateLen + frameCrcSize ≤ buf.length ∧
    crcLe buf (start + candidateLen) = CorpusCrypto.crcCcitt ((buf.drop start).take candidateLen)

/-- A candidate counts exactly where a slice stands with its checksum behind it. -/
theorem crcValidAt_iff {buf : List UInt8} {start candidateLen : ℕ} :
    CrcValidAt buf start candidateLen ↔ ∃ front frame back : List UInt8,
      front.length = start ∧ frame.length = candidateLen ∧
        buf = front ++ (withCrc frame ++ back) := by
  constructor
  · rintro ⟨hfits, hcrc⟩
    rw [CorpusCrypto.crcCcitt_eq, crcLe_eq_iff] at hcrc
    rw [frameCrcSize] at hfits
    obtain ⟨a, b, back, hrest⟩ : ∃ a b back, buf.drop (start + candidateLen) = a :: b :: back := by
      have hlength : (buf.drop (start + candidateLen)).length = (buf.length - 2 - start -
          candidateLen) + 2 := by
        rw [List.length_drop]
        omega
      obtain ⟨a, others, hothers⟩ := List.exists_cons_of_length_eq_add_one hlength
      rw [hothers, List.length_cons] at hlength
      obtain ⟨b, back, rfl⟩ := List.exists_cons_of_length_eq_add_one (Nat.succ.inj hlength)
      exact ⟨a, b, back, hothers⟩
    have hat (i : ℕ) : buf.getD (start + candidateLen + i) 0 = (a :: b :: back).getD i 0 := by
      rw [← hrest, List.getD_eq_getElem?_getD, List.getD_eq_getElem?_getD, List.getElem?_drop]
    refine ⟨buf.take start, (buf.drop start).take candidateLen, back, ?_, ?_, ?_⟩
    · rw [List.length_take]
      omega
    · rw [List.length_take, List.length_drop]
      omega
    · rw [withCrc, ← hcrc.1, ← hcrc.2]
      have hfirst := hat 0
      have hsecond := hat 1
      rw [Nat.add_zero] at hfirst
      rw [hfirst, hsecond]
      calc buf = buf.take start ++ buf.drop start := (List.take_append_drop _ _).symm
        _ = buf.take start ++ ((buf.drop start).take candidateLen ++
            (buf.drop start).drop candidateLen) :=
          congrArg _ (List.take_append_drop _ _).symm
        _ = _ := by
          rw [List.drop_drop, hrest]
          simp
  · rintro ⟨front, frame, back, rfl, rfl, rfl⟩
    refine ⟨?_, ?_⟩
    · simp [withCrc, frameCrcSize]
      omega
    · have hslice : ((front ++ (withCrc frame ++ back)).drop front.length).take frame.length =
          frame := by simp [withCrc]
      rw [hslice, CorpusCrypto.crcCcitt_eq, crcLe_eq_iff]
      constructor
      · simp [withCrc, List.getD_eq_getElem?_getD]
      · simp [withCrc, List.getD_eq_getElem?_getD, Nat.add_assoc]

/-- What makes a candidate count. -/
theorem tierOf_isSome {buf : List UInt8} {start candidateLen : ℕ} {cmd : UInt8} {declaredLen : ℕ} :
    (tierOf buf true start cmd declaredLen candidateLen).isSome ↔
      CrcValidAt buf start candidateLen ∨ start = 0 ∧ candidateLen = buf.length ∧
        (isKeyTransferShape cmd declaredLen || isAddControllerShape cmd declaredLen) = true := by
  unfold tierOf CrcValidAt
  split_ifs with hshort hcrc hsource hwhole hshape
  · simp only [Option.isSome_none, Bool.false_eq_true, false_iff, not_or]
    constructor
    · omega
    · omega
  · simp [hcrc]
  · exact absurd hsource (by decide)
  · simp only [Option.isSome_none, Bool.false_eq_true, false_iff, not_or]
    refine ⟨hcrc, ?_⟩
    rintro ⟨rfl, rfl, -⟩
    omega
  · simp only [Option.isSome_some, true_iff]
    exact .inr ⟨by omega, by omega, hshape⟩
  · simp only [Option.isSome_none, Bool.false_eq_true, false_iff, not_or]
    exact ⟨hcrc, fun h => hshape h.2.2⟩

theorem HasKeyShape.long {cmd : UInt8} {bytes : List UInt8} (h : HasKeyShape cmd bytes) :
    frameMinSize ≤ bytes.length := by
  rcases h.2 with ⟨-, -, hlen⟩ | ⟨-, -, hlen | hlen⟩ <;> rw [hlen] <;> decide

section Buffers

variable {path : String} {text : List Char} {run : Run} {isHexSource : Bool}

theorem mem_scanBuffer {f : Finding} :
    f ∈ scanBuffer path text isHexSource run ↔ ∃ start, start + frameMinSize ≤ run.1.length ∧
      f ∈ scanStart run path text isHexSource start := by
  have hstarts : ((List.range run.1.length).takeWhile fun start =>
      decide (start + frameMinSize ≤ run.1.length)) =
      List.range (run.1.length + 1 - frameMinSize) := by
    have hsplit : List.range run.1.length = List.range (run.1.length + 1 - frameMinSize) ++
        List.range' (run.1.length + 1 - frameMinSize)
          (run.1.length - (run.1.length + 1 - frameMinSize)) := by
      have happend := List.range'_append_1 (s := 0) (m := run.1.length + 1 - frameMinSize)
        (n := run.1.length - (run.1.length + 1 - frameMinSize))
      rw [Nat.zero_add] at happend
      rw [List.range_eq_range', List.range_eq_range', happend]
      congr 1
      rw [frameMinSize]
      omega
    have hall : ∀ start ∈ List.range (run.1.length + 1 - frameMinSize),
        decide (start + frameMinSize ≤ run.1.length) = true := by
      intro start hstart
      have hlt := List.mem_range.mp hstart
      exact decide_eq_true (by omega)
    have hnone : (List.range' (run.1.length + 1 - frameMinSize)
        (run.1.length - (run.1.length + 1 - frameMinSize))).takeWhile
          (fun start => decide (start + frameMinSize ≤ run.1.length)) = [] := by
      cases hlen : run.1.length - (run.1.length + 1 - frameMinSize) with
      | zero => rfl
      | succ n =>
        rw [List.range'_succ]
        exact List.takeWhile_cons_of_neg (by simp; omega)
    conv_lhs => rw [hsplit]
    rw [List.takeWhile_append_of_pos hall, hnone, List.append_nil]
  rw [scanBuffer, hstarts, List.mem_flatMap]
  refine exists_congr fun start => and_congr_left fun _ => ?_
  rw [List.mem_range]
  omega

theorem mem_scanStart {f : Finding} {start : ℕ} :
    f ∈ scanStart run path text isHexSource start ↔
      let cmd := run.1.getD (start + frameCmdOffset) 0
      let declaredLen := declaredLength (run.1.getD start 0)
      cmd ∈ watchedOpcodes ∧ frameMinSize ≤ declaredLen ∧
        ∃ candidateLen ∈ candidateLens cmd declaredLen, ∃ tier,
          tierOf run.1 isHexSource start cmd declaredLen candidateLen = some tier ∧
            makeFinding run path text start tier cmd declaredLen candidateLen = f := by
  have hmax : declaredLength (run.1.getD start 0) ≤ frameMaxSize := declaredLength_le _
  simp only [scanStart]
  split_ifs with hcmd hlen
  · simp only [List.mem_filterMap, Option.map_eq_some_iff]
    exact ⟨fun h => ⟨hcmd, hlen.1, h⟩, fun h => h.2.2⟩
  · have hmin : ¬ frameMinSize ≤ declaredLength (run.1.getD start 0) := fun h => hlen ⟨h, hmax⟩
    simp only [hmin, List.not_mem_nil, false_and, and_false]
  · simp only [hcmd, List.not_mem_nil, false_and]

theorem mem_candidateLens {cmd : UInt8} {declaredLen candidateLen : ℕ} :
    candidateLen ∈ candidateLens cmd declaredLen ↔ candidateLen = declaredLen ∨
      cmd = cmdOnewayAddController ∧ candidateLen = declaredLen + hmacSize := by
  rw [candidateLens, List.mem_cons]
  split_ifs with hcmd
  · simp [hcmd]
  · simp [hcmd]

theorem le_of_mem_candidateLens {cmd : UInt8} {declaredLen candidateLen : ℕ}
    (h : candidateLen ∈ candidateLens cmd declaredLen) : declaredLen ≤ candidateLen := by
  rcases mem_candidateLens.mp h with rfl | ⟨-, rfl⟩
  · exact Nat.le_refl _
  · exact Nat.le_add_right _ _

/-- When one start gives a finding of a command. -/
theorem scanStart_iff {cmd : UInt8} {start : ℕ} :
    (∃ f ∈ scanStart run path text true start, f.cmd = cmd) ↔
      run.1.getD (start + frameCmdOffset) 0 = cmd ∧ cmd ∈ watchedOpcodes ∧
        frameMinSize ≤ declaredLength (run.1.getD start 0) ∧
        ∃ candidateLen ∈ candidateLens cmd (declaredLength (run.1.getD start 0)),
          CrcValidAt run.1 start candidateLen ∨ start = 0 ∧ candidateLen = run.1.length ∧
            (isKeyTransferShape cmd (declaredLength (run.1.getD start 0)) ||
              isAddControllerShape cmd (declaredLength (run.1.getD start 0))) = true := by
  constructor
  · rintro ⟨f, hf, rfl⟩
    obtain ⟨hwatched, hmin, candidateLen, hlen, tier, htier, rfl⟩ := mem_scanStart.mp hf
    exact ⟨rfl, hwatched, hmin, candidateLen, hlen,
      tierOf_isSome.mp (Option.isSome_of_eq_some htier)⟩
  · rintro ⟨rfl, hwatched, hmin, candidateLen, hlen, hcounts⟩
    obtain ⟨tier, htier⟩ := Option.isSome_iff_exists.mp (tierOf_isSome.mpr hcounts)
    exact ⟨_, mem_scanStart.mpr ⟨hwatched, hmin, candidateLen, hlen, tier, htier, rfl⟩, rfl⟩

theorem getD_slice (front : List UInt8) {frame : List UInt8} (back : List UInt8) {i : ℕ}
    (hi : i < frame.length) :
    (front ++ (withCrc frame ++ back)).getD (front.length + i) 0 = frame.getD i 0 := by
  rw [List.getD_eq_getElem?_getD, List.getElem?_append_right (Nat.le_add_right _ _),
    Nat.add_sub_cancel_left, withCrc, List.append_assoc, List.getElem?_append_left hi,
    List.getD_eq_getElem?_getD]

theorem IsKeyFrame.long {cmd : UInt8} {frame : List UInt8} (h : IsKeyFrame cmd frame) :
    frameMinSize ≤ frame.length :=
  Nat.le_trans h.declared (le_of_mem_candidateLens (mem_candidateLens.mpr h.length))

theorem HoldsFrame.long {cmd : UInt8} {bytes : List UInt8} (h : HoldsFrame cmd bytes) :
    frameMinSize ≤ bytes.length := by
  obtain ⟨front, frame, back, rfl, hframe⟩ := h
  have hlong := hframe.long
  simp only [withCrc, List.length_append]
  omega

theorem holdsFrame_iff {cmd : UInt8} {bytes : List UInt8} :
    HoldsFrame cmd bytes ↔ ∃ start, bytes.getD (start + frameCmdOffset) 0 = cmd ∧
      cmd ∈ watchedOpcodes ∧ frameMinSize ≤ declaredLength (bytes.getD start 0) ∧
      ∃ candidateLen ∈ candidateLens cmd (declaredLength (bytes.getD start 0)),
        CrcValidAt bytes start candidateLen := by
  constructor
  · rintro ⟨front, frame, back, rfl, hframe⟩
    have hlong := hframe.long
    rw [frameMinSize] at hlong
    have hcmd := getD_slice front back
      (show frameCmdOffset < frame.length by rw [frameCmdOffset]; omega)
    have hctrl := getD_slice front back (show 0 < frame.length by omega)
    rw [Nat.add_zero] at hctrl
    refine ⟨front.length, ?_⟩
    rw [hcmd, hctrl]
    exact ⟨hframe.command, hframe.watched, hframe.declared, frame.length,
      mem_candidateLens.mpr hframe.length, crcValidAt_iff.mpr ⟨front, frame, back, rfl, rfl, rfl⟩⟩
  · rintro ⟨start, hcmd, hwatched, hmin, candidateLen, hlen, hcrc⟩
    obtain ⟨front, frame, back, rfl, rfl, rfl⟩ := crcValidAt_iff.mp hcrc
    have hlong := Nat.le_trans hmin (le_of_mem_candidateLens hlen)
    rw [frameMinSize] at hlong
    have hctrl := getD_slice front back (show 0 < frame.length by omega)
    rw [Nat.add_zero] at hctrl
    rw [getD_slice front back (show frameCmdOffset < frame.length by rw [frameCmdOffset]; omega)]
      at hcmd
    rw [hctrl] at hmin hlen
    exact ⟨front, frame, back, rfl, hwatched, hcmd, hmin, mem_candidateLens.mp hlen⟩

theorem hasKeyShape_iff {cmd : UInt8} {bytes : List UInt8} :
    HasKeyShape cmd bytes ↔ bytes.getD frameCmdOffset 0 = cmd ∧
      bytes.length ∈ candidateLens cmd (declaredLength (bytes.getD 0 0)) ∧
      (isKeyTransferShape cmd (declaredLength (bytes.getD 0 0)) ||
        isAddControllerShape cmd (declaredLength (bytes.getD 0 0))) = true := by
  have hne : cmdKeyTransfer ≠ cmdOnewayAddController := by decide
  simp only [HasKeyShape, mem_candidateLens, isKeyTransferShape, isAddControllerShape,
    Bool.or_eq_true, decide_eq_true_eq]
  refine and_congr_right fun _ => ?_
  constructor
  · rintro (⟨hcmd, hdeclared, hlen⟩ | ⟨hcmd, hdeclared, hlen | hlen⟩)
    · exact ⟨.inl (hlen.trans hdeclared.symm), .inl ⟨hcmd, hdeclared⟩⟩
    · exact ⟨.inl (hlen.trans hdeclared.symm), .inr ⟨hcmd, hdeclared⟩⟩
    · exact ⟨.inr ⟨hcmd, by rw [hdeclared, hlen]⟩, .inr ⟨hcmd, hdeclared⟩⟩
  · rintro ⟨hlen, ⟨hcmd, hdeclared⟩ | ⟨hcmd, hdeclared⟩⟩
    · rcases hlen with hlen | ⟨hother, -⟩
      · exact .inl ⟨hcmd, hdeclared, hlen.trans hdeclared⟩
      · exact absurd (hcmd.symm.trans hother) hne
    · rcases hlen with hlen | ⟨-, hlen⟩
      · exact .inr ⟨hcmd, hdeclared, .inl (hlen.trans hdeclared)⟩
      · exact .inr ⟨hcmd, hdeclared, .inr (by rw [hlen, hdeclared])⟩

/-- A run gives a finding of a command exactly when it holds a frame of it or has its shape. -/
theorem scanBuffer_iff {cmd : UInt8} :
    (∃ f ∈ scanBuffer path text true run, f.cmd = cmd) ↔
      HoldsFrame cmd run.1 ∨ HasKeyShape cmd run.1 := by
  have hstarts : (∃ f ∈ scanBuffer path text true run, f.cmd = cmd) ↔
      ∃ start, start + frameMinSize ≤ run.1.length ∧
        ∃ f ∈ scanStart run path text true start, f.cmd = cmd := by
    simp only [mem_scanBuffer]
    constructor
    · rintro ⟨f, ⟨start, hstart, hf⟩, hcmd⟩
      exact ⟨start, hstart, f, hf, hcmd⟩
    · rintro ⟨start, hstart, f, hf, hcmd⟩
      exact ⟨f, ⟨start, hstart, hf⟩, hcmd⟩
  rw [hstarts]
  simp only [scanStart_iff]
  constructor
  · rintro ⟨start, -, hcmd, hwatched, hmin, candidateLen, hlen, hcrc | ⟨rfl, rfl, hshape⟩⟩
    · exact .inl (holdsFrame_iff.mpr ⟨start, hcmd, hwatched, hmin, candidateLen, hlen, hcrc⟩)
    · rw [Nat.zero_add] at hcmd
      exact .inr (hasKeyShape_iff.mpr ⟨hcmd, hlen, hshape⟩)
  · rintro (hholds | hshape)
    · obtain ⟨start, hcmd, hwatched, hmin, candidateLen, hlen, hcrc⟩ := holdsFrame_iff.mp hholds
      have hlong := Nat.le_trans hmin (le_of_mem_candidateLens hlen)
      have hfits := hcrc.1
      exact ⟨start, by omega, hcmd, hwatched, hmin, candidateLen, hlen, .inl hcrc⟩
    · obtain ⟨hcmd, hlen, hwhole⟩ := hasKeyShape_iff.mp hshape
      have hkey : cmd ∈ watchedOpcodes ∧ frameMinSize ≤ declaredLength (run.1.getD 0 0) := by
        simp only [isKeyTransferShape, isAddControllerShape, Bool.or_eq_true,
          decide_eq_true_eq] at hwhole
        rcases hwhole with ⟨rfl, h⟩ | ⟨rfl, h⟩
        · exact ⟨by decide, by rw [h]; decide⟩
        · exact ⟨by decide, by rw [h]; decide⟩
      have hlong := Nat.le_trans hkey.2 (le_of_mem_candidateLens hlen)
      exact ⟨0, by omega, by rw [Nat.zero_add]; exact hcmd, hkey.1, hkey.2, run.1.length, hlen,
        .inr ⟨rfl, rfl, hwhole⟩⟩

end Buffers

theorem any_widen_edge {text more : List Char} (h : Edge '\n' more) :
    (text ++ more).head?.any isHexDigit = text.head?.any isHexDigit := by
  cases text with
  | nil =>
    cases more with
    | nil => rfl
    | cons ch more =>
      obtain rfl : ch = '\n' := h ch rfl
      rfl
  | cons ch text => rfl

theorem hexToken_stops : hexToken.StopsAt '\n' := by
  refine ⟨?_, ⟨⟨?_, ?_⟩, ?_⟩, ⟨?_, ?_, trivial⟩, ?_⟩
  · intro c older newer holder _
    exact congrArg not (any_widen_edge holder)
  · exact ⟨rfl, rfl, trivial⟩
  · exact ⟨rfl, rfl, trivial⟩
  · trivial
  · rfl
  · rfl
  · intro c older newer _ hnewer
    exact congrArg not (any_widen_edge hnewer)

theorem hexRun_stops : hexRun.StopsAt '\n' := ⟨hexToken_stops, ⟨rfl, rfl⟩, hexToken_stops⟩

theorem times_stops {r : Regex Empty} (h : r.StopsAt '\n') (n : ℕ) : (times n r).StopsAt '\n' := by
  induction n with
  | zero => trivial
  | succ n ih => exact ⟨h, ih⟩

theorem base64Run_stops : base64Run.StopsAt '\n' :=
  ⟨⟨times_stops (r := char isBase64) rfl 16, rfl⟩, ⟨rfl, ⟨rfl, trivial⟩⟩, trivial⟩

/-- Whether a match gives a run, and where the bytes of the run stand. -/
theorem hexRunOf_eq_some {m : Match Empty} {run : Run} (h : hexRunOf m = some run) :
    run.1 = runBytes m ∧ run.2.length = run.1.length ∧
      ∀ offset ∈ run.2, m.start.offset ≤ offset ∧ offset ≤ m.start.offset + m.text.length := by
  simp only [hexRunOf] at h
  split_ifs at h with hshort
  cases h
  refine ⟨rfl, by simp, ?_⟩
  intro offset hoffset
  obtain ⟨token, htoken, rfl⟩ := List.mem_map.mp hoffset
  have hto := (offset_of_mem_findIter htoken).2
  simp only [Cursor.text, List.reverse_nil, List.nil_append] at hto
  omega

theorem hexRunOf_of_long {m : Match Empty} (h : frameMinSize ≤ (runBytes m).length) :
    ∃ run, hexRunOf m = some run ∧ run.1 = runBytes m := by
  have hlong : ¬ ((hexToken.findIter ⟨[], m.text⟩).map
      fun token => tokenByte token.text).length < frameMinSize := Nat.not_lt.mpr h
  refine ⟨(runBytes m, (hexToken.findIter ⟨[], m.text⟩).map
    fun token => m.start.offset + token.start.offset), ?_, rfl⟩
  simp only [hexRunOf]
  exact if_neg hlong

theorem base64RunOf_eq_some {m : Match Empty} {run : Run} (h : base64RunOf m = some run) :
    run.2.length = run.1.length ∧
      ∀ offset ∈ run.2, m.start.offset ≤ offset ∧ offset ≤ m.start.offset + m.text.length := by
  simp only [base64RunOf] at h
  cases hdecoded : b64decodeFrom 0 0 0
      (m.text ++ List.replicate ((4 - m.text.length % 4) % 4) '=') with
  | none =>
    rw [hdecoded] at h
    exact absurd h (by simp)
  | some decoded =>
    rw [hdecoded] at h
    simp only at h
    split_ifs at h with hshort
    cases h
    refine ⟨by simp, ?_⟩
    intro offset hoffset
    rw [List.eq_of_mem_replicate hoffset]
    omega

/-- The line of a finding is the line of one of the run's bytes. -/
theorem line_of_mem_scanBuffer {path : String} {text : List Char} {isHexSource : Bool} {run : Run}
    {f : Finding} (hlength : run.2.length = run.1.length)
    (h : f ∈ scanBuffer path text isHexSource run) :
    ∃ offset ∈ run.2, f.line = lineNumber text offset := by
  obtain ⟨start, hstart, hf⟩ := mem_scanBuffer.mp h
  obtain ⟨-, -, candidateLen, -, tier, -, rfl⟩ := mem_scanStart.mp hf
  have hlt : start < run.2.length := by
    rw [hlength]
    rw [frameMinSize] at hstart
    omega
  refine ⟨run.2.getD start 0, ?_, rfl⟩
  rw [List.getD_eq_getElem?_getD, List.getElem?_eq_getElem hlt]
  exact List.getElem_mem hlt

section TextLines

variable {head line tail : List Char} {offset : ℕ}

theorem lineNumber_earlier (hhead : Edge '\n' head.reverse) (hoffset : offset < head.length) :
    lineNumber (head ++ (line ++ tail)) offset < head.count '\n' + 1 := by
  rcases List.eq_nil_or_concat head with rfl | ⟨head, ch, rfl⟩
  · exact absurd hoffset (Nat.not_lt_zero _)
  · obtain rfl : ch = '\n' := hhead ch (by simp)
    rw [List.length_concat] at hoffset
    have htake : (head.concat '\n' ++ (line ++ tail)).take offset = head.take offset := by
      rw [List.concat_eq_append, List.append_assoc,
        List.take_append_of_le_length (Nat.le_of_lt_succ hoffset)]
    have hle := (List.take_sublist offset head).count_le '\n'
    rw [lineNumber, htake, List.concat_eq_append, List.count_append, List.count_singleton_self]
    omega

theorem lineNumber_here (hline : '\n' ∉ line) (hfrom : head.length ≤ offset)
    (hto : offset ≤ head.length + line.length) :
    lineNumber (head ++ (line ++ tail)) offset = head.count '\n' + 1 := by
  have htake : (head ++ (line ++ tail)).take offset = head ++ line.take (offset - head.length) := by
    rw [List.take_append, List.take_of_length_le hfrom,
      List.take_append_of_le_length (by omega)]
  have hnone : (line.take (offset - head.length)).count '\n' = 0 :=
    List.count_eq_zero.mpr fun h => hline (List.mem_of_mem_take h)
  rw [lineNumber, htake, List.count_append, hnone]

theorem lineNumber_later (htail : tail.head? = some '\n')
    (hoffset : head.length + line.length < offset) :
    head.count '\n' + 1 < lineNumber (head ++ (line ++ tail)) offset := by
  obtain ⟨rest, rfl⟩ : ∃ rest, tail = '\n' :: rest := List.head?_eq_some_iff.mp htail
  have hprefix : head ++ (line ++ ['\n']) <+: (head ++ (line ++ '\n' :: rest)).take offset := by
    rw [List.prefix_take_iff]
    refine ⟨⟨rest, by simp⟩, ?_⟩
    simp only [List.length_append, List.length_singleton]
    omega
  have hle := hprefix.sublist.count_le '\n'
  rw [List.count_append, List.count_append, List.count_singleton_self] at hle
  rw [lineNumber]
  omega

end TextLines

/-- The scan reports a command on a line of the text. -/
def Reported (path : String) (text : List Char) (line : ℕ) (cmd : UInt8) : Prop :=
  ∃ f ∈ scanText path text, f.cmd = cmd ∧ f.line = line

theorem separator_not_newline {ch : Char} (h : isSeparator ch = true) : ch ≠ '\n' := by
  rintro rfl
  exact absurd h (by decide)

theorem newline_not_mem {pairs : List Pair} {trailing : List Char}
    (htrailing : ∀ ch ∈ trailing, isSeparator ch = true) :
    '\n' ∉ lineText pairs ++ trailing := by
  have hdigit (ch : Char) (h : isHexDigit ch = true) : '\n' ≠ ch := by
    rintro rfl
    exact absurd h (by decide)
  simp only [lineText, List.mem_append, List.mem_flatMap, Pair.text, Pair.token, List.mem_cons,
    List.not_mem_nil, or_false, not_or, not_exists, not_and]
  refine ⟨fun p _ => ⟨fun h => separator_not_newline (p.sep_ok _ h) rfl, ?_, hdigit _ p.high_ok,
    hdigit _ p.low_ok⟩, fun h => separator_not_newline (htrailing _ h) rfl⟩
  cases p.mark <;> decide

section Reports

variable {path : String} {head trailing tail : List Char} {pairs : List Pair} {cmd : UInt8}

/-- The matches that bear on a line are the ones in it. -/
theorem match_of_report {r : Regex Empty} {runOf : Match Empty → Option Run} {isHexSource : Bool}
    (hr : r.StopsAt '\n') (hrun : ∀ m run, runOf m = some run → run.2.length = run.1.length ∧
      ∀ offset ∈ run.2, m.start.offset ≤ offset ∧ offset ≤ m.start.offset + m.text.length)
    (hhead : Edge '\n' head.reverse) (htail : Edge '\n' tail) {line : List Char} {f : Finding}
    (hf : f ∈ ((r.findIter ⟨[], head ++ (line ++ tail)⟩).filterMap runOf).flatMap
      (scanBuffer path (head ++ (line ++ tail)) isHexSource))
    (hline : f.line = head.count '\n' + 1) :
    ∃ m ∈ r.findIter ⟨[], line⟩, ∃ run, runOf (m.widen head.reverse tail) = some run ∧
      f ∈ scanBuffer path (head ++ (line ++ tail)) isHexSource run := by
  obtain ⟨earlier, later, hsplit, hearlier, hlater⟩ := findIter_lines line hr hhead htail
  obtain ⟨run, hrunMem, hf⟩ := List.mem_flatMap.mp hf
  obtain ⟨m, hm, hmRun⟩ := List.mem_filterMap.mp hrunMem
  obtain ⟨hlength, hoffsets⟩ := hrun m run hmRun
  obtain ⟨offset, hoffset, hnumber⟩ := line_of_mem_scanBuffer hlength hf
  obtain ⟨hfrom, hto⟩ := hoffsets offset hoffset
  rw [hsplit] at hm
  rcases List.mem_append.mp hm with hm | hm
  · have hbefore : lineNumber (head ++ (line ++ tail)) offset < head.count '\n' + 1 :=
      lineNumber_earlier hhead (Nat.lt_of_le_of_lt hto (hearlier m hm))
    omega
  rcases List.mem_append.mp hm with hm | hm
  · obtain ⟨m', hm', rfl⟩ := List.mem_map.mp hm
    exact ⟨m', hm', run, hmRun, hf⟩
  · obtain ⟨hnewline, hbehind⟩ := hlater m hm
    have hafter : head.count '\n' + 1 < lineNumber (head ++ (line ++ tail)) offset :=
      lineNumber_later hnewline (Nat.lt_of_lt_of_le hbehind hfrom)
    omega

theorem text_widen (m : Match Empty) (older newer : List Char) :
    (m.widen older newer).text = m.text := textTo_widen ⟨m.start, []⟩ m.reading

/-- A line reports a command exactly when one of its pieces does. -/
theorem reported_iff (htrailing : ∀ ch ∈ trailing, isSeparator ch = true)
    (hpairs : SetOff pairs.tail) (hhead : Edge '\n' head.reverse) (htail : Edge '\n' tail) :
    Reported path (head ++ ((lineText pairs ++ trailing) ++ tail)) (head.count '\n' + 1) cmd ↔
      ∃ piece ∈ pieces pairs,
        HoldsFrame cmd (pieceBytes piece) ∨ HasKeyShape cmd (pieceBytes piece) := by
  have hnothing : NoDigitAhead [] := by simp [NoDigitAhead]
  have hruns := runs_of_line htrailing hpairs (.inl hnothing)
  constructor
  · rintro ⟨f, hf, rfl, hline⟩
    rcases List.mem_append.mp hf with hf | hf
    · obtain ⟨m, hm, run, hrun, hf⟩ := match_of_report hexRun_stops
        (fun m run h => (hexRunOf_eq_some h).2) hhead htail hf hline
      have hbytes : run.1 = runBytes m := by
        rw [(hexRunOf_eq_some hrun).1, runBytes, text_widen, runBytes]
      have hmem : runBytes m ∈ (pieces pairs).map pieceBytes := by
        rw [← hruns]
        exact List.mem_map_of_mem hm
      obtain ⟨piece, hpiece, heq⟩ := List.mem_map.mp hmem
      refine ⟨piece, hpiece, ?_⟩
      rw [heq, ← hbytes]
      exact scanBuffer_iff.mp ⟨f, hf, rfl⟩
    · obtain ⟨m, hm, -⟩ := match_of_report base64Run_stops
        (fun m run h => base64RunOf_eq_some h) hhead htail hf hline
      rw [base64Run_of_line htrailing hpairs] at hm
      exact absurd hm List.not_mem_nil
  · rintro ⟨piece, hpiece, hkey⟩
    have hmem : pieceBytes piece ∈ (hexRun.findIter ⟨[], lineText pairs ++ trailing⟩).map
        runBytes := by
      rw [hruns]
      exact List.mem_map_of_mem hpiece
    obtain ⟨m, hm, hbytes⟩ := List.mem_map.mp hmem
    have hwide : runBytes (m.widen head.reverse tail) = pieceBytes piece := by
      rw [← hbytes, runBytes, text_widen, runBytes]
    have hlong : frameMinSize ≤ (pieceBytes piece).length := by
      rcases hkey with hholds | hshape
      · exact hholds.long
      · exact hshape.long
    obtain ⟨run, hrun, hrunBytes⟩ := hexRunOf_of_long (by rw [hwide]; exact hlong)
    rw [hwide] at hrunBytes
    rw [← hrunBytes] at hkey
    obtain ⟨f, hf, hcmd⟩ : ∃ f ∈ scanBuffer path (head ++ ((lineText pairs ++ trailing) ++ tail))
        true run, f.cmd = cmd := scanBuffer_iff.mpr hkey
    obtain ⟨-, hlength, hoffsets⟩ := hexRunOf_eq_some hrun
    obtain ⟨offset, hoffset, hnumber⟩ := line_of_mem_scanBuffer hlength hf
    obtain ⟨earlier, later, hsplit, -⟩ := findIter_lines (lineText pairs ++ trailing)
      hexRun_stops hhead htail
    have hmatch : m.widen head.reverse tail ∈
        hexRun.findIter ⟨[], head ++ ((lineText pairs ++ trailing) ++ tail)⟩ := by
      rw [hsplit]
      exact List.mem_append_right _ (List.mem_append_left _ (List.mem_map_of_mem hm))
    refine ⟨f, List.mem_append_left _ (List.mem_flatMap.mpr
      ⟨run, List.mem_filterMap.mpr ⟨_, hmatch, hrun⟩, hf⟩), hcmd, ?_⟩
    obtain ⟨hfrom, hto⟩ := hoffsets offset hoffset
    have hwithin := (offset_of_mem_findIter hm).2
    have hstart : (m.widen head.reverse tail).start.offset = m.start.offset + head.length := by
      simp [Match.widen, Cursor.widen, Cursor.offset]
    rw [hstart] at hfrom hto
    rw [text_widen] at hto
    simp only [Cursor.text, List.reverse_nil, List.nil_append] at hwithin
    rw [hnumber]
    exact lineNumber_here (newline_not_mem htrailing) (by omega) (by omega)

/-- On a line by itself, every finding is on that line. -/
theorem line_of_mem_scanText {text : List Char} {f : Finding} (htext : '\n' ∉ text)
    (hf : f ∈ scanText path text) : f.line = 1 := by
  have hone (offset : ℕ) : lineNumber text offset = 1 := by
    rw [lineNumber, List.count_eq_zero.mpr fun h => htext (List.mem_of_mem_take h)]
  rcases List.mem_append.mp hf with hf | hf
  · obtain ⟨run, hrunMem, hf⟩ := List.mem_flatMap.mp hf
    obtain ⟨m, -, hrun⟩ := List.mem_filterMap.mp hrunMem
    obtain ⟨offset, -, hline⟩ := line_of_mem_scanBuffer (hexRunOf_eq_some hrun).2.1 hf
    exact hline.trans (hone offset)
  · obtain ⟨run, hrunMem, hf⟩ := List.mem_flatMap.mp hf
    obtain ⟨m, -, hrun⟩ := List.mem_filterMap.mp hrunMem
    obtain ⟨offset, -, hline⟩ := line_of_mem_scanBuffer (base64RunOf_eq_some hrun).1 hf
    exact hline.trans (hone offset)

end Reports

/-- A stretch of pairs with something before each but the first stands in one piece. -/
theorem exists_piece (front : List Pair) (p : Pair) {stretch : List Pair} (back : List Pair)
    (h : ∀ q ∈ stretch, q.Apart) :
    ∃ piece ∈ pieces (front ++ (p :: stretch ++ back)), p :: stretch <:+: piece := by
  induction hn : front.length using Nat.strong_induction_on generalizing front with
  | _ n ih =>
    subst hn
    cases front with
    | nil =>
      refine ⟨_, by rw [List.nil_append, List.cons_append, pieces_cons]; exact List.mem_cons_self,
        ?_⟩
      rw [List.takeWhile_append_of_pos fun q hq => decide_eq_true (h q hq)]
      exact ⟨[], back.takeWhile fun q => q.Apart, by simp⟩
    | cons q front =>
      rw [List.cons_append, pieces_cons]
      by_cases hfront : ∀ q' ∈ front, q'.Apart
      · by_cases hp : p.Apart
        · have hkeep : (p :: (stretch ++ back)).takeWhile (fun q' => decide q'.Apart) =
              p :: (stretch ++ back).takeWhile fun q' => decide q'.Apart :=
            List.takeWhile_cons_of_pos (decide_eq_true hp)
          refine ⟨_, List.mem_cons_self, ?_⟩
          rw [List.takeWhile_append_of_pos fun q' hq' => decide_eq_true (hfront q' hq'),
            List.cons_append, hkeep,
            List.takeWhile_append_of_pos fun q' hq' => decide_eq_true (h q' hq')]
          exact ⟨q :: front, back.takeWhile fun q => q.Apart, by simp⟩
        · have hcut : (p :: (stretch ++ back)).dropWhile (fun q' => decide q'.Apart) =
              p :: (stretch ++ back) := List.dropWhile_cons_of_neg (by simpa using hp)
          obtain ⟨piece, hpiece, hinfix⟩ := ih 0 (Nat.succ_pos _) [] rfl
          refine ⟨piece, List.mem_cons_of_mem _ ?_, hinfix⟩
          rw [List.dropWhile_append_of_pos fun q' hq' => decide_eq_true (hfront q' hq'),
            List.cons_append, hcut]
          exact hpiece
      · have hne : front.dropWhile (fun q' => decide q'.Apart) ≠ [] := by
          intro hnil
          refine hfront fun q' hq' => ?_
          simpa using List.dropWhile_eq_nil_iff.mp hnil q' hq'
        have hshort : (front.dropWhile fun q' => decide q'.Apart).length < (q :: front).length :=
          Nat.lt_succ_of_le (List.dropWhile_suffix _).length_le
        obtain ⟨piece, hpiece, hinfix⟩ := ih _ hshort _ rfl
        refine ⟨piece, List.mem_cons_of_mem _ ?_, hinfix⟩
        rw [List.dropWhile_append, if_neg (by simpa using hne)]
        exact hpiece

/-- A watched frame with its checksum, shown in a line of a text with other pairs around it. -/
structure Rendering where
  cmd : UInt8
  frame : List UInt8
  before : List Pair
  shown : List Pair
  after : List Pair
  trailing : List Char
  head : List Char
  tail : List Char
  watched : cmd ∈ watchedOpcodes
  command : frame.getD frameCmdOffset 0 = cmd
  min : frameMinSize ≤ frame.length
  length : frame.length = declaredLength (frame.getD 0 0) ∨
    cmd = cmdOnewayAddController ∧ frame.length = declaredLength (frame.getD 0 0) + hmacSize
  shows : pieceBytes shown = withCrc frame
  setOff : SetOff (before ++ (shown ++ after)).tail
  trailing_ok : ∀ ch ∈ trailing, isSeparator ch = true
  head_ok : Edge '\n' head.reverse
  tail_ok : Edge '\n' tail

namespace Rendering

def pairs (r : Rendering) : List Pair := r.before ++ (r.shown ++ r.after)

def line (r : Rendering) : List Char := lineText r.pairs ++ r.trailing

def text (r : Rendering) : List Char := r.head ++ (r.line ++ r.tail)

def lineNo (r : Rendering) : ℕ := r.head.count '\n' + 1

/-- Something stands between every two neighbouring pairs of the frame. -/
def Separated (r : Rendering) : Prop := ∀ p ∈ r.shown.tail, p.Apart

/-- Some piece of the line holds a frame of the command with its checksum, or has the shape of one
as a whole. -/
def InOnePiece (r : Rendering) : Prop :=
  ∃ piece ∈ pieces r.pairs,
    HoldsFrame r.cmd (pieceBytes piece) ∨ HasKeyShape r.cmd (pieceBytes piece)

theorem inOnePiece_of_separated {r : Rendering}
    (hmin : frameMinSize ≤ declaredLength (r.frame.getD 0 0)) (h : r.Separated) :
    r.InOnePiece := by
  obtain ⟨p, stretch, hshown⟩ : ∃ p stretch, r.shown = p :: stretch := by
    refine List.exists_cons_of_ne_nil fun hnil => ?_
    have hshows := r.shows
    rw [hnil] at hshows
    simp [pieceBytes, withCrc] at hshows
  rw [Separated, hshown, List.tail_cons] at h
  obtain ⟨piece, hpiece, front, back, hinfix⟩ := exists_piece r.before p r.after h
  refine ⟨piece, by rw [pairs, hshown]; exact hpiece, .inl ⟨pieceBytes front, r.frame,
    pieceBytes back, ?_, r.watched, r.command, hmin, r.length⟩⟩
  rw [← hinfix, ← r.shows, hshown]
  simp [pieceBytes]

/-- The frame's command is reported on its line, in a text as well as on the line by itself,
exactly when a piece of the line has it; and so it is wherever the pairs of a frame that declares
a whole header are separated. -/
theorem reported_iff_inOnePiece (r : Rendering) (path : String) :
    (Reported path r.text r.lineNo r.cmd ↔ r.InOnePiece) ∧
      ((∃ f ∈ scanText path r.line, f.cmd = r.cmd) ↔ r.InOnePiece) ∧
      (frameMinSize ≤ declaredLength (r.frame.getD 0 0) → r.Separated →
        ∃ f ∈ scanText path r.text, f.cmd = r.cmd) := by
  have hempty : Edge '\n' [] := by simp [Edge]
  have htext : Reported path r.text r.lineNo r.cmd ↔ r.InOnePiece :=
    reported_iff r.trailing_ok r.setOff r.head_ok r.tail_ok
  have halone : Reported path ([] ++ ((lineText r.pairs ++ r.trailing) ++ []))
      (([] : List Char).count '\n' + 1) r.cmd ↔ _ :=
    reported_iff r.trailing_ok r.setOff hempty hempty
  refine ⟨htext, ?_, ?_⟩
  · rw [List.nil_append, List.append_nil] at halone
    refine Iff.trans ?_ halone
    constructor
    · rintro ⟨f, hf, hcmd⟩
      exact ⟨f, hf, hcmd, line_of_mem_scanText (newline_not_mem r.trailing_ok) hf⟩
    · rintro ⟨f, hf, hcmd, -⟩
      exact ⟨f, hf, hcmd⟩
  · intro hmin hseparated
    obtain ⟨f, hf, hcmd, -⟩ := htext.mpr (inOnePiece_of_separated hmin hseparated)
    exact ⟨f, hf, hcmd⟩

theorem hexValue_hexDigit : ∀ n : Fin 16, hexValue (DeviceRegistries.hexDigit n) = some n.val := by
  decide

theorem isHexDigit_hexDigit {n : ℕ} (h : n < 16) :
    isHexDigit (DeviceRegistries.hexDigit n) = true := by
  have hvalue := hexValue_hexDigit ⟨n, h⟩
  rw [isHexDigit, hvalue]
  rfl

/-- A byte with one mark and one separator before it. -/
def pairOf (sep : List Char) (mark : Mark) (hsep : ∀ ch ∈ sep, isSeparator ch = true) (b : UInt8) :
    Pair where
  sep := sep
  mark := mark
  high := DeviceRegistries.hexDigit (b.toNat / 16)
  low := DeviceRegistries.hexDigit (b.toNat % 16)
  sep_ok := hsep
  high_ok := isHexDigit_hexDigit (by have hlt := b.toNat_lt; omega)
  low_ok := isHexDigit_hexDigit (Nat.mod_lt _ (by decide))

theorem byte_pairOf (sep : List Char) (mark : Mark) (hsep : ∀ ch ∈ sep, isSeparator ch = true)
    (b : UInt8) : (pairOf sep mark hsep b).byte = b := by
  have hlt := b.toNat_lt
  have hhigh := hexValue_hexDigit ⟨b.toNat / 16, by omega⟩
  have hlow := hexValue_hexDigit ⟨b.toNat % 16, by omega⟩
  rw [Pair.byte, Pair.token, tokenByte_token, tokenByte]
  simp only [pairOf, List.length_cons, List.length_nil, Nat.zero_add, Nat.reduceAdd, Nat.sub_self,
    List.drop_zero, List.foldl_cons, List.foldl_nil, Nat.mul_zero, hhigh, hlow, Option.getD_some]
  rw [Nat.div_add_mod, UInt8.ofNat_toNat]

def challengeFrame : List UInt8 := [0x08, 0x00, 0x01, 0x02, 0x03, 0x04, 0x05, 0x06, 0x3C]

/-- A challenge request without a payload, alone on its line. -/
def challengeLine (sep : List Char) (hsep : ∀ ch ∈ sep, isSeparator ch = true) : Rendering where
  cmd := cmdChallengeReq
  frame := challengeFrame
  before := []
  shown := (withCrc challengeFrame).map (pairOf sep .backslashX hsep)
  after := []
  trailing := []
  head := []
  tail := []
  watched := by decide
  command := rfl
  min := by decide
  length := .inl (by decide)
  shows := by
    rw [pieceBytes, List.map_map]
    exact List.map_id'' (byte_pairOf sep .backslashX hsep) _
  setOff p hp _ := by
    have hmem : p ∈ (withCrc challengeFrame).map (pairOf sep .backslashX hsep) := by
      simpa using List.mem_of_mem_tail hp
    obtain ⟨b, -, rfl⟩ := List.mem_map.mp hmem
    rfl
  trailing_ok := by simp
  head_ok := by simp [Edge]
  tail_ok := by simp [Edge]

theorem separator_space : ∀ ch ∈ [' '], isSeparator ch = true := TextPieces.forall_mem_of_all (by decide)

theorem separator_nil : ∀ ch ∈ [], isSeparator ch = true := fun _ h => absurd h List.not_mem_nil

theorem spaced_challenge_reported :
    ∃ f ∈ scanText "notes.md" (challengeLine [' '] separator_space).text, f.cmd = cmdChallengeReq :=
  (reported_iff_inOnePiece (challengeLine [' '] separator_space) "notes.md").2.2 (by decide)
    (fun p hp => by
      obtain ⟨b, -, rfl⟩ := List.mem_map.mp (List.mem_of_mem_tail hp)
      exact List.cons_ne_nil _ _)

set_option maxRecDepth 8000 in
/-- As a C string, the same frame is not reported. -/
theorem c_string_challenge_unreported :
    ¬ ∃ f ∈ scanText "notes.md" (challengeLine [] separator_nil).text, f.cmd = cmdChallengeReq := by
  decide

end Rendering

end HomeIoControl.RenderedKeyFrames
