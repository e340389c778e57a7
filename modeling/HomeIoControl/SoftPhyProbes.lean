import HomeIoControl.SoftPhy
import HomeIoControl.SerialCells
import Mathlib.Data.Nat.Bitwise
import Mathlib.Order.WellFounded

/-!
# What the software PHY finds in a raw window

A slice is an alignment, a start and a length. The probe returns the first slice, in the order of its
search, that parses to a plausible frame with its checksum behind it.
-/

namespace HomeIoControl.SoftPhyProbes

open SerialCells ProtocolFrames RadioLinks SoftPhy

private theorem shiftRight_and_one (b : UInt8) {i : ℕ} (h : i < 8) :
    (b >>> UInt8.ofNat i &&& 1 ≠ 0) ↔ b.toNat.testBit i = true := by
  have hbytes : ∀ (b : UInt8) (i : Fin 8),
      (b >>> UInt8.ofNat i &&& 1 ≠ 0) ↔ b.toNat.testBit i = true :=
    forall_byte (by decide +kernel)
  exact hbytes b ⟨i, h⟩

theorem getElem?_bitsOf_eq {raw : List UInt8} {p : ℕ} (h : p < 8 * raw.length) :
    (bitsOf raw)[p]? = some (getBitMsb raw p) := by
  rw [getElem?_bitsOf h, getBitMsb, Option.some_inj]
  simp only [shiftRight_and_one _ (show 7 - p % 8 < 8 by omega), Bool.decide_eq_true]

private theorem cellBits_eq {raw : List UInt8} {bitPos : ℕ} (h : bitPos + 10 ≤ 8 * raw.length) :
    (((bitsOf raw).drop bitPos).drop 1).take 8 =
      (List.range 8).map fun index => getBitMsb raw (bitPos + 1 + index) := by
  apply List.ext_getElem?
  intro i
  by_cases hi : i < 8
  · rw [List.getElem?_take_of_lt hi, List.drop_drop, List.getElem?_drop, List.getElem?_map,
      List.getElem?_range hi, getElem?_bitsOf_eq (by omega), Option.map_some]
  · rw [List.getElem?_take_eq_none (by omega), List.getElem?_eq_none (by simpa using hi)]

private theorem foldl_or_eq_ofLsbBits (f : ℕ → Bool) :
    (List.range 8).foldl (fun value index =>
      value ||| ((if f index then 1 else 0) <<< UInt8.ofNat index)) (0 : UInt8) =
      ofLsbBits ((List.range 8).map f) := by
  change ([0, 1, 2, 3, 4, 5, 6, 7] : List ℕ).foldl _ _ = ofLsbBits [f 0, f 1, f 2, f 3, f 4, f 5,
    f 6, f 7]
  simp only [List.foldl]
  generalize f 0 = b0, f 1 = b1, f 2 = b2, f 3 = b3, f 4 = b4, f 5 = b5, f 6 = b6, f 7 = b7
  revert b0 b1 b2 b3 b4 b5 b6 b7
  decide

/-- The source's loop reads the cells from its position on. -/
theorem decodeUartCells_eq (raw : List UInt8) (capacity bitPos : ℕ) :
    decodeUartCells raw capacity bitPos = readCells capacity ((bitsOf raw).drop bitPos) := by
  induction capacity generalizing bitPos with
  | zero => rfl
  | succ capacity ih =>
    have hlength : 10 ≤ ((bitsOf raw).drop bitPos).length ↔ bitPos + 10 ≤ 8 * raw.length := by
      rw [List.length_drop, length_bitsOf]
      omega
    rw [decodeUartCells, readCells]
    by_cases hfits : bitPos + 10 ≤ 8 * raw.length
    · have hget : ∀ i < 10, ∀ d, ((bitsOf raw).drop bitPos).getD i d = getBitMsb raw (bitPos + i) := by
        intro i hi d
        rw [List.getD_eq_getElem?_getD, List.getElem?_drop, getElem?_bitsOf_eq (by omega),
          Option.getD_some]
      have hvalue : cellValue raw bitPos =
          ofLsbBits ((((bitsOf raw).drop bitPos).drop 1).take 8) := by
        rw [cellBits_eq hfits]
        exact foldl_or_eq_ofLsbBits _
      have hnext : ((bitsOf raw).drop bitPos).drop 10 = (bitsOf raw).drop (bitPos + 10) :=
        List.drop_drop ..
      rw [if_pos hfits, hget 0 (by decide), hget 9 (by decide), ih, hvalue, hnext, Nat.add_zero]
      simp only [hlength, hfits, true_and]
      cases getBitMsb raw bitPos <;> cases getBitMsb raw (bitPos + 9) <;> rfl
    · rw [if_neg hfits, if_neg (fun h => hfits (hlength.mp h.1))]

theorem decodeUartProbe_eq (raw : List UInt8) (bitOffset capacity : ℕ) :
    decodeUartProbe raw bitOffset capacity = readCells capacity ((bitsOf raw).drop bitOffset) :=
  decodeUartCells_eq raw capacity bitOffset

theorem decodeUartProbe_length_le (raw : List UInt8) (bitOffset capacity : ℕ) :
    (decodeUartProbe raw bitOffset capacity).length ≤ capacity := by
  rw [decodeUartProbe_eq]
  exact length_readCells_le _ _

private theorem uartCell_eq (value : UInt8) : uartCell value = cell value := by
  have hdata : (List.range 8).map (fun bitIndex =>
      (value >>> UInt8.ofNat bitIndex &&& 1 ≠ 0 : Bool)) = lsbBits value := by
    apply List.map_congr_left
    intro i hi
    simp only [shiftRight_and_one _ (List.mem_range.mp hi), Bool.decide_eq_true]
  rw [uartCell, hdata, cell, List.cons_append]

/-- Writing into the zeroed rest of a buffer puts the bits behind what was written. -/
theorem bitsOf_writeBits {encoded : List UInt8} {written : List Bool} {left : ℕ}
    (h : bitsOf encoded = written ++ List.replicate left false) (bits : List Bool)
    (hfits : bits.length ≤ left) :
    bitsOf (writeBits encoded written.length bits) =
      written ++ bits ++ List.replicate (left - bits.length) false := by
  induction bits generalizing encoded written left with
  | nil => simpa [writeBits] using h
  | cons bit bits ih =>
    cases left with
    | zero => simp at hfits
    | succ left =>
      have hbit : bitsOf (writeBit encoded written.length bit) =
          (written ++ [bit]) ++ List.replicate left false := by
        have hlength := congrArg List.length h
        rw [length_bitsOf, List.length_append, List.length_replicate] at hlength
        cases bit with
        | false => simpa [writeBit, List.replicate_succ] using h
        | true =>
          have hset := bitsOf_setBit (show written.length < 8 * encoded.length by omega)
          rw [h, List.set_append_right _ _ (Nat.le_refl _), Nat.sub_self, List.replicate_succ,
            List.set_cons_zero] at hset
          simpa [writeBit, setBit] using hset
      have hrest := ih hbit (Nat.le_of_succ_le_succ hfits)
      rw [List.length_append, List.length_singleton] at hrest
      rw [writeBits, hrest, List.length_cons, Nat.add_sub_add_right]
      simp

/-- The encoder sends the cells of its bytes, then idles high to the end of the last byte. -/
theorem bitsOf_uartEncodePacket {data encoded : List UInt8} {encodedMaxLen : ℕ}
    (h : uartEncodePacket data encodedMaxLen = some encoded) :
    bitsOf encoded = cells data ++
      List.replicate (8 * ((data.length * 10 + 7) / 8) - data.length * 10) true := by
  unfold uartEncodePacket at h
  dsimp only at h
  split_ifs at h with hempty hfits
  have hcells : data.flatMap uartCell = cells data := by
    rw [cells]
    congr 1
    funext value
    exact uartCell_eq value
  have hzero : bitsOf (List.replicate encodedMaxLen (0 : UInt8)) =
      [] ++ List.replicate (8 * encodedMaxLen) false := by
    clear hempty hfits h
    induction encodedMaxLen with
    | zero => rfl
    | succ n ih =>
      rw [List.replicate_succ, bitsOf_cons, ih, List.nil_append, List.nil_append, Nat.mul_succ,
        Nat.add_comm, List.replicate_add]
      rfl
  have hlength : (cells data ++ List.replicate
      (8 * ((data.length * 10 + 7) / 8) - data.length * 10) true).length =
      8 * ((data.length * 10 + 7) / 8) := by
    rw [List.length_append, length_cells, List.length_replicate]
    omega
  have hwritten := bitsOf_writeBits hzero (cells data ++ List.replicate
      (8 * ((data.length * 10 + 7) / 8) - data.length * 10) true) (by omega)
  rw [← Option.some.inj h, hcells, bitsOf_take]
  rw [List.length_nil, List.nil_append] at hwritten
  rw [hwritten, List.take_left' hlength]

/-- The first result of a search upwards. -/
private theorem findSome?_range {β : Type} {f : ℕ → Option β} {b : β} {n s : ℕ} (hs : s < n)
    (hb : f s = some b) (hbefore : ∀ s' < s, f s' = none) :
    (List.range n).findSome? f = some b := by
  induction n with
  | zero => omega
  | succ n ih =>
    rw [List.range_succ, List.findSome?_append]
    by_cases hn : s < n
    · rw [ih hn, Option.some_or]
    · have heq : s = n := by omega
      have hnone : (List.range n).findSome? f = none := by
        rw [List.findSome?_eq_none_iff]
        intro s' hs'
        exact hbefore s' (by rw [heq]; exact List.mem_range.mp hs')
      rw [hnone, Option.none_or, ← heq, List.findSome?_cons, hb]

/-- A search from the top finds the highest number there is. -/
theorem find?_descending_iff {p : ℕ → Bool} {low n l : ℕ} :
    ((List.range' low n).reverse).find? p = some l ↔
      low ≤ l ∧ l < low + n ∧ p l = true ∧ ∀ l', l < l' → l' < low + n → p l' = false := by
  induction n with
  | zero => exact iff_of_false (by simp) (by omega)
  | succ n ih =>
    rw [List.range'_concat, List.reverse_append, Nat.one_mul, List.reverse_singleton,
      List.singleton_append, List.find?_cons]
    cases htop : p (low + n) with
    | true =>
      rw [Option.some.injEq]
      constructor
      · rintro rfl
        exact ⟨by omega, by omega, htop, fun l' hl' hbound => by omega⟩
      · rintro ⟨-, hbound, -, habove⟩
        by_contra hne
        rw [habove (low + n) (by omega) (by omega)] at htop
        cases htop
    | false =>
      rw [ih]
      constructor
      · rintro ⟨hlow, hbound, hl, habove⟩
        refine ⟨hlow, by omega, hl, fun l' hl' hbound' => ?_⟩
        by_cases heq : l' = low + n
        · rw [heq]
          exact htop
        · exact habove l' hl' (by omega)
      · rintro ⟨hlow, hbound, hl, habove⟩
        refine ⟨hlow, ?_, hl, fun l' hl' hbound' => habove l' hl' (by omega)⟩
        by_contra hnot
        rw [show l = low + n by omega, htop] at hl
        cases hl

/-- Where a frame is sought. -/
structure Slice where
  bitOffset : ℕ
  start : ℕ
  len : ℕ
  deriving DecidableEq, Repr

namespace Slice

/-- The order of the search: by alignment, then by start, then the longer first. -/
def Precedes (c c' : Slice) : Prop :=
  c.bitOffset < c'.bitOffset ∨ c.bitOffset = c'.bitOffset ∧
    (c.start < c'.start ∨ c.start = c'.start ∧ c'.len < c.len)

/-- The bytes of a slice. -/
def bytes (raw : List UInt8) (c : Slice) : List UInt8 :=
  ((decodeUartProbe raw c.bitOffset radioPacketBufferSize).drop c.start).take c.len

end Slice

/-- The slice is a plausible frame with its checksum behind it. -/
def CrcValid (raw : List UInt8) (c : Slice) : Prop :=
  c.bitOffset < uartProbeMaxBitOffset ∧
    isCrcValidFrame (decodeUartProbe raw c.bitOffset radioPacketBufferSize) c.start c.len = true

/-- No slice before this one is CRC-valid. -/
def IsFirst (raw : List UInt8) (c : Slice) : Prop :=
  CrcValid raw c ∧ ∀ c', c'.Precedes c → ¬ CrcValid raw c'

theorem parse_length {buf : List UInt8} {f : IoFrame} (h : parse buf = some f) :
    frameMinSize ≤ buf.length ∧ buf.length ≤ frameMaxDeclaredSize + hmacSize := by
  have hsome : (parse buf).isSome := by rw [h]; rfl
  obtain ⟨hmin, hlength⟩ := (parse_isSome_iff buf).mp hsome
  have hmax := declaredLength_le (buf.getD 0 0)
  omega

/-- What the tests of a candidate establish. -/
theorem isCrcValidFrame_iff {decoded : List UInt8} {start len : ℕ} :
    isCrcValidFrame decoded start len = true ↔ start + len + 2 ≤ decoded.length ∧
      ∃ frame, parse ((decoded.drop start).take len) = some frame ∧
        isPlausibleUartFrame frame len = true ∧
        crcCcitt ((decoded.drop start).take len) = receivedCrc decoded (start + len) := by
  unfold isCrcValidFrame
  dsimp only
  cases parse ((decoded.drop start).take len) with
  | none => simp
  | some frame =>
    simp only [Bool.and_eq_true, decide_eq_true_eq, Option.some.injEq, exists_eq_left']
    tauto

theorem isCrcValidFrame_bounds {decoded : List UInt8} {start len : ℕ}
    (h : isCrcValidFrame decoded start len = true) :
    frameMinSize ≤ len ∧ len ≤ frameMaxDeclaredSize + hmacSize ∧
      start + len + 2 ≤ decoded.length := by
  obtain ⟨hfits, frame, hparse, -⟩ := isCrcValidFrame_iff.mp h
  have hlength := parse_length hparse
  rw [List.length_take, List.length_drop] at hlength
  omega

theorem findCrcValidFrame_of_first {decoded : List UInt8} {start len : ℕ}
    (hvalid : isCrcValidFrame decoded start len = true)
    (hstart : ∀ start' < start, ∀ len', isCrcValidFrame decoded start' len' = false)
    (hlen : ∀ len', len < len' → isCrcValidFrame decoded start len' = false) :
    findCrcValidFrame decoded = some (start, len) := by
  obtain ⟨hmin, hmax, hfits⟩ := isCrcValidFrame_bounds hvalid
  have hwire : frameMaxDeclaredSize + hmacSize ≤ frameMaxWireSize := by decide
  have hrange : len <
      frameMinSize + (min (decoded.length - start) frameMaxWireSize + 1 - frameMinSize) := by
    omega
  have hstartLt : start < decoded.length := by omega
  apply findSome?_range hstartLt
  · rw [candidateLens, find?_descending_iff.mpr ⟨hmin, hrange, hvalid, fun len' h _ => hlen len' h⟩,
      Option.map_some]
  · intro start' hstart'
    rw [Option.map_eq_none_iff, List.find?_eq_none]
    intro len' _
    rw [hstart start' hstart' len']
    exact Bool.false_ne_true

theorem findCrcValidFrame_eq_none {decoded : List UInt8}
    (h : ∀ start len, isCrcValidFrame decoded start len = false) :
    findCrcValidFrame decoded = none := by
  rw [findCrcValidFrame, List.findSome?_eq_none_iff]
  intro start _
  rw [Option.map_eq_none_iff, List.find?_eq_none]
  intro len _
  rw [h start len]
  exact Bool.false_ne_true

/-- An alignment without a CRC-valid frame is passed over. -/
theorem probeOffsets_skip {raw : List UInt8} {skipped : List ℕ} (rest : List ℕ)
    (hnone : ∀ o ∈ skipped,
      findCrcValidFrame (decodeUartProbe raw o radioPacketBufferSize) = none)
    (best : UartProbeResult) (hbest : best.valid = false) :
    ∃ best' : UartProbeResult, best'.valid = false ∧
      probeOffsets raw (skipped ++ rest) best = probeOffsets raw rest best' := by
  induction skipped generalizing best with
  | nil => exact ⟨best, hbest, rfl⟩
  | cons o skipped ih =>
    have hrest := fun o' ho' => hnone o' (List.mem_cons_of_mem o ho')
    rw [List.cons_append, probeOffsets]
    dsimp only
    rw [hnone o List.mem_cons_self]
    split_ifs with hempty hlonger
    · exact ih hrest best hbest
    · exact ih hrest _ hbest
    · exact ih hrest best hbest

theorem findUartProbe_of_first {raw : List UInt8} {c : Slice} (h : IsFirst raw c) :
    findUartProbe raw = ⟨true, c.bitOffset, c.start, c.len,
      decodeUartProbe raw c.bitOffset radioPacketBufferSize⟩ := by
  obtain ⟨⟨hoffset, hvalid⟩, hfirst⟩ := h
  have hnone : ∀ o ∈ List.range c.bitOffset,
      findCrcValidFrame (decodeUartProbe raw o radioPacketBufferSize) = none := by
    intro o ho
    have ho' : o < c.bitOffset := List.mem_range.mp ho
    apply findCrcValidFrame_eq_none
    intro start len
    apply Bool.eq_false_iff.mpr
    intro hcontra
    exact hfirst ⟨o, start, len⟩ (.inl ho') ⟨by dsimp only; omega, hcontra⟩
  have hfound : findCrcValidFrame (decodeUartProbe raw c.bitOffset radioPacketBufferSize) =
      some (c.start, c.len) := by
    apply findCrcValidFrame_of_first hvalid
    · intro start hstart len
      apply Bool.eq_false_iff.mpr
      intro hcontra
      exact hfirst ⟨c.bitOffset, start, len⟩ (.inr ⟨rfl, .inl hstart⟩) ⟨hoffset, hcontra⟩
    · intro len hlen
      apply Bool.eq_false_iff.mpr
      intro hcontra
      exact hfirst ⟨c.bitOffset, c.start, len⟩ (.inr ⟨rfl, .inr ⟨rfl, hlen⟩⟩) ⟨hoffset, hcontra⟩
  have hsplit : List.range uartProbeMaxBitOffset = List.range c.bitOffset ++
      c.bitOffset :: List.range' (c.bitOffset + 1) (uartProbeMaxBitOffset - c.bitOffset - 1) := by
    have happend := List.range'_append_1 (s := 0) (m := c.bitOffset)
      (n := uartProbeMaxBitOffset - c.bitOffset - 1 + 1)
    rw [Nat.zero_add] at happend
    rw [← List.range'_succ, List.range_eq_range', List.range_eq_range', happend]
    congr 1
    omega
  have hdecoded : decodeUartProbe raw c.bitOffset radioPacketBufferSize ≠ [] := by
    intro hempty
    have hbounds := (isCrcValidFrame_bounds hvalid).2.2
    rw [hempty, List.length_nil] at hbounds
    omega
  obtain ⟨best, -, hskip⟩ := probeOffsets_skip (c.bitOffset ::
    List.range' (c.bitOffset + 1) (uartProbeMaxBitOffset - c.bitOffset - 1)) hnone {} rfl
  rw [findUartProbe, hsplit, hskip, probeOffsets]
  dsimp only
  rw [if_neg hdecoded, hfound]

/-- In a window without a CRC-valid slice the search fails at every alignment. -/
theorem findCrcValidFrame_of_none {raw : List UInt8} (h : ∀ c, ¬ CrcValid raw c) :
    ∀ o ∈ List.range uartProbeMaxBitOffset,
      findCrcValidFrame (decodeUartProbe raw o radioPacketBufferSize) = none := by
  intro o ho
  apply findCrcValidFrame_eq_none
  intro start len
  apply Bool.eq_false_iff.mpr
  intro hcontra
  exact h ⟨o, start, len⟩ ⟨List.mem_range.mp ho, hcontra⟩

theorem findUartProbe_of_none {raw : List UInt8} (h : ∀ c, ¬ CrcValid raw c) :
    (findUartProbe raw).valid = false := by
  obtain ⟨best, hbest, hskip⟩ := probeOffsets_skip [] (findCrcValidFrame_of_none h) {} rfl
  rw [List.append_nil] at hskip
  rw [findUartProbe, hskip]
  exact hbest

/-- Among CRC-valid slices there is a first one. -/
theorem exists_isFirst {raw : List UInt8} {c : Slice} (h : CrcValid raw c) :
    ∃ c, IsFirst raw c := by
  obtain ⟨first, hfirst, hmin⟩ := (measure fun c : Slice =>
    (c.bitOffset * 64 + c.start) * 64 + (63 - c.len)).wf.has_min {c | CrcValid raw c} ⟨c, h⟩
  refine ⟨first, hfirst, ?_⟩
  intro c' hprecedes hvalid
  have hbounds := isCrcValidFrame_bounds hfirst.2
  have hbounds' := isCrcValidFrame_bounds hvalid.2
  have hfirstCapacity : _ ≤ 64 :=
    decodeUartProbe_length_le raw first.bitOffset radioPacketBufferSize
  have hcapacity' : _ ≤ 64 := decodeUartProbe_length_le raw c'.bitOffset radioPacketBufferSize
  apply hmin c' hvalid
  change (c'.bitOffset * 64 + c'.start) * 64 + (63 - c'.len) <
    (first.bitOffset * 64 + first.start) * 64 + (63 - first.len)
  simp only [frameMaxDeclaredSize, hmacSize] at hbounds hbounds'
  unfold Slice.Precedes at hprecedes
  omega

/-- The probe is valid exactly when some slice is, and then returns the first of them. -/
theorem findUartProbe_cases (raw : List UInt8) :
    (∃ c, IsFirst raw c ∧ (findUartProbe raw).valid = true ∧
      (findUartProbe raw).frame = c.bytes raw) ∨
    ((findUartProbe raw).valid = false ∧ ∀ c, ¬ CrcValid raw c) := by
  by_cases h : ∃ c, CrcValid raw c
  · obtain ⟨c, hc⟩ := h
    obtain ⟨first, hfirst⟩ := exists_isFirst hc
    left
    refine ⟨first, hfirst, ?_⟩
    rw [findUartProbe_of_first hfirst]
    exact ⟨rfl, rfl⟩
  · right
    exact ⟨findUartProbe_of_none (not_exists.mp h), not_exists.mp h⟩

private theorem word_of_halves (c : UInt16) :
    c.toUInt8.toUInt16 ||| ((c >>> 8).toUInt8.toUInt16 <<< 8) = c := by
  apply UInt16.toNat_inj.mp
  have hc := c.toNat_lt
  have hlow : c.toUInt8.toUInt16.toNat < 2 ^ 8 := by simp; omega
  rw [UInt16.or_comm, UInt16.toNat_or, UInt16.toNat_shiftLeft]
  simp only [UInt8.toNat_toUInt16, UInt16.toNat_toUInt8, UInt16.toNat_shiftRight,
    UInt16.reduceToNat, Nat.reduceMod, Nat.shiftRight_eq_div_pow, Nat.shiftLeft_eq]
  rw [Nat.mod_eq_of_lt (by omega), Nat.mul_comm, ← Nat.two_pow_add_eq_or_of_lt (by omega)]
  omega

/-- The checksum behind a packet is the packet's. -/
theorem receivedCrc_withCrc (packet rest : List UInt8) :
    receivedCrc (withCrc packet ++ rest) packet.length = crcCcitt packet := by
  have hlow : (withCrc packet ++ rest).getD packet.length 0 = (crcCcitt packet).toUInt8 := by
    simp [withCrc, List.getD_eq_getElem?_getD]
  have hhigh : (withCrc packet ++ rest).getD (packet.length + 1) 0 =
      (crcCcitt packet >>> 8).toUInt8 := by
    simp [withCrc, List.getD_eq_getElem?_getD]
  rw [receivedCrc, hlow, hhigh, word_of_halves]

/-- The bits of a window in which a packet arrives behind idle bits. -/
def OnAir (k : ℕ) (packet : List UInt8) (trailing : List Bool) (raw : List UInt8) : Prop :=
  bitsOf raw = List.replicate k true ++ (cells (withCrc packet) ++ trailing)

section

variable {k : ℕ} {packet raw : List UInt8} {trailing : List Bool}

/-- No cell starts on an idle bit. -/
theorem decode_idle (hair : OnAir k packet trailing raw) {o : ℕ} (ho : o < k) (capacity : ℕ) :
    decodeUartProbe raw o capacity = [] := by
  have hdrop : (bitsOf raw).drop o =
      true :: (List.replicate (k - o - 1) true ++ (cells (withCrc packet) ++ trailing)) := by
    rw [hair, List.drop_append_of_le_length (by simpa using ho.le), List.drop_replicate,
      show k - o = k - o - 1 + 1 by omega, List.replicate_succ]
    rfl
  rw [decodeUartProbe_eq, hdrop, readCells_idle]

/-- At its alignment the packet is read whole. -/
theorem decode_aligned (hair : OnAir k packet trailing raw) {capacity : ℕ}
    (hcapacity : packet.length + 2 ≤ capacity) :
    decodeUartProbe raw k capacity =
      withCrc packet ++ readCells (capacity - (packet.length + 2)) trailing := by
  have hdrop : (bitsOf raw).drop k = cells (withCrc packet) ++ trailing := by
    rw [hair, List.drop_left' List.length_replicate]
  have hlength : (withCrc packet).length = packet.length + 2 := by simp [withCrc]
  rw [decodeUartProbe_eq, hdrop, readCells_cells (by omega), hlength]

end

/-- The bytes of a buffer that decide how it parses. -/
theorem parse_head {buf : List UInt8} {f : IoFrame} (h : parse buf = some f) :
    f.ctrl0 = buf.getD 0 0 ∧ f.cmd = buf.getD 8 0 := by
  unfold parse at h
  split at h
  · split_ifs at h <;> rw [← Option.some.inj h] <;> exact ⟨rfl, rfl⟩
  · cases h

/-- A candidate that begins with a packet and goes beyond it parses only as the packet of an
add-controller command with a trailer. -/
theorem parse_beyond {packet candidate : List UInt8} {f g : IoFrame}
    (hpacket : parse packet = some f) (hbegins : packet <+: candidate)
    (hlonger : packet.length < candidate.length) (hcandidate : parse candidate = some g) :
    candidate.length = packet.length + hmacSize ∧ f.cmd = cmdOnewayAddController := by
  obtain ⟨more, rfl⟩ := hbegins
  have hmin := (parse_length hpacket).1
  have hget : ∀ i < frameMinSize, (packet ++ more).getD i 0 = packet.getD i 0 := by
    intro i hi
    rw [List.getD_append _ _ _ _ (by omega)]
  obtain ⟨-, hlength⟩ := (parse_isSome_iff packet).mp (by rw [hpacket]; rfl)
  obtain ⟨-, hlength'⟩ := (parse_isSome_iff (packet ++ more)).mp (by rw [hcandidate]; rfl)
  rw [hget 0 (by decide), hget 8 (by decide)] at hlength'
  rw [(parse_head hpacket).2]
  rcases hlength with hlength | ⟨hlength, hcarries⟩ <;>
    rcases hlength' with hlength' | ⟨hlength', hcarries'⟩
  · omega
  · exact ⟨by omega, hcarries'⟩
  · omega
  · omega

section

variable {f : IoFrame} {packet raw : List UInt8} {k : ℕ} {trailing : List Bool}

/-- The frame that arrives is a CRC-valid slice, whatever follows it. -/
theorem crcValid_onAir (hser : serialize f = some packet)
    (hcommand : isKnownIoCommand f.cmd = true ∨ is1w f = true)
    (hk : k < uartProbeMaxBitOffset) (hair : OnAir k packet trailing raw) :
    CrcValid raw ⟨k, 0, packet.length⟩ ∧ (Slice.mk k 0 packet.length).bytes raw = packet := by
  have hparse := parse_serialize hser
  have hlength := parse_length hparse
  have hcapacity : packet.length + 2 ≤ radioPacketBufferSize := by
    simp only [frameMaxDeclaredSize, hmacSize, radioPacketBufferSize] at *
    omega
  have hdecoded := decode_aligned hair hcapacity
  have hbytes : (Slice.mk k 0 packet.length).bytes raw = packet := by
    rw [Slice.bytes, hdecoded, List.drop_zero, withCrc, List.append_assoc, List.take_left]
  refine ⟨⟨hk, ?_⟩, hbytes⟩
  rw [isCrcValidFrame_iff]
  rw [Slice.bytes] at hbytes
  dsimp only at hbytes ⊢
  rw [hbytes]
  refine ⟨?_, f, hparse, ?_, ?_⟩
  · rw [hdecoded, List.length_append, withCrc, List.length_append]
    simp only [List.length_cons, List.length_nil]
    omega
  · unfold isPlausibleUartFrame
    rw [if_neg (by omega)]
    rcases hcommand with hknown | hone
    · rw [if_pos hknown]
    · split_ifs
      · rfl
      · exact hone
  · rw [hdecoded, Nat.zero_add, receivedCrc_withCrc]

/-- What the search sees before the frame: only the frame with a trailer behind it. -/
theorem before_onAir (hser : serialize f = some packet) (hair : OnAir k packet trailing raw)
    {c : Slice} (hprecedes : c.Precedes ⟨k, 0, packet.length⟩) (hvalid : CrcValid raw c) :
    f.cmd = cmdOnewayAddController ∧ c = ⟨k, 0, packet.length + hmacSize⟩ := by
  obtain ⟨o, start, len⟩ := c
  have hparse := parse_serialize hser
  have hlength := parse_length hparse
  have hbounds := isCrcValidFrame_bounds hvalid.2
  simp only [Slice.Precedes] at hprecedes hbounds
  rcases hprecedes with hbefore | ⟨rfl, hstart | ⟨rfl, hlonger⟩⟩
  · rw [decode_idle hair hbefore, List.length_nil] at hbounds
    omega
  · exact absurd hstart (Nat.not_lt_zero _)
  · have hcapacity : packet.length + 2 ≤ radioPacketBufferSize := by
      simp only [frameMaxDeclaredSize, hmacSize, radioPacketBufferSize] at *
      omega
    obtain ⟨-, g, hg, -⟩ := isCrcValidFrame_iff.mp hvalid.2
    dsimp only at hg
    rw [decode_aligned hair hcapacity, List.drop_zero] at hg
    rw [decode_aligned hair hcapacity] at hbounds
    have hbegins : packet <+: (withCrc packet ++
        readCells (radioPacketBufferSize - (packet.length + 2)) trailing).take len := by
      rw [withCrc, List.append_assoc, List.take_append, List.take_of_length_le hlonger.le]
      exact List.prefix_append _ _
    have hcandidate : ((withCrc packet ++
        readCells (radioPacketBufferSize - (packet.length + 2)) trailing).take len).length =
        len := by
      rw [List.length_take]
      omega
    obtain ⟨hsix, hcmd⟩ := parse_beyond hparse hbegins (by rw [hcandidate]; exact hlonger) hg
    rw [hcandidate] at hsix
    exact ⟨hcmd, by rw [hsix]⟩

/-- The frame that arrives is the first slice found. -/
theorem isFirst_onAir (hser : serialize f = some packet)
    (hcommand : isKnownIoCommand f.cmd = true ∨ is1w f = true)
    (hk : k < uartProbeMaxBitOffset) (hair : OnAir k packet trailing raw)
    (hidle : f.cmd = cmdOnewayAddController → ∀ bit ∈ trailing, bit = true) :
    IsFirst raw ⟨k, 0, packet.length⟩ ∧ (Slice.mk k 0 packet.length).bytes raw = packet := by
  obtain ⟨hvalid, hbytes⟩ := crcValid_onAir hser hcommand hk hair
  refine ⟨⟨hvalid, fun c hprecedes hc => ?_⟩, hbytes⟩
  obtain ⟨hcmd, rfl⟩ := before_onAir hser hair hprecedes hc
  have hlength := parse_length (parse_serialize hser)
  have hcapacity : packet.length + 2 ≤ radioPacketBufferSize := by
    simp only [frameMaxDeclaredSize, hmacSize, radioPacketBufferSize] at *
    omega
  have hnothing : readCells (radioPacketBufferSize - (packet.length + 2)) trailing = [] := by
    cases htrailing : trailing with
    | nil => exact readCells_nil _
    | cons bit bits =>
      have hbit := hidle hcmd bit (by rw [htrailing]; exact List.mem_cons_self)
      rw [hbit, readCells_idle]
  have hfits := (isCrcValidFrame_bounds hc.2).2.2
  rw [decode_aligned hair hcapacity, hnothing, List.append_nil, withCrc, List.length_append] at hfits
  simp only [List.length_cons, List.length_nil, hmacSize] at hfits
  omega

end

/-- A frame sent as cells is found in the window that it arrives in, behind up to nine idle bits
and before any others, and parses back to itself. -/
theorem on_air_round_trip {f : IoFrame} {packet encoded raw : List UInt8} {encodedMaxLen k : ℕ}
    {trailing : List Bool} (hser : serialize f = some packet)
    (hcommand : isKnownIoCommand f.cmd = true ∨ is1w f = true)
    (hencoded : uartEncodePacket (withCrc packet) encodedMaxLen = some encoded) (hk : k ≤ 9)
    (hraw : bitsOf raw = List.replicate k true ++
      ((bitsOf encoded).take (10 * (packet.length + 2)) ++ trailing))
    (hidle : f.cmd = cmdOnewayAddController → ∀ bit ∈ trailing, bit = true) :
    (findUartProbe raw).valid = true ∧ parse (findUartProbe raw).frame = some f := by
  have hcells : (bitsOf encoded).take (10 * (packet.length + 2)) = cells (withCrc packet) := by
    have hlength : (cells (withCrc packet)).length = 10 * (packet.length + 2) := by
      simp [withCrc]
    rw [bitsOf_uartEncodePacket hencoded, List.take_left' hlength]
  have hair : OnAir k packet trailing raw := by rw [OnAir, hraw, hcells]
  obtain ⟨hfirst, hbytes⟩ := isFirst_onAir hser hcommand (Nat.lt_succ_of_le hk) hair hidle
  rw [findUartProbe_of_first hfirst]
  rw [Slice.bytes] at hbytes
  exact ⟨rfl, by rw [UartProbeResult.frame, hbytes, parse_serialize hser]⟩

/-- A key confirmation, behind eight idle bits. -/
theorem on_air_round_trip_keyConfirm :
    let f : IoFrame := ⟨0x88, 0x20, ⟨0x12, 0x34, 0x56⟩, ⟨0xAA, 0, 1⟩, cmdKeyConfirm, [], none,
      by decide⟩
    let packet := (serialize f).getD []
    let encoded := (uartEncodePacket (withCrc packet) 64).getD []
    (findUartProbe (0xFF :: encoded)).valid = true ∧
      parse (findUartProbe (0xFF :: encoded)).frame = some f := by
  intro f packet encoded
  have hser : serialize f = some packet := by decide
  have hencoded : uartEncodePacket (withCrc packet) 64 = some encoded := by decide +kernel
  have hraw : bitsOf (0xFF :: encoded) = List.replicate 8 true ++
      ((bitsOf encoded).take (10 * (packet.length + 2)) ++ [true, true]) := by
    decide +kernel
  exact on_air_round_trip hser (.inl (by decide)) hencoded (by decide) hraw (by decide)

end HomeIoControl.SoftPhyProbes
