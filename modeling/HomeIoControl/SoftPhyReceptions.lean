import HomeIoControl.SoftPhyDriver

/-!
# What the software PHY delivers

Whether a delivered packet had a checksum, and whether a reception that ends early delivers what the
full window would have.
-/

namespace HomeIoControl.SoftPhyReceptions

open TracedPrograms SerialCells ProtocolFrames RadioLinks SoftPhy SoftPhyProbes SoftPhyDriver

/-- A delivered packet that parses is the slice that the probe found in its window, with its
checksum behind it. -/
def OnlyCrcValid (r : Reception) : Prop :=
  ∀ frame, parse r.packet.data = some frame →
    (findUartProbe r.capture.raw).valid = true ∧
    r.packet.data = (findUartProbe r.capture.raw).frame ∧
    crcCcitt r.packet.data = receivedCrc (findUartProbe r.capture.raw).decoded
      ((findUartProbe r.capture.raw).frameStart + (findUartProbe r.capture.raw).frameLen)

/-- The length and command that `parse` asks for. -/
def HasFrameShape (buf : List UInt8) : Prop :=
  frameMinSize ≤ declaredLength (buf.getD 0 0) ∧
    (buf.length = declaredLength (buf.getD 0 0) ∨
      buf.length = declaredLength (buf.getD 0 0) + hmacSize ∧ buf.getD 8 0 = cmdOnewayAddController)

/-- The window holds a CRC-valid slice, or its raw bytes up to the reported length do not look like
a frame. -/
def CrcDecides (capture : RadioCaptureInfo) : Prop :=
  (∃ c, CrcValid capture.raw c) ∨
    ¬ HasFrameShape (capture.raw.take (min capture.reportedLen frameMaxWireSize))

/-- The packet is what `read_rx_packet` would make of the window. -/
def FromWindow (r : Reception) : Prop :=
  r.packet.data = recoverPacket r.capture.reportedLen r.capture.raw

theorem onlyCrcValid_iff {r : Reception} (h : FromWindow r) :
    OnlyCrcValid r ↔ CrcDecides r.capture := by
  unfold FromWindow recoverPacket at h
  dsimp only at h
  rcases findUartProbe_cases r.capture.raw with ⟨c, hfirst, hvalid, -⟩ | ⟨hinvalid, hnone⟩
  · rw [if_pos hvalid] at h
    refine iff_of_true ?_ (.inl ⟨c, hfirst.1⟩)
    intro frame _
    have hcrc := (isCrcValidFrame_iff.mp hfirst.1.2).2
    obtain ⟨-, -, -, hcrc⟩ := hcrc
    refine ⟨hvalid, h, ?_⟩
    rw [h, findUartProbe_of_first hfirst]
    exact hcrc
  · rw [if_neg (by rw [hinvalid]; exact Bool.false_ne_true)] at h
    have hshape : (parse r.packet.data).isSome ↔
        HasFrameShape (r.capture.raw.take (min r.capture.reportedLen frameMaxWireSize)) := by
      rw [h]
      exact parse_isSome_iff _
    unfold CrcDecides
    rw [← hshape]
    constructor
    · intro honly
      right
      intro hsome
      obtain ⟨frame, hframe⟩ := Option.isSome_iff_exists.mp hsome
      rw [(honly frame hframe).1] at hinvalid
      cases hinvalid
    · rintro (⟨c, hc⟩ | hrefused)
      · exact absurd hc (hnone c)
      · intro frame hframe
        rw [hframe] at hrefused
        exact absurd rfl hrefused

section

variable {σ : Type} (chip : SoftPhyChip σ)

/-- Every reception of the program comes from its window. -/
def Delivers (p : ChipProg σ (Option Reception)) : Prop :=
  Returns p fun r => ∀ reception ∈ r, FromWindow reception

theorem delivers_none : Delivers (pure none : ChipProg σ (Option Reception)) :=
  Returns.pure fun _ h => nomatch h

theorem completeEarly_delivers (offset : UInt8) (header : List UInt8) (irqStatus : UInt32) :
    Delivers (completeEarly chip offset header irqStatus) := by
  apply Returns.skip
  intro raw
  apply Returns.ite
  · intro _
    exact delivers_none
  · intro hvalid
    refine Returns.skip fun freq => Returns.skip fun _ => Returns.skip fun _ => Returns.pure ?_
    intro reception hreception
    rw [← Option.some.inj hreception, FromWindow, recoverPacket]
    dsimp only
    rw [if_pos (by simpa using hvalid)]

theorem tryEarlyCompletion_delivers (syncUs irqStatus startMs timeoutMs : UInt32) (polls : ℕ) :
    Delivers (tryEarlyCompletion chip syncUs irqStatus startMs timeoutMs polls) := by
  unfold tryEarlyCompletion
  cases chip.earlyRxReadOffset with
  | none => exact delivers_none
  | some offset =>
    refine Returns.ite (fun _ => delivers_none) fun _ => Returns.skip fun _ => ?_
    refine Returns.ite (fun _ => delivers_none) fun _ => Returns.skip fun header => ?_
    refine Returns.ite (fun _ => delivers_none) fun _ => Returns.skip fun _ => ?_
    refine Returns.ite (fun _ => delivers_none) fun _ => ?_
    exact completeEarly_delivers chip offset header irqStatus

theorem readRxPacket_delivers (blockingWait : Bool) (irqStatus : UInt32) :
    Delivers (readRxPacket chip blockingWait irqStatus) := by
  apply Returns.skip
  intro status
  refine Returns.skip fun rxBuf => Returns.skip fun freq => Returns.skip fun _ => ?_
  apply Returns.ite
  · intro _
    exact delivers_none
  · intro _
    apply Returns.pure
    intro reception hreception
    rw [← Option.some.inj hreception]
    rfl

theorem finalizeReceive_delivers (irq : UInt32) : Delivers (finalizeReceive chip irq) :=
  Returns.ite (fun _ => Returns.skip fun _ => delivers_none)
    fun _ => readRxPacket_delivers chip true irq

theorem waitForPacket_delivers (timeoutMs : UInt32) (polls : ℕ) :
    Delivers (waitForPacket chip timeoutMs polls) := by
  refine Returns.skip fun start => Returns.skip fun irq => ?_
  cases irq with
  | none => exact delivers_none
  | some irq =>
    refine Returns.ite (fun _ => finalizeReceive_delivers chip irq) fun _ => ?_
    refine Returns.skip fun syncUs => Returns.skip fun _ => ?_
    refine Returns.bind (tryEarlyCompletion_delivers chip syncUs irq start timeoutMs polls) ?_
    intro early hearly
    cases early with
    | some reception => exact Returns.pure hearly
    | none =>
      apply Returns.skip
      intro irq
      cases irq with
      | none => exact delivers_none
      | some irq => exact finalizeReceive_delivers chip irq

theorem checkForPacket_delivers (polls : ℕ) : Delivers (checkForPacket chip polls) := by
  apply Returns.skip
  intro fired
  refine Returns.ite (fun _ => delivers_none) fun _ => ?_
  refine Returns.skip fun _ => Returns.skip fun irq => ?_
  refine Returns.ite (fun _ => ?_) fun _ => Returns.ite (fun _ => ?_) fun _ =>
    Returns.ite (fun _ => readRxPacket_delivers chip false irq) fun _ => ?_
  · exact Returns.ite (fun _ => Returns.skip fun _ => delivers_none) fun _ => delivers_none
  · refine Returns.skip fun syncUs => Returns.skip fun startMs => Returns.skip fun _ =>
      Returns.skip fun _ => ?_
    refine Returns.bind (tryEarlyCompletion_delivers chip syncUs irq startMs _ polls) ?_
    intro early hearly
    cases early with
    | some reception => exact Returns.pure hearly
    | none => exact Returns.skip fun _ => delivers_none
  · exact Returns.skip fun _ => delivers_none

/-- Whatever the chip answers, a delivered packet that parses was found with its checksum exactly
when the window holds a CRC-valid slice or its raw bytes do not look like a frame. -/
theorem delivered_is_crc_valid_iff (timeoutMs : UInt32) (polls : ℕ) :
    Returns (waitForPacket chip timeoutMs polls)
      (fun r => ∀ reception ∈ r, OnlyCrcValid reception ↔ CrcDecides reception.capture) ∧
    Returns (checkForPacket chip polls)
      (fun r => ∀ reception ∈ r, OnlyCrcValid reception ↔ CrcDecides reception.capture) := by
  constructor
  · refine (waitForPacket_delivers chip timeoutMs polls).weaken ?_
    intro r hr reception hreception
    exact onlyCrcValid_iff (hr reception hreception)
  · refine (checkForPacket_delivers chip polls).weaken ?_
    intro r hr reception hreception
    exact onlyCrcValid_iff (hr reception hreception)

end

/-- A chip whose buffer holds noise that happens to begin like a header, with a short reported
length. -/
def noisyChip : SoftPhyChip PUnit where
  millis s := (0, s)
  micros s := (0, s)
  isDioFired s := (true, s)
  readIrqStatusRaw s := (0x02, s)
  getRxBufferStatus s := ((9, 0), s)
  readRxBuffer _ s := (fun i => if i = 0 then 0x08 else 0, s)
  currentFreq _ := freqCh2
  command _ s := s
  syncWordValidBit := 0x08
  rxDoneBit := 0x02
  activityIrqMask := 0x0A
  earlyRxReadOffset := none

theorem noise_delivered_as_frame :
    ∃ reception, (checkForPacket noisyChip 1 ⟨⟨⟩, []⟩).1 = some reception ∧
      (parse reception.packet.data).isSome = true ∧
      (findUartProbe reception.capture.raw).valid = false :=
  ⟨_, rfl, by decide, by decide⟩

/-- The bits of a window up to the end of a slice's checksum. -/
def endBit (c : Slice) : ℕ := c.bitOffset + 10 * (c.start + c.len + 2)

theorem decode_take (raw : List UInt8) (n o capacity : ℕ) :
    decodeUartProbe (raw.take n) o capacity =
      (decodeUartProbe raw o capacity).take ((8 * n - o) / 10) := by
  rw [decodeUartProbe_eq, decodeUartProbe_eq, bitsOf_take, List.drop_take, readCells_take]

theorem isCrcValidFrame_take (decoded : List UInt8) (n start len : ℕ) :
    isCrcValidFrame (decoded.take n) start len = true ↔
      isCrcValidFrame decoded start len = true ∧ start + len + 2 ≤ n := by
  rw [isCrcValidFrame_iff, isCrcValidFrame_iff]
  by_cases hfits : start + len + 2 ≤ n
  · have hbytes : ((decoded.take n).drop start).take len = (decoded.drop start).take len := by
      rw [List.drop_take, List.take_take, Nat.min_eq_left (by omega)]
    have hcrc : receivedCrc (decoded.take n) (start + len) = receivedCrc decoded (start + len) := by
      simp only [receivedCrc, List.getD_eq_getElem?_getD]
      rw [List.getElem?_take_of_lt (by omega), List.getElem?_take_of_lt (by omega)]
    have hlength : start + len + 2 ≤ (decoded.take n).length ↔ start + len + 2 ≤ decoded.length := by
      rw [List.length_take]
      omega
    rw [hbytes, hcrc, hlength]
    tauto
  · have hshort : ¬ start + len + 2 ≤ (decoded.take n).length := by
      rw [List.length_take]
      omega
    tauto

/-- A shorter window holds the slices of a longer one that end in it. -/
theorem crcValid_take (raw : List UInt8) (n : ℕ) (c : Slice) :
    CrcValid (raw.take n) c ↔ CrcValid raw c ∧ endBit c ≤ 8 * n := by
  unfold CrcValid endBit
  rw [decode_take, isCrcValidFrame_take]
  have hend : c.start + c.len + 2 ≤ (8 * n - c.bitOffset) / 10 ↔
      c.bitOffset + 10 * (c.start + c.len + 2) ≤ 8 * n := by omega
  rw [hend, and_assoc]

theorem bytes_length {raw : List UInt8} {c : Slice} (h : CrcValid raw c) :
    (c.bytes raw).length = c.len := by
  have hbounds := isCrcValidFrame_bounds h.2
  rw [Slice.bytes, List.length_take, List.length_drop]
  omega

section

variable {f : IoFrame} {packet memory : List UInt8} {k idle : ℕ}

theorem onAir_take {trailing : List Bool} (hair : OnAir k packet trailing memory) {n : ℕ}
    (hfits : k + 10 * (packet.length + 2) ≤ 8 * n) :
    OnAir k packet (trailing.take (8 * n - (k + 10 * (packet.length + 2)))) (memory.take n) := by
  have hcells : (cells (withCrc packet)).length = 10 * (packet.length + 2) := by simp [withCrc]
  unfold OnAir at hair ⊢
  rw [bitsOf_take, hair, List.take_append, List.take_append, List.length_replicate, hcells,
    List.take_of_length_le (by rw [List.length_replicate]; omega),
    List.take_of_length_le (by rw [hcells]; omega)]
  congr 3
  omega

/-- A frame that a window holds whole is what the window yields. -/
theorem frame_of_window (hser : serialize f = some packet)
    (hcommand : isKnownIoCommand f.cmd = true ∨ is1w f = true) (hk : k ≤ 9)
    (hair : OnAir k packet (List.replicate idle true) memory) {n : ℕ}
    (hfits : k + 10 * (packet.length + 2) ≤ 8 * n) :
    (findUartProbe (memory.take n)).valid = true ∧
      (findUartProbe (memory.take n)).frame = packet := by
  obtain ⟨hfirst, hbytes⟩ := isFirst_onAir hser hcommand (Nat.lt_succ_of_le hk)
    (onAir_take hair hfits) (by
      intro _ bit hbit
      exact List.eq_of_mem_replicate (List.mem_of_mem_take hbit))
  rw [findUartProbe_of_first hfirst]
  exact ⟨rfl, hbytes⟩

theorem serialize_shape (hser : serialize f = some packet) :
    (∃ rest, packet = f.ctrl0 :: rest) ∧ frameMinSize ≤ frameLength f ∧
      packet.length = frameLength f + if f.mac.isSome then hmacSize else 0 := by
  unfold serialize at hser
  split_ifs at hser with hmin hlen htrailer
  rw [← Option.some.inj hser]
  refine ⟨⟨_, rfl⟩, Nat.not_lt.mp hmin, ?_⟩
  have hdata : frameMinSize + f.data.length = frameLength f := not_not.mp hlen
  cases hmac : f.mac with
  | none =>
    simp [NodeId.bytes]
    simp only [frameMinSize] at hdata
    omega
  | some m =>
    simp [NodeId.bytes, hmacSize]
    simp only [frameMinSize] at hdata
    omega

private theorem le_foldl_peek (raw : List UInt8) (offsets : List ℕ) (best : ℕ) :
    best ≤ offsets.foldl (peekStep raw) best ∧
    (best ≤ frameMaxDeclaredSize → offsets.foldl (peekStep raw) best ≤ frameMaxDeclaredSize) ∧
    ∀ o ∈ offsets, ∀ ctrl0, decodeUartProbe raw o 1 = [ctrl0] →
      frameMinSize ≤ declaredLength ctrl0 →
        declaredLength ctrl0 ≤ offsets.foldl (peekStep raw) best := by
  induction offsets generalizing best with
  | nil => exact ⟨Nat.le_refl _, id, fun _ h => nomatch h⟩
  | cons o offsets ih =>
    obtain ⟨hbest, hmax, hrest⟩ := ih (peekStep raw best o)
    have hstep : best ≤ peekStep raw best o ∧
        (best ≤ frameMaxDeclaredSize → peekStep raw best o ≤ frameMaxDeclaredSize) ∧
        ∀ ctrl0, decodeUartProbe raw o 1 = [ctrl0] → frameMinSize ≤ declaredLength ctrl0 →
          declaredLength ctrl0 ≤ peekStep raw best o := by
      unfold peekStep
      split
      · next c hc =>
        have hdeclared := declaredLength_le c
        dsimp only
        split_ifs with himplausible
        · refine ⟨Nat.le_refl _, id, ?_⟩
          intro ctrl0 h hmin
          rw [hc] at h
          rw [← (List.cons.inj h).1] at hmin
          omega
        · refine ⟨Nat.le_max_right _ _, fun h => Nat.max_le.mpr ⟨hdeclared, h⟩, ?_⟩
          intro ctrl0 h _
          rw [hc] at h
          rw [← (List.cons.inj h).1]
          exact Nat.le_max_left _ _
      · next hnone =>
        exact ⟨Nat.le_refl _, id, fun ctrl0 h => absurd h (hnone ctrl0)⟩
    refine ⟨hstep.1.trans hbest, fun h => hmax (hstep.2.1 h), ?_⟩
    intro o' ho' ctrl0 hctrl0 hmin
    rcases List.mem_cons.mp ho' with rfl | ho'
    · exact (hstep.2.2 ctrl0 hctrl0 hmin).trans hbest
    · exact hrest o' ho' ctrl0 hctrl0 hmin

/-- The header is read at the frame's own alignment, so that the peeked length is no shorter than
the declared one. -/
theorem frameLength_le_peek {trailing : List Bool} (hser : serialize f = some packet) (hk : k ≤ 9)
    (hair : OnAir k packet trailing memory) :
    frameLength f ≤ softPhyPeekFrameLength (memory.take softPhyEarlyHeaderRawBytes) ∧
      softPhyPeekFrameLength (memory.take softPhyEarlyHeaderRawBytes) ≤ frameMaxDeclaredSize := by
  obtain ⟨⟨rest, hhead⟩, hmin, -⟩ := serialize_shape hser
  have hdrop : (bitsOf memory).drop k =
      cell f.ctrl0 ++ (cells (withCrc packet).tail ++ trailing) := by
    rw [OnAir] at hair
    rw [hair, List.drop_left' List.length_replicate, hhead, ← List.append_assoc]
    rfl
  have hctrl0 : decodeUartProbe (memory.take softPhyEarlyHeaderRawBytes) k 1 = [f.ctrl0] := by
    rw [decode_take, decodeUartProbe_eq, hdrop, readCells_cell]
    exact List.take_of_length_le (by
      simp only [readCells, List.length_singleton, softPhyEarlyHeaderRawBytes]
      omega)
  obtain ⟨-, hmax, hpeek⟩ := le_foldl_peek (memory.take softPhyEarlyHeaderRawBytes)
    (List.range uartProbeMaxBitOffset) 0
  exact ⟨hpeek k (List.mem_range.mpr (Nat.lt_succ_of_le hk)) f.ctrl0 hctrl0 hmin,
    hmax (Nat.zero_le _)⟩

/-- The early read reaches the end of a frame without a trailer, and stays in the full window. -/
theorem earlyReadLen_bounds {trailing : List Bool} (hser : serialize f = some packet) (hk : k ≤ 9)
    (hair : OnAir k packet trailing memory) :
    k + 10 * (frameLength f + 2) ≤ 8 * earlyReadLen (memory.take softPhyEarlyHeaderRawBytes) ∧
      earlyReadLen (memory.take softPhyEarlyHeaderRawBytes) ≤ softPhyRxProbePacketLen := by
  obtain ⟨hdeclared, hmax⟩ := frameLength_le_peek hser hk hair
  simp only [earlyReadLen, softPhyRawBytesForFrame, softPhyEarlyReadMarginBytes, frameCrcSize,
    uartCellBits, radioPacketBufferSize, softPhyRxProbePacketLen, frameMaxDeclaredSize] at *
  omega

/-- What the early read and the full read see of the chip's buffer. -/
def earlyWindow (memory : List UInt8) : List UInt8 :=
  memory.take (earlyReadLen (memory.take softPhyEarlyHeaderRawBytes))

def fullWindow (memory : List UInt8) : List UInt8 :=
  memory.take (rawProbeLen softPhyRxProbePacketLen)

/-- A valid early read yields the frame that the full read would yield. -/
def EarlyAgrees (memory : List UInt8) : Prop :=
  (findUartProbe (earlyWindow memory)).valid = true →
    (findUartProbe (fullWindow memory)).valid = true ∧
      (findUartProbe (fullWindow memory)).frame = (findUartProbe (earlyWindow memory)).frame

/-- The early read reaches the end of the frame; or no part of it is a CRC-valid frame; or the full
window does not reach the end either, and begins with the same CRC-valid frame. -/
def EarlyReadIsWhole (f : IoFrame) (packet : List UInt8) (k : ℕ) (memory : List UInt8) : Prop :=
  (f.mac = none ∨
    k + 10 * (packet.length + 2) ≤ 8 * earlyReadLen (memory.take softPhyEarlyHeaderRawBytes)) ∨
  (∀ c, ¬ CrcValid (earlyWindow memory) c) ∨
  8 * softPhyRxProbePacketLen < k + 10 * (packet.length + 2) ∧
    ∃ c c', IsFirst (earlyWindow memory) c ∧ IsFirst (fullWindow memory) c' ∧
      c.bytes (earlyWindow memory) = c'.bytes (fullWindow memory)

/-- A slice of a window that ends before the frame does is not the frame. -/
theorem bytes_ne_packet (hair : OnAir k packet (List.replicate idle true) memory) {n : ℕ}
    (hcut : 8 * n < k + 10 * (packet.length + 2)) {c : Slice} (hc : CrcValid (memory.take n) c) :
    c.bytes (memory.take n) ≠ packet := by
  intro hpacket
  have hlength := bytes_length hc
  obtain ⟨hvalid, hend⟩ := (crcValid_take memory n c).mp hc
  have haligned : k ≤ c.bitOffset := by
    by_contra hbefore
    have hbounds := isCrcValidFrame_bounds hvalid.2
    rw [decode_idle hair (Nat.not_le.mp hbefore), List.length_nil] at hbounds
    omega
  rw [hpacket] at hlength
  rw [endBit] at hend
  omega

/-- A reception that ends early on a frame delivers what waiting for the full window would, exactly
when the early read is whole in this sense. -/
theorem early_agrees_iff (hser : serialize f = some packet)
    (hcommand : isKnownIoCommand f.cmd = true ∨ is1w f = true) (hk : k ≤ 9)
    (hair : OnAir k packet (List.replicate idle true) memory) :
    EarlyAgrees memory ↔ EarlyReadIsWhole f packet k memory := by
  obtain ⟨hearly, hwindow⟩ := earlyReadLen_bounds hser hk hair
  obtain ⟨-, -, hlength⟩ := serialize_shape hser
  by_cases hwhole : f.mac = none ∨
      k + 10 * (packet.length + 2) ≤ 8 * earlyReadLen (memory.take softPhyEarlyHeaderRawBytes)
  case pos =>
    refine iff_of_true ?_ (.inl hwhole)
    have hfits : k + 10 * (packet.length + 2) ≤
        8 * earlyReadLen (memory.take softPhyEarlyHeaderRawBytes) := by
      rcases hwhole with hnone | hfits
      · rw [hnone, Option.isSome_none, if_neg Bool.false_ne_true, Nat.add_zero] at hlength
        rw [hlength]
        exact hearly
      · exact hfits
    intro _
    have hfull := frame_of_window hser hcommand hk hair (hfits.trans (Nat.mul_le_mul_left 8 hwindow))
    exact ⟨hfull.1, hfull.2.trans (frame_of_window hser hcommand hk hair hfits).2.symm⟩
  case neg =>
    have hcut := Nat.not_le.mp fun h => hwhole (.inr h)
    rcases findUartProbe_cases (earlyWindow memory) with
      ⟨c, hfirst, hvalid, hframe⟩ | ⟨hinvalid, hnone⟩
    case inr =>
      refine iff_of_true ?_ (.inr (.inl hnone))
      intro hvalid
      rw [hinvalid] at hvalid
      cases hvalid
    case inl =>
      by_cases hlong : 8 * softPhyRxProbePacketLen < k + 10 * (packet.length + 2)
      case neg =>
        -- The full window holds the frame; the early slice is a part of it, not the frame.
        have hfull := frame_of_window hser hcommand hk hair (Nat.not_lt.mp hlong)
        refine iff_of_false ?_ ?_
        · intro hagrees
          apply bytes_ne_packet hair hcut hfirst.1
          rw [← hfull.2]
          exact (hframe.symm.trans (hagrees hvalid).2.symm)
        · rintro (hreached | hnothing | ⟨hcontra, -⟩)
          · exact hwhole hreached
          · exact hnothing c hfirst.1
          · exact hlong hcontra
      case pos =>
        constructor
        · intro hagrees
          obtain ⟨hvalidFull, hsame⟩ := hagrees hvalid
          rcases findUartProbe_cases (fullWindow memory) with
            ⟨c', hfirst', -, hframe'⟩ | ⟨hinvalid, -⟩
          · exact .inr (.inr ⟨hlong, c, c', hfirst, hfirst', by rw [← hframe, ← hframe', hsame]⟩)
          · rw [hvalidFull] at hinvalid
            cases hinvalid
        · rintro (hreached | hnothing | ⟨-, d, d', hd, hd', hsame⟩)
          · exact absurd hreached hwhole
          · exact absurd hfirst.1 (hnothing c)
          · intro _
            rw [findUartProbe_of_first hd, findUartProbe_of_first hd']
            exact ⟨rfl, hsame.symm⟩

end

/-- An add-controller frame whose trailer begins with the checksum of what is before it. -/
def trailerFrame : IoFrame where
  ctrl0 := 0xFC
  ctrl1 := 0
  dst := ⟨0x00, 0x00, 0x3F⟩
  src := ⟨0x12, 0x34, 0x56⟩
  cmd := cmdOnewayAddController
  data := List.replicate 20 0
  mac := some #v[0x2A, 0xFA, 0, 0, 0, 0]
  data_le := by decide

def trailerPacket : List UInt8 := (serialize trailerFrame).getD []

/-- The chip's buffer when a packet arrives without idle bits before it. -/
def airMemory (packet : List UInt8) : List UInt8 :=
  (uartEncodePacket (withCrc packet) 64).getD [] ++ List.replicate 16 0xFF

/-- The early read stops inside the trailer, where a shorter frame ends. -/
theorem early_read_truncates_trailer :
    serialize trailerFrame = some trailerPacket ∧ is1w trailerFrame = true ∧
      OnAir 0 trailerPacket (List.replicate 134 true) (airMemory trailerPacket) ∧
      ¬ EarlyAgrees (airMemory trailerPacket) := by
  refine ⟨by decide, by decide, ?_, ?_⟩
  · unfold OnAir
    decide +kernel
  · unfold EarlyAgrees
    decide +kernel

theorem early_agrees_iff_trailer :
    EarlyAgrees (airMemory trailerPacket) ↔
      EarlyReadIsWhole trailerFrame trailerPacket 0 (airMemory trailerPacket) := by
  have hair : OnAir 0 trailerPacket (List.replicate 134 true) (airMemory trailerPacket) := by
    unfold OnAir
    decide +kernel
  exact early_agrees_iff (by decide) (.inr (by decide)) (by decide) hair

end HomeIoControl.SoftPhyReceptions
