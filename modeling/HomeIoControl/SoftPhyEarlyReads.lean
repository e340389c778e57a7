import HomeIoControl.SoftPhyReceptions

/-!
# Catching a frame on its own air time

The early read is sized by the length peeked at in the header. It always reaches the end of a frame
without a trailer, and the probe always finds one in it; it finds that very frame unless what
follows it on the air makes it the beginning of an add-controller frame with a trailer.
-/

namespace HomeIoControl.SoftPhyEarlyReads

open SerialCells ProtocolFrames RadioLinks SoftPhy SoftPhyProbes SoftPhyDriver SoftPhyReceptions

/-- The window goes on behind an add-controller frame as a trailer would: six more bytes are read,
and the checksum behind them is the one of all. -/
def ReadsOnAsTrailer (f : IoFrame) (packet : List UInt8) (k : ℕ) (window : List UInt8) : Prop :=
  let decoded := decodeUartProbe window k radioPacketBufferSize
  f.cmd = cmdOnewayAddController ∧ packet.length + hmacSize + 2 ≤ decoded.length ∧
    crcCcitt (decoded.take (packet.length + hmacSize)) =
      receivedCrc decoded (packet.length + hmacSize)

instance (f : IoFrame) (packet : List UInt8) (k : ℕ) (window : List UInt8) :
    Decidable (ReadsOnAsTrailer f packet k window) :=
  inferInstanceAs (Decidable (_ ∧ _))

section

variable {f : IoFrame} {packet window memory : List UInt8} {k : ℕ} {trailing : List Bool}

theorem capacity_of_serialize (hser : serialize f = some packet) :
    packet.length + 2 ≤ radioPacketBufferSize := by
  have hlength := parse_length (parse_serialize hser)
  simp only [frameMaxDeclaredSize, hmacSize, radioPacketBufferSize] at *
  omega

/-- With a trailer's six bytes behind it an add-controller frame parses to a plausible one. -/
theorem parse_longer (hser : serialize f = some packet) (hmac : f.mac = none)
    (hcommand : isKnownIoCommand f.cmd = true ∨ is1w f = true)
    (hcmd : f.cmd = cmdOnewayAddController) {candidate : List UInt8} (hbegins : packet <+: candidate)
    (hlength : candidate.length = packet.length + hmacSize) :
    ∃ g, parse candidate = some g ∧ isPlausibleUartFrame g candidate.length = true := by
  obtain ⟨more, rfl⟩ := hbegins
  have hhead := parse_head (parse_serialize hser)
  obtain ⟨-, hdeclared, hpacket⟩ := serialize_shape hser
  rw [hmac, Option.isSome_none, if_neg Bool.false_ne_true, Nat.add_zero] at hpacket
  have hget : ∀ i < frameMinSize, (packet ++ more).getD i 0 = packet.getD i 0 := by
    intro i hi
    rw [List.getD_append _ _ _ _ (by omega)]
  have hsome : (parse (packet ++ more)).isSome := by
    rw [parse_isSome_iff, hget 0 (by decide), hget 8 (by decide), ← hhead.1, ← hhead.2]
    exact ⟨hdeclared, .inr ⟨by rw [hlength, hpacket]; rfl, hcmd⟩⟩
  obtain ⟨g, hg⟩ := Option.isSome_iff_exists.mp hsome
  obtain ⟨hctrl0, hgcmd⟩ := parse_head hg
  rw [hget 0 (by decide), ← hhead.1] at hctrl0
  rw [hget 8 (by decide), ← hhead.2] at hgcmd
  refine ⟨g, hg, ?_⟩
  unfold isPlausibleUartFrame
  rw [if_neg (by omega), hgcmd]
  rcases hcommand with hknown | hone
  · rw [if_pos hknown]
  · split_ifs
    · rfl
    · rwa [is1w, hctrl0]

/-- Reading on as a trailer is what makes the longer slice a CRC-valid frame. -/
theorem crcValid_longer_iff (hser : serialize f = some packet) (hmac : f.mac = none)
    (hcommand : isKnownIoCommand f.cmd = true ∨ is1w f = true) (hk : k ≤ 9)
    (hair : OnAir k packet trailing window) :
    f.cmd = cmdOnewayAddController ∧ CrcValid window ⟨k, 0, packet.length + hmacSize⟩ ↔
      ReadsOnAsTrailer f packet k window := by
  simp only [CrcValid, ReadsOnAsTrailer, isCrcValidFrame_iff, List.drop_zero, Nat.zero_add]
  constructor
  · rintro ⟨hcmd, -, hfits, -, -, -, hcrc⟩
    exact ⟨hcmd, hfits, hcrc⟩
  · rintro ⟨hcmd, hfits, hcrc⟩
    have hdecoded := decode_aligned hair (capacity_of_serialize hser)
    have hbegins : packet <+: (decodeUartProbe window k radioPacketBufferSize).take
        (packet.length + hmacSize) := by
      rw [hdecoded, withCrc, List.append_assoc, List.take_append,
        List.take_of_length_le (Nat.le_add_right _ _)]
      exact List.prefix_append _ _
    have hlength : ((decodeUartProbe window k radioPacketBufferSize).take
        (packet.length + hmacSize)).length = packet.length + hmacSize := by
      rw [List.length_take]
      omega
    obtain ⟨g, hg, hplausible⟩ := parse_longer hser hmac hcommand hcmd hbegins hlength
    rw [hlength] at hplausible
    exact ⟨hcmd, Nat.lt_succ_of_le hk, hfits, g, hg, hplausible, hcrc⟩

/-- The probe returns the frame exactly if it does not read on as a trailer. -/
theorem frame_onAir_iff (hser : serialize f = some packet) (hmac : f.mac = none)
    (hcommand : isKnownIoCommand f.cmd = true ∨ is1w f = true) (hk : k ≤ 9)
    (hair : OnAir k packet trailing window) :
    (findUartProbe window).valid = true ∧
      ((findUartProbe window).frame = packet ↔ ¬ ReadsOnAsTrailer f packet k window) := by
  rw [← crcValid_longer_iff hser hmac hcommand hk hair]
  obtain ⟨hvalid, hbytes⟩ := crcValid_onAir hser hcommand (Nat.lt_succ_of_le hk) hair
  rcases findUartProbe_cases window with ⟨c, hfirst, hfound, hframe⟩ | ⟨-, hnone⟩
  case inr => exact absurd hvalid (hnone _)
  refine ⟨hfound, ?_⟩
  rw [hframe]
  constructor
  · rintro hpacket ⟨-, hlonger⟩
    -- the longer slice comes before every slice with the bytes of the frame
    have hlength := bytes_length hfirst.1
    rw [hpacket] at hlength
    refine hfirst.2 _ ?_ hlonger
    have haligned : k ≤ c.bitOffset := by
      by_contra hbefore
      have hbounds := isCrcValidFrame_bounds hfirst.1.2
      rw [decode_idle hair (Nat.not_le.mp hbefore), List.length_nil] at hbounds
      omega
    simp only [Slice.Precedes, hmacSize]
    omega
  · intro hnone
    have hwhole : IsFirst window ⟨k, 0, packet.length⟩ := by
      refine ⟨hvalid, fun c hprecedes hc => hnone ?_⟩
      obtain ⟨hcmd, rfl⟩ := before_onAir hser hair hprecedes hc
      exact ⟨hcmd, hc⟩
    rw [← hframe, findUartProbe_of_first hwhole]
    exact hbytes

/-- The early read of a frame without a trailer holds the whole frame, so that the probe is valid;
it returns exactly the frame unless the early read goes on as a trailer. -/
theorem early_read_catches (hser : serialize f = some packet) (hmac : f.mac = none)
    (hcommand : isKnownIoCommand f.cmd = true ∨ is1w f = true) (hk : k ≤ 9)
    (hair : OnAir k packet trailing memory) :
    frameLength f ≤ softPhyPeekFrameLength (memory.take softPhyEarlyHeaderRawBytes) ∧
      k + 10 * (packet.length + 2) ≤
        8 * earlyReadLen (memory.take softPhyEarlyHeaderRawBytes) ∧
      (findUartProbe (earlyWindow memory)).valid = true ∧
      ((findUartProbe (earlyWindow memory)).frame = packet ↔
        ¬ ReadsOnAsTrailer f packet k (earlyWindow memory)) := by
  obtain ⟨-, -, hlength⟩ := serialize_shape hser
  rw [hmac, Option.isSome_none, if_neg Bool.false_ne_true, Nat.add_zero] at hlength
  obtain ⟨hreaches, -⟩ := earlyReadLen_bounds hser hk hair
  rw [← hlength] at hreaches
  exact ⟨(frameLength_le_peek hser hk hair).1, hreaches,
    frame_onAir_iff hser hmac hcommand hk (onAir_take hair hreaches)⟩

end

/-- A bare add-controller frame whose second control byte also decodes as a longer length. -/
def bareFrame : IoFrame where
  ctrl0 := 0xE8
  ctrl1 := 0x01
  dst := ⟨0x00, 0x00, 0x3F⟩
  src := ⟨0x12, 0x34, 0x56⟩
  cmd := cmdOnewayAddController
  data := []
  mac := none
  data_le := empty_payload_le

def barePacket : List UInt8 := (serialize bareFrame).getD []

/-- The frame and its checksum, read as a frame whose trailer begins with that checksum. -/
def extendedPacket : List UInt8 := withCrc barePacket ++ [0, 0, 0, 0]

/-- The chip's buffer when the bits go on as a trailer. -/
def extendedMemory : List UInt8 :=
  (uartEncodePacket (withCrc extendedPacket) 64).getD [] ++ List.replicate 24 0xFF

theorem bareFrame_onAir :
    OnAir 0 barePacket ((bitsOf extendedMemory).drop 110) extendedMemory := by
  unfold OnAir
  decide +kernel

/-- A frame may be taken for the beginning of a longer one. -/
theorem early_read_reads_on :
    ¬ ∀ (f : IoFrame) (packet memory : List UInt8) (k : ℕ) (trailing : List Bool),
      serialize f = some packet → f.mac = none →
      isKnownIoCommand f.cmd = true ∨ is1w f = true → k ≤ 9 → OnAir k packet trailing memory →
      frameLength f ≤ softPhyPeekFrameLength (memory.take softPhyEarlyHeaderRawBytes) ∧
        k + 10 * (packet.length + 2) ≤
          8 * earlyReadLen (memory.take softPhyEarlyHeaderRawBytes) ∧
        (findUartProbe (earlyWindow memory)).valid = true ∧
        (findUartProbe (earlyWindow memory)).frame = packet := by
  intro h
  have hframe := (h bareFrame barePacket extendedMemory 0 _ (by decide) rfl
    (.inr (by decide)) (by decide) bareFrame_onAir).2.2.2
  exact absurd hframe (by decide +kernel)

theorem early_read_catches_bare :
    (findUartProbe (earlyWindow extendedMemory)).frame = barePacket ↔
      ¬ ReadsOnAsTrailer bareFrame barePacket 0 (earlyWindow extendedMemory) :=
  (early_read_catches (by decide) rfl (.inr (by decide)) (by decide) bareFrame_onAir).2.2.2

end HomeIoControl.SoftPhyEarlyReads
