import HomeIoControl.KeyMaterialLogs

/-!
# Receptions of key material

Two receptions that differ only in the payload of a key-bearing frame and in its checksum. Whether
the log tells them apart is read off the bits: where CRC-valid frames stand in the windows and,
where none does, which of the bits that were sent lie in the raw bytes that are printed.
-/

namespace HomeIoControl.KeyMaterialTwins

open SerialCells ProtocolFrames RadioLinks SoftPhy SoftPhyProbes SoftPhyDriver SoftPhyReceptions
  ReceptionLogs KeyMaterialLogs

/-- The first of the longest decodes of a window. -/
def longestDecode (raw : List UInt8) : List UInt8 :=
  (List.range uartProbeMaxBitOffset).foldl (fun longest bitOffset =>
    let decoded := decodeUartProbe raw bitOffset radioPacketBufferSize
    if longest.length < decoded.length then decoded else longest) []

section

variable {raw decoded : List UInt8}

theorem probeOffsets_decoded {offsets : List ℕ} (best : UartProbeResult)
    (hnone : ∀ o ∈ offsets,
      findCrcValidFrame (decodeUartProbe raw o radioPacketBufferSize) = none) :
    (probeOffsets raw offsets best).decoded = offsets.foldl (fun longest bitOffset =>
      let decoded := decodeUartProbe raw bitOffset radioPacketBufferSize
      if longest.length < decoded.length then decoded else longest) best.decoded := by
  induction offsets generalizing best with
  | nil => rfl
  | cons o offsets ih =>
    have hrest := fun o' ho' => hnone o' (List.mem_cons_of_mem o ho')
    rw [probeOffsets, List.foldl_cons]
    dsimp only
    rw [hnone o List.mem_cons_self]
    split_ifs with hempty hlonger hlonger
    · rw [hempty] at hlonger
      exact absurd hlonger (Nat.not_lt_zero _)
    · exact ih best hrest
    · exact ih _ hrest
    · exact ih best hrest

/-- A probe that fails keeps the longest decode. -/
theorem findUartProbe_decoded (h : ∀ c, ¬ CrcValid raw c) :
    (findUartProbe raw).decoded = longestDecode raw :=
  probeOffsets_decoded {} (findCrcValidFrame_of_none h)

/-- A decode opens with a frame of a length and command, the longest that parses, with a checksum
behind it that fits or does not. -/
structure Opens (decoded : List UInt8) (len : ℕ) (cmd : UInt8) (fits : Bool) : Prop where
  parses : (parse (decoded.take len)).isSome
  longest : ∀ len', len < len' → len' ≤ min decoded.length frameMaxWireSize →
    parse (decoded.take len') = none
  room : len + 2 ≤ decoded.length
  cmd : decoded.getD frameCmdOffset 0 = cmd
  checksum : decide (crcCcitt (decoded.take len) = receivedCrc decoded len) = fits

theorem candidateLens_find?_iff {len : ℕ} :
    ((candidateLens decoded.length).find? fun cl => (parse (decoded.take cl)).isSome) = some len ↔
      frameMinSize ≤ len ∧ len ≤ min decoded.length frameMaxWireSize ∧
        (parse (decoded.take len)).isSome ∧
        ∀ len', len < len' → len' ≤ min decoded.length frameMaxWireSize →
          parse (decoded.take len') = none := by
  rw [candidateLens, find?_descending_iff]
  simp only [Option.isSome_eq_false_iff, Option.isNone_iff_eq_none]
  constructor
  · rintro ⟨hmin, hmax, hparses, hlongest⟩
    exact ⟨hmin, by omega, hparses, fun len' hlonger hbound => hlongest len' hlonger (by omega)⟩
  · rintro ⟨hmin, hmax, hparses, hlongest⟩
    exact ⟨hmin, by omega, hparses, fun len' hlonger hbound => hlongest len' hlonger (by omega)⟩

/-- What the check of a failed decode shows is what the decode opens with. -/
theorem crcCheck_shown_iff {len : ℕ} {cmd : UInt8} {fits : Bool} :
    (crcCheck decoded).map CrcCheck.shown = some (len, cmd, fits) ↔ Opens decoded len cmd fits := by
  have hfound (opens : Opens decoded len cmd fits) :
      ((candidateLens decoded.length).find? fun cl => (parse (decoded.take cl)).isSome) =
        some len := by
    obtain ⟨f, hparse⟩ := Option.isSome_iff_exists.mp opens.parses
    have hlength := parse_length hparse
    have hroom := opens.room
    have hwire : frameMaxDeclaredSize + hmacSize ≤ frameMaxWireSize := by decide
    rw [List.length_take, Nat.min_eq_left (by omega)] at hlength
    exact candidateLens_find?_iff.mpr ⟨hlength.1, by omega, opens.parses, opens.longest⟩
  unfold crcCheck
  constructor
  · intro h
    cases hfind : (candidateLens decoded.length).find? fun cl =>
        (parse (decoded.take cl)).isSome with
    | none =>
      rw [hfind] at h
      cases h
    | some cl =>
      rw [hfind] at h
      dsimp only at h
      obtain ⟨-, -, hparses, hlongest⟩ := candidateLens_find?_iff.mp hfind
      split_ifs at h with hroom
      · simp only [Option.map_some, Option.some.injEq, CrcCheck.shown, Prod.mk.injEq] at h
        obtain ⟨rfl, hcmd, hfits⟩ := h
        exact ⟨hparses, hlongest, hroom, hcmd, hfits⟩
      · cases h
  · intro opens
    rw [hfound opens]
    dsimp only
    rw [if_pos opens.room, Option.map_some, CrcCheck.shown]
    simp only [opens.cmd, opens.checksum]

end

/-- The early window is read and holds a frame, at its first CRC-valid slice. -/
structure ReadEarly (w : Windows) (early : List UInt8) (c : Slice) : Prop where
  read : w.early = some early
  first : IsFirst early c

/-- No frame stands in the early window. -/
def ReadsOn (w : Windows) : Prop := ∀ early ∈ w.early, ∀ c, ¬ CrcValid early c

/-- Only the full window holds a frame. -/
structure ReadFull (w : Windows) (c : Slice) : Prop where
  readsOn : ReadsOn w
  first : IsFirst w.raw c

/-- No window holds a frame. -/
structure Lost (w : Windows) : Prop where
  readsOn : ReadsOn w
  nowhere : ∀ c, ¬ CrcValid w.raw c

/-- The frame that a reception holds. -/
inductive Found (w : Windows) : List UInt8 → Prop
  | early {early : List UInt8} {c : Slice} (read : ReadEarly w early c) : Found w (c.bytes early)
  | full {c : Slice} (read : ReadFull w c) : Found w (c.bytes w.raw)

/-- How many raw bytes of a lost frame are handed on. -/
def handedLen (s : Setting) : ℕ := min s.reportedLen frameMaxWireSize

section

variable {s : Setting} {w : Windows} {early frame : List UInt8} {c : Slice}

theorem ReadEarly.probe (h : ReadEarly w early c) :
    w.earlyProbe = some (findUartProbe early) ∧ (findUartProbe early).frame = c.bytes early := by
  rw [Windows.earlyProbe, h.read, Option.map_some, findUartProbe_of_first h.first]
  exact ⟨rfl, rfl⟩

theorem ReadsOn.probe (h : ReadsOn w) : w.earlyProbe = none := by
  rw [Windows.earlyProbe]
  cases hearly : w.early with
  | none => rfl
  | some early =>
    have hvalid := findUartProbe_of_none (h early hearly)
    rw [Option.map_some, Option.filter_some, hvalid]
    rfl

theorem reading_cases (w : Windows) :
    (∃ early c, ReadEarly w early c) ∨ (∃ c, ReadFull w c) ∨ Lost w := by
  by_cases hon : ReadsOn w
  · by_cases hheld : ∃ c, CrcValid w.raw c
    · obtain ⟨c, hc⟩ := hheld
      obtain ⟨first, hfirst⟩ := exists_isFirst hc
      exact .inr (.inl ⟨first, hon, hfirst⟩)
    · exact .inr (.inr ⟨hon, not_exists.mp hheld⟩)
  · left
    simp only [ReadsOn, not_forall, not_not] at hon
    obtain ⟨early, hearly, c, hc⟩ := hon
    obtain ⟨first, hfirst⟩ := exists_isFirst hc
    exact ⟨early, first, hearly, hfirst⟩

theorem found_or_lost (w : Windows) : (∃ frame, Found w frame) ∨ Lost w := by
  rcases reading_cases w with ⟨early, c, h⟩ | ⟨c, h⟩ | h
  · exact .inl ⟨_, .early h⟩
  · exact .inl ⟨_, .full h⟩
  · exact .inr h

theorem ReadEarly.not_readsOn (h : ReadEarly w early c) : ¬ ReadsOn w :=
  fun hon => hon early h.read c h.first.1

theorem Found.not_lost (h : Found w frame) : ¬ Lost w := by
  intro hlost
  cases h with
  | early read => exact read.not_readsOn hlost.readsOn
  | full read => exact hlost.nowhere _ read.first.1

theorem Found.delivered (h : Found w frame) (s : Setting) : delivered s w = frame := by
  unfold ReceptionLogs.delivered
  cases h with
  | early read =>
    obtain ⟨hprobe, hframe⟩ := read.probe
    rw [hprobe]
    exact hframe
  | full read =>
    rw [read.readsOn.probe]
    dsimp only
    rw [recoverPacket, findUartProbe_of_first read.first]
    rfl

theorem Lost.delivered (h : Lost w) (s : Setting) :
    delivered s w = w.raw.take (handedLen s) := by
  unfold ReceptionLogs.delivered
  rw [h.readsOn.probe]
  dsimp only
  rw [recoverPacket, findUartProbe_of_none h.nowhere]
  rfl

theorem Found.parses (h : Found w frame) : (parse frame).isSome := by
  have hslice {raw : List UInt8} {c : Slice} (first : IsFirst raw c) :
      (parse (c.bytes raw)).isSome := by
    obtain ⟨-, f, hparse, -⟩ := isCrcValidFrame_iff.mp first.1.2
    exact Option.isSome_iff_exists.mpr ⟨f, hparse⟩
  cases h with
  | early read => exact hslice read.first
  | full read => exact hslice read.first

end

/-- Packets that are the same, or differ only behind the header of a key-bearing command. -/
def SameButKey (data data' : List UInt8) : Prop :=
  data.length = data'.length ∧ data.take frameMinSize = data'.take frameMinSize ∧
    (commandCarriesKeyMaterial (data.getD frameCmdOffset 0) = false → data = data')

theorem shown_iff_sameButKey {data data' : List UInt8} (h : frameMinSize ≤ data.length) :
    Shown data data' ↔ SameButKey data data' := by
  rw [shown_iff, SameButKey, IsMasked]
  simp only [h, true_and, Bool.not_eq_true]

theorem Found.shown_iff {w : Windows} {frame : List UInt8} (h : Found w frame)
    (data : List UInt8) : Shown frame data ↔ SameButKey frame data := by
  obtain ⟨f, hparse⟩ := Option.isSome_iff_exists.mp h.parses
  exact shown_iff_sameButKey (parse_length hparse).1

/-- A window into the cells of a packet between other bits, some of all these received wrong. The
window may end before the packet does. -/
def ReceivedAs (before after errors : List Bool) (packet raw : List UInt8) : Prop :=
  bitsOf raw <+: List.zipWith xor (before ++ (cells (withCrc packet) ++ after)) errors

/-- Windows of one length into which two packets were received between the same bits and with the
same errors. -/
def ReceivedAlike (packet packet' raw raw' : List UInt8) : Prop :=
  raw.length = raw'.length ∧ ∃ before after errors,
    ReceivedAs before after errors packet raw ∧ ReceivedAs before after errors packet' raw'

/-- Two receptions that differ only in the payload of a key-bearing frame and in its checksum. -/
structure Twins (s : Setting) where
  header : List UInt8
  payload : List UInt8
  payload' : List UInt8
  header_length : header.length = frameMinSize
  keyBearing : commandCarriesKeyMaterial (header.getD frameCmdOffset 0) = true
  payload_length : payload.length = payload'.length
  windows : Windows
  windows' : Windows
  raw_length : windows.raw.length = rawProbeLen s.reportedLen
  raw_length' : windows'.raw.length = rawProbeLen s.reportedLen
  before : List Bool
  after : List Bool
  errors : List Bool
  received : ReceivedAs before after errors (header ++ payload) windows.raw
  received' : ReceivedAs before after errors (header ++ payload') windows'.raw
  early_alike : Option.Rel (fun early early' => early.length = earlyReadLen s.earlyHeader ∧
    ReceivedAlike (header ++ payload) (header ++ payload') early early')
    windows.early windows'.early

theorem zipWith_xor_left_inj {xs ys errors : List Bool} (hxs : xs.length = errors.length)
    (hys : ys.length = errors.length) :
    List.zipWith xor xs errors = List.zipWith xor ys errors ↔ xs = ys := by
  induction errors generalizing xs ys with
  | nil =>
    rw [List.eq_nil_of_length_eq_zero hxs, List.eq_nil_of_length_eq_zero hys]
    exact iff_of_true rfl rfl
  | cons error errors ih =>
    obtain ⟨x, xs, rfl⟩ := List.exists_cons_of_length_eq_add_one hxs
    obtain ⟨y, ys, rfl⟩ := List.exists_cons_of_length_eq_add_one hys
    rw [List.zipWith_cons_cons, List.zipWith_cons_cons, List.cons.injEq, List.cons.injEq,
      ih (Nat.succ.inj hxs) (Nat.succ.inj hys)]
    exact and_congr_left' (Bool.xor_left_inj)

namespace Twins

variable {s : Setting} (t : Twins s)

def packet : List UInt8 := t.header ++ t.payload

def packet' : List UInt8 := t.header ++ t.payload'

/-- The same bits were sent into the first bytes of the full windows. -/
def SentAlike (n : ℕ) : Prop :=
  (cells (withCrc t.packet)).take (8 * n - t.before.length) =
    (cells (withCrc t.packet')).take (8 * n - t.before.length)

theorem length_packet : t.packet.length = t.packet'.length := by
  rw [packet, packet', List.length_append, List.length_append, t.payload_length]

theorem handedLen_le : handedLen s ≤ rawProbeLen s.reportedLen := by
  have hprobe : min softPhyRxProbePacketLen frameMaxWireSize ≤ softPhyRxProbePacketLen :=
    Nat.min_le_left _ _
  have hbuffer : frameMaxWireSize ≤ radioPacketBufferSize := by decide
  unfold handedLen rawProbeLen
  split_ifs <;> omega

theorem dumpLen_le : dumpLen s ≤ rawProbeLen s.reportedLen := Nat.min_le_left _ _

end Twins

/-- Two texts between the same others begin alike exactly if what they begin with does. -/
theorem take_between_eq_iff {before xs ys after : List Bool} (h : xs.length = ys.length) (n : ℕ) :
    (before ++ (xs ++ after)).take n = (before ++ (ys ++ after)).take n ↔
      xs.take (n - before.length) = ys.take (n - before.length) := by
  simp only [List.take_append, h, List.append_cancel_left_eq, List.append_left_inj]

/-- The first bits of a window are those that were sent into it, some received wrong. -/
theorem ReceivedAs.take {before after errors : List Bool} {packet raw : List UInt8}
    (h : ReceivedAs before after errors packet raw) {n : ℕ} (hn : n ≤ raw.length) :
    bitsOf (raw.take n) = List.zipWith xor
        ((before ++ (cells (withCrc packet) ++ after)).take (8 * n)) (errors.take (8 * n)) ∧
      8 * n ≤ (before ++ (cells (withCrc packet) ++ after)).length ∧ 8 * n ≤ errors.length := by
  have hlength := h.length_le
  rw [length_bitsOf, List.length_zipWith] at hlength
  refine ⟨?_, by omega, by omega⟩
  obtain ⟨rest, hrest⟩ := h
  rw [bitsOf_take, ← List.take_zipWith, ← hrest, List.take_append_of_le_length]
  rw [length_bitsOf]
  omega

namespace Twins

variable {s : Setting} (t : Twins s)

/-- The windows begin with the same bytes exactly if the same bits were sent into these. -/
theorem take_eq_iff {n : ℕ} (hn : n ≤ rawProbeLen s.reportedLen) :
    t.windows.raw.take n = t.windows'.raw.take n ↔ t.SentAlike n := by
  obtain ⟨hbits, hlong, herrors⟩ := t.received.take (n := n) (by rw [t.raw_length]; exact hn)
  obtain ⟨hbits', hlong', -⟩ := t.received'.take (n := n) (by rw [t.raw_length']; exact hn)
  have hbytes : t.windows.raw.take n = t.windows'.raw.take n ↔
      bitsOf (t.windows.raw.take n) = bitsOf (t.windows'.raw.take n) :=
    ⟨congrArg bitsOf, bitsOf_injective⟩
  rw [hbytes, hbits, hbits', zipWith_xor_left_inj
    (by rw [List.length_take, List.length_take]; omega)
    (by rw [List.length_take, List.length_take]; omega)]
  refine take_between_eq_iff ?_ (8 * n)
  simp only [length_cells, withCrc, List.length_append, List.length_cons, t.payload_length]

/-- How many of the raw bytes handed on are printed: fewer where redaction takes the ninth for a
key-bearing command. -/
def printedLen : ℕ :=
  if IsMasked (t.windows.raw.take (handedLen s)) then frameMinSize else handedLen s

theorem shown_raw_iff :
    Shown (t.windows.raw.take (handedLen s)) (t.windows'.raw.take (handedLen s)) ↔
      t.SentAlike t.printedLen := by
  have hhanded := t.take_eq_iff (handedLen_le (s := s))
  have hlength : (t.windows.raw.take (handedLen s)).length =
      (t.windows'.raw.take (handedLen s)).length := by
    rw [List.length_take, List.length_take, t.raw_length, t.raw_length']
  rw [KeyMaterialLogs.shown_iff, printedLen]
  by_cases hmask : IsMasked (t.windows.raw.take (handedLen s))
  · have hlong := hmask.1
    rw [List.length_take, t.raw_length] at hlong
    have hheader := t.take_eq_iff (n := frameMinSize) (by omega)
    rw [if_pos hmask, List.take_take, List.take_take, Nat.min_eq_left (by omega), hheader]
    exact ⟨fun h => h.2.1, fun h => ⟨hlength, h, fun hnot => absurd hmask hnot⟩⟩
  · rw [if_neg hmask, ← hhanded]
    exact ⟨fun h => h.2.2 hmask, fun h => ⟨hlength, by rw [h], fun _ => h⟩⟩

/-- Redaction makes the packets look the same. -/
theorem shown : Shown t.packet t.packet' := by
  have hget : ∀ payload : List UInt8,
      (t.header ++ payload).getD frameCmdOffset 0 = t.header.getD frameCmdOffset 0 := by
    intro payload
    exact List.getD_append _ _ _ _ (by rw [t.header_length]; decide)
  have hmask : ∀ payload : List UInt8, IsMasked (t.header ++ payload) := by
    intro payload
    refine ⟨?_, by rw [hget, t.keyBearing]⟩
    rw [List.length_append, t.header_length]
    exact Nat.le_add_right _ _
  refine ⟨t.length_packet, ?_⟩
  rw [shownBytes, shownBytes, packet, packet', if_pos (hmask _), if_pos (hmask _),
    List.take_left' t.header_length, List.take_left' t.header_length]

/-- Where frames are logged: both receptions hold a frame, in windows of one kind and in a full
window at one place, and the frames are the same but for key material; or neither does, and the
bits that were sent into the printed bytes are the same, as is what the longest decodes open
with. -/
inductive LoggedAlike : Prop
  | early {early early' : List UInt8} {c c' : Slice} (read : ReadEarly t.windows early c)
      (read' : ReadEarly t.windows' early' c') (same : SameButKey (c.bytes early) (c'.bytes early'))
  | full {c : Slice} (read : ReadFull t.windows c) (read' : ReadFull t.windows' c)
      (length : (decodeUartProbe t.windows.raw c.bitOffset radioPacketBufferSize).length =
        (decodeUartProbe t.windows'.raw c.bitOffset radioPacketBufferSize).length)
      (same : SameButKey (c.bytes t.windows.raw) (c.bytes t.windows'.raw))
  | lost (lost : Lost t.windows) (lost' : Lost t.windows') (dumped : t.SentAlike (dumpLen s))
      (printed : t.SentAlike t.printedLen)
      (opens : ∀ len cmd fits, Opens (longestDecode t.windows.raw) len cmd fits ↔
        Opens (longestDecode t.windows'.raw) len cmd fits)

/-- Where they are not, for an idle hub: what is handed on is the same but for key material, be it
the frames held or raw bytes. -/
inductive CapturedAlike : Prop
  | found {frame frame' : List UInt8} (found : Found t.windows frame)
      (found' : Found t.windows' frame') (same : SameButKey frame frame')
  | lost (lost : Lost t.windows) (lost' : Lost t.windows') (printed : t.SentAlike t.printedLen)
  | leftLost {frame' : List UInt8} (lost : Lost t.windows) (found' : Found t.windows' frame')
      (same : SameButKey frame' (t.windows.raw.take (handedLen s)))
  | rightLost {frame : List UInt8} (found : Found t.windows frame) (lost' : Lost t.windows')
      (same : SameButKey frame (t.windows'.raw.take (handedLen s)))

/-- In an exchange: neither or both receptions hold no frame and do not look like one. -/
def UnparsedAlike : Prop :=
  (Lost t.windows ∧ Unparsed (t.windows.raw.take (handedLen s))) ↔
    (Lost t.windows' ∧ Unparsed (t.windows'.raw.take (handedLen s)))

/-- The receptions cannot be told apart by what the setting prints. -/
def Indistinct : Prop :=
  if s.frameLog then t.LoggedAlike
  else
    match s.listener with
    | .idle => t.CapturedAlike
    | .awaiting _ _ => t.UnparsedAlike

end Twins

section

variable {s : Setting} {w w' : Windows}

/-- What a log of frames depends on. -/
theorem alike_logged_iff (hlog : s.frameLog = true) :
    Alike s w w' ↔ AlikeProbed s w w' ∧ Shown (delivered s w) (delivered s w') := by
  constructor
  · intro h
    exact ⟨h.probed hlog, h.shown (.inl hlog)⟩
  · rintro ⟨hprobed, hshown⟩
    exact ⟨fun _ => hprobed, fun _ => hshown, hshown.unparsed, fun _ => hshown.1⟩

theorem alike_captured_iff (hlog : s.frameLog = false) (hidle : s.listener = .idle) :
    Alike s w w' ↔ Shown (delivered s w) (delivered s w') := by
  refine ⟨fun h => h.shown (.inr hidle), fun h => ⟨fun hlog' => ?_, fun _ => h, h.unparsed,
    fun _ => h.1⟩⟩
  rw [hlog] at hlog'
  cases hlog'

theorem alike_awaiting_iff (hlog : s.frameLog = false) {stage : String} {tries : ℕ}
    (hawaiting : s.listener = .awaiting stage tries) :
    Alike s w w' ↔ (Unparsed (delivered s w) ↔ Unparsed (delivered s w')) ∧
      (Unparsed (delivered s w) → (delivered s w).length = (delivered s w').length) := by
  refine ⟨fun h => h.unparsed, fun h => ⟨fun hlog' => ?_, fun hshown => ?_, h⟩⟩
  · rw [hlog] at hlog'
    cases hlog'
  · rcases hshown with hlog' | hidle
    · rw [hlog] at hlog'
      cases hlog'
    · rw [hawaiting] at hidle
      cases hidle

theorem alikeProbed_early {early early' : List UInt8} {c c' : Slice} (read : ReadEarly w early c)
    (read' : ReadEarly w' early' c') : AlikeProbed s w w' := by
  unfold AlikeProbed
  rw [read.probe.1, read'.probe.1]
  trivial

theorem not_alikeProbed_early {early : List UInt8} {c : Slice} (read : ReadEarly w early c)
    (readsOn' : ReadsOn w') : ¬ AlikeProbed s w w' ∧ ¬ AlikeProbed s w' w := by
  unfold AlikeProbed
  rw [read.probe.1, readsOn'.probe]
  exact ⟨id, id⟩

theorem alikeProbed_on (readsOn : ReadsOn w) (readsOn' : ReadsOn w') :
    AlikeProbed s w w' ↔ FoundAlike w.raw w'.raw ∨ LostAlike s w.raw w'.raw := by
  unfold AlikeProbed
  rw [readsOn.probe, readsOn'.probe]

/-- Two full windows that hold frames are probed alike when the frames stand at one place. -/
theorem alikeProbed_full_iff {c c' : Slice} (read : ReadFull w c) (read' : ReadFull w' c') :
    AlikeProbed s w w' ↔ c = c' ∧
      (decodeUartProbe w.raw c.bitOffset radioPacketBufferSize).length =
        (decodeUartProbe w'.raw c'.bitOffset radioPacketBufferSize).length := by
  rw [alikeProbed_on read.readsOn read'.readsOn, FoundAlike, LostAlike,
    findUartProbe_of_first read.first, findUartProbe_of_first read'.first]
  obtain ⟨bitOffset, start, len⟩ := c
  obtain ⟨bitOffset', start', len'⟩ := c'
  simp only [Bool.true_eq_false, false_and, or_false, true_and, Slice.mk.injEq, and_assoc]

/-- Two receptions that hold no frame are probed alike by their raw bytes and longest decodes. -/
theorem alikeProbed_lost_iff (lost : Lost w) (lost' : Lost w') :
    AlikeProbed s w w' ↔ w.raw.take (dumpLen s) = w'.raw.take (dumpLen s) ∧
      ∀ len cmd fits, Opens (longestDecode w.raw) len cmd fits ↔
        Opens (longestDecode w'.raw) len cmd fits := by
  rw [alikeProbed_on lost.readsOn lost'.readsOn, FoundAlike, LostAlike,
    findUartProbe_of_none lost.nowhere, findUartProbe_of_none lost'.nowhere,
    findUartProbe_decoded lost.nowhere, findUartProbe_decoded lost'.nowhere]
  simp only [Bool.false_eq_true, false_and, false_or, true_and]
  refine and_congr_right fun _ => ?_
  simp only [← crcCheck_shown_iff]
  constructor
  · intro h len cmd fits
    rw [h]
  · intro h
    refine Option.ext fun shown => ?_
    exact h shown.1 shown.2.1 shown.2.2

theorem not_alikeProbed_full {c : Slice} (read : ReadFull w c) (lost' : Lost w') :
    ¬ AlikeProbed s w w' ∧ ¬ AlikeProbed s w' w := by
  rw [alikeProbed_on read.readsOn lost'.readsOn, alikeProbed_on lost'.readsOn read.readsOn,
    FoundAlike, LostAlike, FoundAlike, LostAlike, findUartProbe_of_first read.first,
    findUartProbe_of_none lost'.nowhere]
  simp

/-- What is handed on does not parse exactly if no frame is held and the raw bytes do not look like
one. -/
theorem unparsed_delivered_iff (s : Setting) (w : Windows) :
    Unparsed (delivered s w) ↔ Lost w ∧ Unparsed (w.raw.take (handedLen s)) := by
  rcases found_or_lost w with ⟨frame, found⟩ | lost
  · rw [found.delivered]
    refine iff_of_false (fun h => ?_) fun h => found.not_lost h.1
    have hparses := found.parses
    rw [h.2] at hparses
    cases hparses
  · rw [lost.delivered]
    exact ⟨fun h => ⟨lost, h⟩, fun h => h.2⟩

end

namespace Twins

variable {s : Setting} (t : Twins s)

theorem loggedAlike_iff (hlog : s.frameLog = true) :
    Alike s t.windows t.windows' ↔ t.LoggedAlike := by
  rw [alike_logged_iff hlog]
  constructor
  · rintro ⟨hprobed, hshown⟩
    rcases reading_cases t.windows with ⟨early, c, read⟩ | ⟨c, read⟩ | lost <;>
      rcases reading_cases t.windows' with ⟨early', c', read'⟩ | ⟨c', read'⟩ | lost'
    · rw [(Found.early read).delivered, (Found.early read').delivered,
        (Found.early read).shown_iff] at hshown
      exact .early read read' hshown
    · exact absurd hprobed (not_alikeProbed_early read read'.readsOn).1
    · exact absurd hprobed (not_alikeProbed_early read lost'.readsOn).1
    · exact absurd hprobed (not_alikeProbed_early read' read.readsOn).2
    · obtain ⟨rfl, hlength⟩ := (alikeProbed_full_iff read read').mp hprobed
      rw [(Found.full read).delivered, (Found.full read').delivered,
        (Found.full read).shown_iff] at hshown
      exact .full read read' hlength hshown
    · exact absurd hprobed (not_alikeProbed_full read lost').1
    · exact absurd hprobed (not_alikeProbed_early read' lost.readsOn).2
    · exact absurd hprobed (not_alikeProbed_full read' lost).2
    · obtain ⟨hdumped, hopens⟩ := (alikeProbed_lost_iff lost lost').mp hprobed
      rw [lost.delivered, lost'.delivered, t.shown_raw_iff] at hshown
      exact .lost lost lost' ((t.take_eq_iff dumpLen_le).mp hdumped) hshown hopens
  · intro h
    cases h with
    | early read read' same =>
      refine ⟨alikeProbed_early read read', ?_⟩
      rw [(Found.early read).delivered, (Found.early read').delivered,
        (Found.early read).shown_iff]
      exact same
    | full read read' length same =>
      refine ⟨(alikeProbed_full_iff read read').mpr ⟨rfl, length⟩, ?_⟩
      rw [(Found.full read).delivered, (Found.full read').delivered, (Found.full read).shown_iff]
      exact same
    | lost lost lost' dumped printed opens =>
      refine ⟨(alikeProbed_lost_iff lost lost').mpr ⟨(t.take_eq_iff dumpLen_le).mpr dumped, opens⟩,
        ?_⟩
      rw [lost.delivered, lost'.delivered, t.shown_raw_iff]
      exact printed

theorem capturedAlike_iff (hlog : s.frameLog = false) (hidle : s.listener = .idle) :
    Alike s t.windows t.windows' ↔ t.CapturedAlike := by
  rw [alike_captured_iff hlog hidle]
  constructor
  · intro hshown
    rcases found_or_lost t.windows with ⟨frame, found⟩ | lost <;>
      rcases found_or_lost t.windows' with ⟨frame', found'⟩ | lost'
    · rw [found.delivered, found'.delivered, found.shown_iff] at hshown
      exact .found found found' hshown
    · rw [found.delivered, lost'.delivered, found.shown_iff] at hshown
      exact .rightLost found lost' hshown
    · rw [lost.delivered, found'.delivered] at hshown
      exact .leftLost lost found' ((found'.shown_iff _).mp hshown.symm)
    · rw [lost.delivered, lost'.delivered, t.shown_raw_iff] at hshown
      exact .lost lost lost' hshown
  · intro h
    cases h with
    | found found found' same =>
      rw [found.delivered, found'.delivered, found.shown_iff]
      exact same
    | lost lost lost' printed =>
      rw [lost.delivered, lost'.delivered, t.shown_raw_iff]
      exact printed
    | leftLost lost found' same =>
      rw [lost.delivered, found'.delivered]
      exact ((found'.shown_iff _).mpr same).symm
    | rightLost found lost' same =>
      rw [found.delivered, lost'.delivered, found.shown_iff]
      exact same

theorem unparsedAlike_iff (hlog : s.frameLog = false) {stage : String} {tries : ℕ}
    (hawaiting : s.listener = .awaiting stage tries) :
    Alike s t.windows t.windows' ↔ t.UnparsedAlike := by
  rw [alike_awaiting_iff hlog hawaiting, unparsed_delivered_iff, unparsed_delivered_iff,
    UnparsedAlike]
  refine ⟨fun h => h.1, fun h => ⟨h, fun hlost => ?_⟩⟩
  rw [hlost.1.delivered, (h.mp hlost).1.delivered, List.length_take, List.length_take,
    t.raw_length, t.raw_length']

/-- The log tells two receptions apart that differ only in key material exactly when what it prints
of them distinguishes them: as CRC-valid frames, or by the bits sent into raw bytes. -/
theorem logged_alike_iff : visibleLog s t.windows = visibleLog s t.windows' ↔ t.Indistinct := by
  rw [visibleLog_eq_iff, Indistinct]
  cases hlog : s.frameLog with
  | true => exact t.loggedAlike_iff hlog
  | false =>
    rw [if_neg Bool.false_ne_true]
    cases hlistener : s.listener with
    | idle => exact t.capturedAlike_iff hlog hlistener
    | awaiting stage tries => exact t.unparsedAlike_iff hlog hlistener

end Twins

/-- An idle hub hears 48 raw bytes, in a build with or without the log of frames. -/
def heardIdle (frameLog : Bool) : Setting where
  frameLog := frameLog
  chipName := "sx1262"
  freqHz := freqCh2
  timestampMs := 61000
  airUs := 0
  earlyHeader := []
  rawReportedLen := 48
  rxOffset := 0
  listener := .idle

def corruptedWindows : Windows :=
  ⟨none, [12, 64, 18, 4, 89, 53, 74, 176, 5, 1, 38, 64, 16, 4, 1, 0, 64, 16, 4, 1, 0, 64, 16, 4, 1,
    0, 64, 16, 4, 1, 0, 74, 17, 247] ++ List.replicate 14 255⟩

def corruptedWindows' : Windows :=
  ⟨none, [12, 64, 18, 4, 89, 53, 74, 176, 5, 1, 38, 95, 240, 4, 1, 0, 64, 16, 4, 1, 0, 64, 16, 4, 1,
    0, 64, 16, 4, 1, 0, 89, 19, 31] ++ List.replicate 14 255⟩

/-- Two key transfers, their keys different in the first byte, with one bit of the destination
received wrong. -/
def corruptedKeyTransfers (frameLog : Bool) : Twins (heardIdle frameLog) where
  header := [0x18, 0x00, 0x12, 0x34, 0x56, 0xAA, 0x00, 0x01, 0x32]
  payload := List.replicate 16 0x00
  payload' := 0xFF :: List.replicate 15 0x00
  header_length := rfl
  keyBearing := rfl
  payload_length := rfl
  windows := corruptedWindows
  windows' := corruptedWindows'
  raw_length := by cases frameLog <;> decide
  raw_length' := by cases frameLog <;> decide
  before := []
  after := List.replicate 114 true
  errors := (List.replicate 384 false).set 25 true
  received := by
    unfold ReceivedAs
    decide +kernel
  received' := by
    unfold ReceivedAs
    decide +kernel
  early_alike := Option.Rel.none

/-- The log tells the two keys apart, in both builds. -/
theorem corruptedKeyTransfers_logged :
    visibleLog (heardIdle true) (corruptedKeyTransfers true).windows ≠
        visibleLog (heardIdle true) (corruptedKeyTransfers true).windows' ∧
      visibleLog (heardIdle false) (corruptedKeyTransfers false).windows ≠
        visibleLog (heardIdle false) (corruptedKeyTransfers false).windows' := by
  have hlost : (findUartProbe corruptedWindows.raw).valid = false := by decide +kernel
  have hlost' : (findUartProbe corruptedWindows'.raw).valid = false := by decide +kernel
  constructor
  · rw [Ne, visibleLog_eq_iff]
    intro halike
    have hprobed : FoundAlike corruptedWindows.raw corruptedWindows'.raw ∨
        LostAlike _ corruptedWindows.raw corruptedWindows'.raw := halike.probed rfl
    rcases hprobed with hfound | hraw
    · rw [hfound.1] at hlost
      cases hlost
    · exact absurd hraw.2.2.1 (by decide)
  · rw [Ne, visibleLog_eq_iff]
    intro halike
    have hshown : Shown (delivered (heardIdle false) corruptedWindows)
        (delivered (heardIdle false) corruptedWindows') := halike.shown (.inr rfl)
    rw [delivered_of_lost rfl hlost, delivered_of_lost rfl hlost'] at hshown
    exact absurd hshown.2 (by decide)

/-- Both packets arrive without errors, behind up to nine idle bits. -/
def Intact (packet packet' raw raw' : List UInt8) : Prop :=
  ∃ k < uartProbeMaxBitOffset, ∃ trailing, OnAir k packet trailing raw ∧
    OnAir k packet' trailing raw' ∧
    (packet.getD 8 0 = cmdOnewayAddController → ∀ bit ∈ trailing, bit = true)

section

variable {packet packet' raw raw' : List UInt8} {f : IoFrame}

/-- Intact packets are found, at the same place. -/
theorem found_of_intact (hparse : parse packet = some f)
    (hcommand : isKnownIoCommand f.cmd = true ∨ is1w f = true) (hshown : Shown packet packet')
    (hintact : Intact packet packet' raw raw') :
    FoundAlike raw raw' ∧ (findUartProbe raw).frame = packet ∧
      (findUartProbe raw').frame = packet' := by
  obtain ⟨k, hk, trailing, hair, hair', hidle⟩ := hintact
  obtain ⟨f', hparse'⟩ := Option.isSome_iff_exists.mp
    (hshown.parse_isSome.mp (by rw [hparse]; rfl))
  obtain ⟨hctrl0, hcmd, -, -⟩ := parse_header hparse
  obtain ⟨hctrl0', hcmd', -, -⟩ := parse_header hparse'
  have hsame : f'.cmd = f.cmd ∧ f'.ctrl0 = f.ctrl0 := by
    rw [hcmd, hcmd', hctrl0, hctrl0', hshown.getD_eq (show 8 < frameMinSize by decide),
      hshown.getD_eq (show 0 < frameMinSize by decide)]
    exact ⟨rfl, rfl⟩
  have hcommand' : isKnownIoCommand f'.cmd = true ∨ is1w f' = true := by
    rw [is1w, hsame.1, hsame.2]
    exact hcommand
  obtain ⟨hfirst, hbytes⟩ := isFirst_onAir (serialize_parse hparse) hcommand hk hair
    (by rw [hcmd]; exact hidle)
  obtain ⟨hfirst', hbytes'⟩ := isFirst_onAir (serialize_parse hparse') hcommand' hk hair'
    (by rw [hsame.1, hcmd]; exact hidle)
  have hcapacity : packet.length + 2 ≤ radioPacketBufferSize := by
    have hlength := parse_length hparse
    simp only [frameMaxDeclaredSize, hmacSize, radioPacketBufferSize] at *
    omega
  have hdecoded : (decodeUartProbe raw k radioPacketBufferSize).length =
      (decodeUartProbe raw' k radioPacketBufferSize).length := by
    rw [decode_aligned hair hcapacity, decode_aligned hair' (hshown.1 ▸ hcapacity), hshown.1]
    simp [withCrc, hshown.1]
  rw [FoundAlike, findUartProbe_of_first hfirst, findUartProbe_of_first hfirst']
  exact ⟨⟨rfl, rfl, rfl, rfl, hshown.1, hdecoded⟩, hbytes, hbytes'⟩

end

/-- Intact key-bearing frames leave the same log, whatever they carry. -/
theorem visibleLog_of_intact {s : Setting} (t : Twins s) {f : IoFrame}
    (hparse : parse t.packet = some f)
    (hcommand : isKnownIoCommand f.cmd = true ∨ is1w f = true)
    (hraw : Intact t.packet t.packet' t.windows.raw t.windows'.raw)
    (hearly : Option.Rel (Intact t.packet t.packet') t.windows.early t.windows'.early) :
    visibleLog s t.windows = visibleLog s t.windows' := by
  rw [visibleLog_eq_iff]
  have hdelivered : AlikeProbed s t.windows t.windows' ∧ delivered s t.windows = t.packet ∧
      delivered s t.windows' = t.packet' := by
    unfold AlikeProbed delivered Windows.earlyProbe
    cases hw : t.windows.early <;> cases hw' : t.windows'.early <;> rw [hw, hw'] at hearly
    · obtain ⟨hfound, hframe, hframe'⟩ := found_of_intact hparse hcommand t.shown hraw
      simp only [Option.map_none, Option.filter_none]
      refine ⟨.inl hfound, ?_, ?_⟩
      · rw [recoverPacket, if_pos hfound.1, hframe]
      · rw [recoverPacket, if_pos hfound.2.1, hframe']
    · cases hearly
    · cases hearly
    · cases hearly with
      | some hintact =>
        obtain ⟨hfound, hframe, hframe'⟩ := found_of_intact hparse hcommand t.shown hintact
        simp only [Option.map_some, Option.filter_some, hfound.1, hfound.2.1, if_true]
        exact ⟨trivial, hframe, hframe'⟩
  obtain ⟨hprobed, hpacket, hpacket'⟩ := hdelivered
  refine ⟨fun _ => hprobed, fun _ => ?_, ?_⟩
  · rw [hpacket, hpacket']
    exact t.shown
  · rw [hpacket, hpacket']
    exact ⟨t.shown.unparsed, fun _ => t.shown.1⟩

end HomeIoControl.KeyMaterialTwins
