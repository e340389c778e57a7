import HomeIoControl.RekeyedFrames

/-!
# Replaced addresses

The entries of the table are applied in turn, so that what one has written the next may replace
again. A frame whose addresses are settled keeps everything but them.
-/

namespace HomeIoControl.NodeRemaps

open ProtocolFrames CorpusFrames CorpusRekeying RekeyedFrames

/-- What one entry makes of an address. -/
def replaced (id : NodeId) (entry : NodeId × NodeId) : NodeId :=
  if id = entry.1 then entry.2 else id

/-- No entry after the one of an address leads on from its replacement. -/
def SettledBy : List (NodeId × NodeId) → NodeId → Prop
  | [], _ => True
  | entry :: later, id =>
    if id = entry.1 then later.foldl replaced entry.2 = entry.2 else SettledBy later id

instance instDecidableSettledBy :
    (entries : List (NodeId × NodeId)) → (id : NodeId) → Decidable (SettledBy entries id)
  | [], _ => inferInstanceAs (Decidable True)
  | entry :: later, id =>
    have := instDecidableSettledBy later id
    inferInstanceAs (Decidable (if id = entry.1 then later.foldl replaced entry.2 = entry.2
      else SettledBy later id))

/-- The entries in turn give the one of the address exactly if it settles the address. -/
theorem foldl_replaced_iff (entries : List (NodeId × NodeId)) (id : NodeId) :
    entries.foldl replaced id =
        ((entries.find? fun entry => entry.1 = id).map Prod.snd).getD id ↔
      SettledBy entries id := by
  induction entries with
  | nil => exact iff_of_true rfl trivial
  | cons entry entries ih =>
    rw [List.foldl_cons, replaced, List.find?_cons, SettledBy]
    by_cases hid : id = entry.1
    · rw [if_pos hid, if_pos hid, decide_eq_true hid.symm]
      exact Iff.rfl
    · rw [if_neg hid, if_neg hid, decide_eq_false (Ne.symm hid)]
      exact ih

theorem newId_iff {remap : NodeRemap} {id : NodeId} :
    remap.entries.foldl replaced id = remap.newId id ↔ SettledBy remap.entries id :=
  foldl_replaced_iff remap.entries id

theorem getElem?_setIdAt {raw : List UInt8} {i : ℕ} (h : i + 3 ≤ raw.length) (id : NodeId)
    (k : ℕ) :
    (setIdAt raw i id)[k]? = if i ≤ k ∧ k < i + 3 then id.bytes[k - i]? else raw[k]? := by
  have hfront : (raw.take i ++ id.bytes).length = i + 3 := by
    rw [List.length_append, List.length_take, NodeId.length_bytes]
    omega
  rw [setIdAt]
  by_cases hback : i + 3 ≤ k
  · rw [List.getElem?_append_right (by omega), hfront, List.getElem?_drop, if_neg (by omega)]
    congr 1
    omega
  · rw [List.getElem?_append_left (by omega)]
    by_cases hk : i ≤ k
    · rw [List.getElem?_append_right (by rw [List.length_take]; omega), if_pos (by omega),
        List.length_take, Nat.min_eq_left (by omega)]
    · rw [List.getElem?_append_left (by rw [List.length_take]; omega), List.getElem?_take,
        if_pos (by omega), if_neg (by omega)]

theorem length_setIdAt {raw : List UInt8} {i : ℕ} (h : i + 3 ≤ raw.length) (id : NodeId) :
    (setIdAt raw i id).length = raw.length := by
  rw [setIdAt, List.length_append, List.length_append, List.length_take, List.length_drop,
    NodeId.length_bytes]
  omega

theorem idAt_setIdAt {raw : List UInt8} {i : ℕ} (h : i + 3 ≤ raw.length) (id : NodeId) :
    idAt (setIdAt raw i id) i = id := by
  simp only [idAt, List.getD_eq_getElem?_getD, getElem?_setIdAt h]
  rw [if_pos (by omega), if_pos (by omega), if_pos (by omega), Nat.sub_self,
    Nat.add_sub_cancel_left, Nat.add_sub_cancel_left]
  rfl

theorem remapEntry_spec {raw : List UInt8} (h : 8 ≤ raw.length) (entry : NodeId × NodeId) :
    (remapEntry raw entry).length = raw.length ∧
      dstOf (remapEntry raw entry) = replaced (dstOf raw) entry ∧
      srcOf (remapEntry raw entry) = replaced (srcOf raw) entry ∧
      ∀ k, ¬ (2 ≤ k ∧ k < 8) → (remapEntry raw entry)[k]? = raw[k]? := by
  obtain ⟨middle, hmiddle⟩ : ∃ middle,
      middle = if dstOf raw = entry.1 then setIdAt raw 2 entry.2 else raw := ⟨_, rfl⟩
  have hraw : remapEntry raw entry =
      if srcOf middle = entry.1 then setIdAt middle 5 entry.2 else middle := by
    rw [remapEntry, ← hmiddle]
  obtain ⟨hlength, hdst, hsrc, helsewhere⟩ : middle.length = raw.length ∧
      dstOf middle = replaced (dstOf raw) entry ∧ srcOf middle = srcOf raw ∧
      ∀ k, ¬ (2 ≤ k ∧ k < 5) → middle[k]? = raw[k]? := by
    rw [hmiddle, replaced]
    split_ifs with hdst
    · refine ⟨length_setIdAt (by omega) _, idAt_setIdAt (by omega) _, ?_, fun k hk => ?_⟩
      · refine idAt_congr fun k hk _ => ?_
        rw [getElem?_setIdAt (by omega), if_neg (by omega)]
      · rw [getElem?_setIdAt (by omega), if_neg hk]
    · exact ⟨rfl, rfl, rfl, fun _ _ => rfl⟩
  rw [hraw, ← hdst, ← hsrc]
  unfold replaced
  split_ifs with hreplace
  · refine ⟨(length_setIdAt (by omega) _).trans hlength, ?_, idAt_setIdAt (by omega) _,
      fun k hk => ?_⟩
    · refine idAt_congr fun k _ hk => ?_
      rw [getElem?_setIdAt (by omega), if_neg (by omega)]
    · rw [getElem?_setIdAt (by omega), if_neg (by omega), helsewhere k (by omega)]
  · exact ⟨hlength, rfl, rfl, fun k hk => helsewhere k (by omega)⟩

/-- The whole table, on both addresses. -/
theorem remapEntries_spec (entries : List (NodeId × NodeId)) {raw : List UInt8}
    (h : 8 ≤ raw.length) :
    (entries.foldl remapEntry raw).length = raw.length ∧
      dstOf (entries.foldl remapEntry raw) = entries.foldl replaced (dstOf raw) ∧
      srcOf (entries.foldl remapEntry raw) = entries.foldl replaced (srcOf raw) ∧
      ∀ k, ¬ (2 ≤ k ∧ k < 8) → (entries.foldl remapEntry raw)[k]? = raw[k]? := by
  induction entries generalizing raw with
  | nil => exact ⟨rfl, rfl, rfl, fun _ _ => rfl⟩
  | cons entry entries ih =>
    obtain ⟨hlength, hdst, hsrc, helsewhere⟩ := remapEntry_spec h entry
    obtain ⟨hlength', hdst', hsrc', helsewhere'⟩ := ih (by rwa [hlength])
    refine ⟨hlength'.trans hlength, ?_, ?_, fun k hk => ?_⟩
    · rw [List.foldl_cons, List.foldl_cons, hdst', hdst]
    · rw [List.foldl_cons, List.foldl_cons, hsrc', hsrc]
    · rw [List.foldl_cons, helsewhere' k hk, helsewhere k hk]

/-- The same frame between other parties. -/
structure Readdressed (remap : NodeRemap) (f f' : RawFrame) : Prop where
  direction : f'.direction = f.direction
  length : f'.raw.length = f.raw.length
  crcPresent : f'.crcPresent = f.crcPresent
  elsewhere : ∀ k, frameMinSize ≤ f.raw.length → ¬ (2 ≤ k ∧ k < 8) →
    f'.nonCrcBytes[k]? = f.nonCrcBytes[k]?
  addresses : frameMinSize ≤ f.raw.length →
    dstOf f'.raw = remap.newId (dstOf f.raw) ∧ srcOf f'.raw = remap.newId (srcOf f.raw)
  short : f.raw.length < frameMinSize → f' = f

theorem remapFrame_spec {remap : NodeRemap} {f : RawFrame}
    (hcrc : frameMinSize ≤ f.raw.length → f.crcPresent = false)
    (hsettled : frameMinSize ≤ f.raw.length →
      SettledBy remap.entries (dstOf f.raw) ∧ SettledBy remap.entries (srcOf f.raw)) :
    Readdressed remap f (remapFrame remap f) := by
  unfold remapFrame
  split_ifs with hshort
  · exact ⟨rfl, rfl, rfl, fun _ h => absurd h (Nat.not_le_of_lt hshort),
      fun h => absurd h (Nat.not_le_of_lt hshort), fun _ => rfl⟩
  · have hlong := Nat.le_of_not_lt hshort
    have habsent := hcrc hlong
    simp only [frameMinSize] at hlong
    obtain ⟨hlength, hdst, hsrc, helsewhere⟩ := remapEntries_spec remap.entries
      (show 8 ≤ f.raw.length by omega)
    have hraw : (setFrameRaw f (remap.entries.foldl remapEntry f.raw)).raw =
        remap.entries.foldl remapEntry f.raw := by
      simp [setFrameRaw, habsent]
    have hfirst : (remap.entries.foldl remapEntry f.raw).getD 0 0 = f.raw.getD 0 0 := by
      rw [List.getD_eq_getElem?_getD, List.getD_eq_getElem?_getD, helsewhere 0 (by omega)]
    have hcrc' : (setFrameRaw f (remap.entries.foldl remapEntry f.raw)).crcPresent =
        f.crcPresent := by
      rw [crcPresent_eq, crcPresent_eq, hraw, hlength, hfirst]
    refine ⟨rfl, by rw [hraw, hlength], hcrc', fun k _ hk => ?_, fun h => ?_,
      fun h => absurd h hshort⟩
    · rw [nonCrcBytes_of_absent (hcrc'.trans habsent), nonCrcBytes_of_absent habsent, hraw,
        helsewhere k hk]
    · rw [hraw, hdst, hsrc]
      exact ⟨newId_iff.mpr (hsettled h).1, newId_iff.mpr (hsettled h).2⟩

/-- A frame that shows its CRC grows by another. -/
theorem remapFrame_grows {remap : NodeRemap} {f : RawFrame} (hlong : frameMinSize ≤ f.raw.length)
    (hcrc : f.crcPresent = true) :
    (remapFrame remap f).raw.length = f.raw.length + 2 := by
  have hlong' := hlong
  simp only [frameMinSize] at hlong'
  have hlength := (remapEntries_spec remap.entries (show 8 ≤ f.raw.length by omega)).1
  rw [remapFrame, if_neg (Nat.not_lt_of_le hlong), setFrameRaw, if_pos hcrc]
  simp only [List.length_append, hlength, length_crcBytes]

theorem srcOf_nonCrcBytes {f : RawFrame} (h : frameMinSize ≤ f.nonCrcBytes.length) :
    idAt f.nonCrcBytes 5 = srcOf f.raw := by
  simp only [frameMinSize] at h
  exact idAt_congr fun k _ hk => nonCrcBytes_getElem? (by omega)

namespace Readdressed

variable {remap : NodeRemap} {f f' : RawFrame}

theorem refl (f : RawFrame) (h : remap.entries = []) : Readdressed remap f f := by
  have hid : ∀ id, remap.newId id = id := by
    intro id
    simp [NodeRemap.newId, h]
  exact ⟨rfl, rfl, rfl, fun _ _ _ => rfl, fun _ => ⟨(hid _).symm, (hid _).symm⟩, fun _ => rfl⟩

theorem nonCrcLength (h : Readdressed remap f f') :
    f'.nonCrcBytes.length = f.nonCrcBytes.length := by
  rw [length_nonCrcBytes, length_nonCrcBytes, h.crcPresent, h.length]

/-- The command and the payload stay. -/
theorem body (h : Readdressed remap f f') : f'.nonCrcBytes.drop 8 = f.nonCrcBytes.drop 8 := by
  by_cases hlong : frameMinSize ≤ f.raw.length
  · apply List.ext_getElem?
    intro k
    rw [List.getElem?_drop, List.getElem?_drop, h.elsewhere _ hlong (by omega)]
  · rw [h.short (by omega)]

theorem payload (h : Readdressed remap f f') : f'.payload = f.payload := by
  have hbody := congrArg (List.drop 1) h.body
  rwa [List.drop_drop, List.drop_drop] at hbody

theorem whole (h : Readdressed remap f f') (hf : Whole f) : Whole f' := by
  intro hcmd
  rw [h.nonCrcLength]
  refine hf fun hnone => hcmd ?_
  rw [cmd_eq_none_iff, h.length]
  exact (cmd_eq_none_iff f).mp hnone

theorem cmd (h : Readdressed remap f f') (hf : Whole f) : f'.cmd = f.cmd := by
  rw [hf.cmd, (h.whole hf).cmd]
  have hbody := congrArg (fun bytes => bytes[0]?) h.body
  simpa only [List.getElem?_drop, Nat.add_zero] using hbody

/-- The sender of an enrollment counts as well. -/
theorem parts (h : Readdressed remap f f') (hheader : frameMinSize ≤ f.nonCrcBytes.length)
    (hsender : remap.newId (srcOf f.raw) = srcOf f.raw) :
    onewayAddControllerParts f' = onewayAddControllerParts f := by
  have hraw : frameMinSize ≤ f.raw.length := by
    have hlen := length_nonCrcBytes f
    split_ifs at hlen <;> omega
  have hsrc : idAt f'.nonCrcBytes 5 = idAt f.nonCrcBytes 5 := by
    rw [srcOf_nonCrcBytes hheader, srcOf_nonCrcBytes (by rwa [h.nonCrcLength]),
      (h.addresses hraw).2, hsender]
  have hsrc' : (⟨f'.nonCrcBytes.getD 5 0, f'.nonCrcBytes.getD 6 0, f'.nonCrcBytes.getD 7 0⟩ :
      NodeId) = ⟨f.nonCrcBytes.getD 5 0, f.nonCrcBytes.getD 6 0, f.nonCrcBytes.getD 7 0⟩ := hsrc
  rw [onewayAddControllerParts, onewayAddControllerParts, h.payload, hsrc']

end Readdressed

end HomeIoControl.NodeRemaps
