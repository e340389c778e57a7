import HomeIoControl.AuthenticatedSpans
import HomeIoControl.NodeRemaps
import HomeIoControl.RekeyedCaptures

/-!
# Re-keying closes

A capture that comes out of the pipeline passes the gate, with every address replaced once and
every other byte as it was, when the rewriters do not get into each other's way. They do where the
table of addresses leads from one entry to a later one, where a frame carries its CRC, and where
the key of an enrollment was wrapped for a sender that is replaced afterwards.
-/

namespace HomeIoControl.RekeyClosure

open ProtocolFrames ProtocolCrypto DeviceRegistries TextPieces CorpusFrames CorpusGate CorpusRekeying
  RekeyedFrames RekeyedCaptures NodeRemaps

section

variable {aes : BlockCipher} {remap : NodeRemap}

theorem checkChallengeResponse_congr {t t' : ChallengeResponseTriple}
    (horigin : t'.origin.nonCrcBytes.drop 8 = t.origin.nonCrcBytes.drop 8)
    (horigin' : t'.origin.payload = t.origin.payload)
    (hchallenge : t'.challenge.raw.length = t.challenge.raw.length)
    (hchallenge' : t'.challenge.payload = t.challenge.payload)
    (hresponse : t'.response.raw.length = t.response.raw.length)
    (hresponse' : t'.response.payload = t.response.payload) :
    checkChallengeResponse aes t' = checkChallengeResponse aes t := by
  unfold checkChallengeResponse
  rw [horigin, horigin', hchallenge, hchallenge', hresponse, hresponse']

theorem checkKeyTransfer_congr {t t' : KeyTransferTriple}
    (hinit : t'.keyInit.nonCrcBytes.drop 8 = t.keyInit.nonCrcBytes.drop 8)
    (hchallenge : t'.challenge.raw.length = t.challenge.raw.length)
    (hchallenge' : t'.challenge.payload = t.challenge.payload)
    (htransfer : t'.transfer.raw.length = t.transfer.raw.length)
    (htransfer' : t'.transfer.payload = t.transfer.payload) :
    checkKeyTransfer aes t' = checkKeyTransfer aes t := by
  unfold checkKeyTransfer
  rw [hinit, hchallenge, hchallenge', htransfer, htransfer']

theorem checkChallengeResponse_readdressed {o o' c c' r r' : RawFrame}
    (ho : Readdressed remap o o') (hc : Readdressed remap c c') (hr : Readdressed remap r r') :
    checkChallengeResponse aes ⟨withoutCrc o', withoutCrc c', withoutCrc r'⟩ =
      checkChallengeResponse aes ⟨withoutCrc o, withoutCrc c, withoutCrc r⟩ :=
  checkChallengeResponse_congr (by simpa using ho.body) (by simpa using ho.payload)
    hc.nonCrcLength (by simpa using hc.payload) hr.nonCrcLength (by simpa using hr.payload)

theorem checkKeyTransfer_readdressed {k k' c c' t t' : RawFrame}
    (hk : Readdressed remap k k') (hc : Readdressed remap c c') (ht : Readdressed remap t t') :
    checkKeyTransfer aes ⟨withoutCrc k', withoutCrc c', withoutCrc t'⟩ =
      checkKeyTransfer aes ⟨withoutCrc k, withoutCrc c, withoutCrc t⟩ :=
  checkKeyTransfer_congr (by simpa using hk.body) hc.nonCrcLength (by simpa using hc.payload)
    ht.nonCrcLength (by simpa using ht.payload)

theorem checkSelfAuthenticated_readdressed {f f' : RawFrame} (h : Readdressed remap f f') :
    checkSelfAuthenticated aes (withoutCrc f') = checkSelfAuthenticated aes (withoutCrc f) := by
  simp only [checkSelfAuthenticated, withoutCrc_nonCrcBytes, withoutCrc_payload, h.body, h.payload]

theorem checkRemoveControllerMac_readdressed {f f' : RawFrame} (h : Readdressed remap f f') :
    checkRemoveControllerMac aes (withoutCrc f') = checkRemoveControllerMac aes (withoutCrc f) := by
  simp only [checkRemoveControllerMac, onewayRemoveControllerParts, withoutCrc_payload, h.payload]

/-- The addresses are in nothing that is signed but the sender in the key of an enrollment. -/
theorem verified_readdressed {view view' : ℕ → RawFrame} (hverified : Verified aes view)
    (hwhole : ∀ i, Whole (view i)) (h : ∀ i, Readdressed remap (view i) (view' i))
    (hsenders : ∀ i, (view i).cmd = some cmdOnewayAddController →
      remap.newId (srcOf (view i).raw) = srcOf (view i).raw) :
    Verified aes view' := by
  have halike : Alike view view' := fun i =>
    ⟨(h i).direction, (h i).cmd (hwhole i), congrArg List.length (h i).payload⟩
  refine ⟨fun i o c hat => ?_, fun i hat => ?_, fun i k c hat => ?_, fun i hcmd => ?_,
    fun i hcmd => ?_⟩
  · rw [halike.challengeResponseAt] at hat
    rw [checkChallengeResponse_readdressed (h o) (h c) (h i)]
    exact hverified.responses i o c hat
  · rw [halike.isSelfAuthenticated] at hat
    rw [checkSelfAuthenticated_readdressed (h i)]
    exact hverified.selfAuthenticated i hat
  · rw [halike.keyTransferAt] at hat
    rw [checkKeyTransfer_readdressed (h k) (h c) (h i)]
    exact hverified.transfers i k c hat
  · rw [(halike i).2.1] at hcmd
    obtain ⟨parts, hparts, henrolls⟩ := hverified.enrollments i hcmd
    rw [← (h i).parts ((hwhole i).header hcmd) (hsenders i hcmd)] at hparts
    exact ⟨parts, hparts, henrolls⟩
  · rw [(halike i).2.1] at hcmd
    rw [checkRemoveControllerMac_readdressed (h i)]
    exact hverified.removals i hcmd

end

theorem mem_searchEach {α : Type} {search : List RawFrame → RawFrame → Option α}
    {earlier frames : List RawFrame} {a : α} (h : a ∈ searchEach search earlier frames) :
    ∃ i, i < frames.length ∧
      search ((frames.take i).reverse ++ earlier) (frameAt frames i) = some a := by
  induction frames generalizing earlier with
  | nil => cases h
  | cons f frames ih =>
    rw [searchEach, List.mem_append] at h
    rcases h with h | h
    · exact ⟨0, by simp, by simpa [frameAt] using h⟩
    · obtain ⟨i, hi, hfound⟩ := ih h
      refine ⟨i + 1, by simpa using hi, ?_⟩
      rw [List.take_succ_cons, List.reverse_cons, List.append_assoc, List.singleton_append]
      exact hfound

/-- The frames before a position, the nearest first. -/
theorem take_reverse (frames : List RawFrame) {i : ℕ} (h : i ≤ frames.length) :
    (frames.take i).reverse = (before i).map (frameAt frames) := by
  rw [before, List.map_reverse]
  congr 1
  apply List.ext_getElem
  · simp [h]
  · intro k hk _
    rw [List.length_take] at hk
    simp [frameAt, show k < frames.length by omega]

/-- The responses that the gate finds are those at the positions. -/
theorem mem_findChallengeResponseTriples {frames : List RawFrame} {t : ChallengeResponseTriple}
    (h : t ∈ findChallengeResponseTriples frames) :
    ∃ i o c, challengeResponseAt (frameAt frames) i = some (o, c) ∧
      t = ⟨frameAt frames o, frameAt frames c, frameAt frames i⟩ := by
  obtain ⟨i, hi, hfound⟩ := mem_searchEach h
  rw [List.append_nil, take_reverse frames (Nat.le_of_lt hi), challengeResponseTriple] at hfound
  split_ifs at hfound with hcmd
  rw [searchOrigin_eq, ← Option.map_none (f := frameAt frames), searchTwice_map] at hfound
  rw [Option.map_map] at hfound
  obtain ⟨⟨o, c⟩, hat, rfl⟩ := Option.map_eq_some_iff.mp hfound
  refine ⟨i, o, c, ?_, rfl⟩
  rw [challengeResponseAt, if_neg hcmd, searchOriginAt_eq]
  exact hat

theorem mem_findKeyTransferTriples {frames : List RawFrame} {t : KeyTransferTriple}
    (h : t ∈ findKeyTransferTriples frames) :
    ∃ i k c, keyTransferAt (frameAt frames) i = some (k, c) ∧
      t = ⟨frameAt frames k, frameAt frames c, frameAt frames i⟩ := by
  obtain ⟨i, hi, hfound⟩ := mem_searchEach h
  rw [List.append_nil, take_reverse frames (Nat.le_of_lt hi), keyTransferTriple] at hfound
  split_ifs at hfound with hcmd
  rw [searchKeyInit_eq, ← Option.map_none (f := frameAt frames), searchTwice_map] at hfound
  rw [Option.map_map] at hfound
  obtain ⟨⟨k, c⟩, hat, rfl⟩ := Option.map_eq_some_iff.mp hfound
  refine ⟨i, k, c, ?_, rfl⟩
  rw [keyTransferAt, if_neg hcmd, searchKeyInitAt_eq]
  exact hat

theorem mem_frameAt {frames : List RawFrame} {f : RawFrame} (h : f ∈ frames) :
    ∃ i, i < frames.length ∧ f = frameAt frames i := by
  obtain ⟨i, hi, rfl⟩ := List.mem_iff_getElem.mp h
  exact ⟨i, hi, by rw [frameAt, List.getD_eq_getElem _ _ hi]⟩

theorem frameAt_withoutCrc (frames : List RawFrame) (i : ℕ) :
    frameAt (frames.map withoutCrc) i = withoutCrc (frameAt frames i) := by
  simp only [frameAt, List.getD_eq_getElem?_getD, List.getElem?_map]
  cases frames[i]? <;> rfl

/-- The gate accepts a capture in which everything verifies under the corpus key. -/
theorem gate_accepts {aes : BlockCipher} {frames : List RawFrame}
    (hverified : Verified aes (frameAt frames)) (hwhole : ∀ i, Whole (frameAt frames i))
    {data : Capture} (hdata : data.frames.map nonCrcRawFrame = frames.map withoutCrc) :
    validateCrypto aes data = .ok () := by
  have hview : frameAt (frames.map withoutCrc) = fun i => withoutCrc (frameAt frames i) :=
    funext (frameAt_withoutCrc frames)
  have halike : Alike (frameAt frames) fun i => withoutCrc (frameAt frames i) := fun i =>
    ⟨rfl, withoutCrc_cmd (hwhole i), congrArg List.length (withoutCrc_payload _)⟩
  have hplace : ∀ f ∈ frames.map withoutCrc, ∃ i, f = withoutCrc (frameAt frames i) := by
    intro f hf
    obtain ⟨i, -, rfl⟩ := mem_frameAt hf
    exact ⟨i, frameAt_withoutCrc frames i⟩
  have henrolls : ∀ f ∈ findOnewayAddControllerFrames (frames.map withoutCrc),
      EnrollsCorpusKey aes f := by
    intro f hf
    rw [findOnewayAddControllerFrames, List.mem_filter, decide_eq_true_eq] at hf
    obtain ⟨i, rfl⟩ := hplace f hf.1
    rw [withoutCrc_cmd (hwhole i)] at hf
    obtain ⟨parts, hparts, h⟩ := hverified.enrollments i hf.2
    refine ⟨parts, ?_, h⟩
    simpa only [onewayAddControllerParts, withoutCrc_payload, withoutCrc_nonCrcBytes] using hparts
  unfold validateCrypto validateCorpusKey
  rw [hdata]
  refine bind_of_ok (requireEach_of fun t ht => ?_) (bind_of_ok (requireEach_of fun f hf => ?_) ?_)
  · obtain ⟨i, k, c, hat, rfl⟩ := mem_findKeyTransferTriples ht
    rw [hview, halike.keyTransferAt] at hat
    rw [hview]
    exact hverified.transfers i k c hat
  · obtain ⟨parts, hparts, hkey, -⟩ := henrolls f hf
    unfold checkOnewayKey
    split_ifs
    · rfl
    · exact bind_of_ok (valueOf_of hparts) (bind_of_ok (valueOf_of hkey) (require_of rfl))
  · split_ifs
    · rfl
    refine bind_of_ok (requireEach_of fun t ht => ?_)
      (bind_of_ok (requireEach_of fun f hf => ?_)
        (bind_of_ok (requireEach_of fun f hf => ?_) (requireEach_of fun f hf => ?_)))
    · obtain ⟨i, o, c, hat, rfl⟩ := mem_findChallengeResponseTriples ht
      rw [hview, halike.challengeResponseAt] at hat
      rw [hview]
      exact hverified.responses i o c hat
    · rw [findSelfAuthenticatedFrames, List.mem_filter] at hf
      obtain ⟨i, rfl⟩ := hplace f hf.1
      refine hverified.selfAuthenticated i ?_
      rw [← halike.isSelfAuthenticated]
      exact hf.2
    · obtain ⟨parts, hparts, -, hmac⟩ := henrolls f hf
      unfold checkAddControllerMac
      refine bind_of_ok (valueOf_of hparts) ?_
      split_ifs with hbare
      · rfl
      · exact require_of (hmac.resolve_left hbare)
    · rw [findOnewayRemoveControllerFrames, List.mem_filter, decide_eq_true_eq] at hf
      obtain ⟨i, rfl⟩ := hplace f hf.1
      rw [withoutCrc_cmd (hwhole i)] at hf
      exact hverified.removals i hf.2

/-- `render_frame_yaml`, as far as the gate reads it; the digits may be spaced in any way. -/
def Renders (f : RawFrame) (frame : CapturedFrame) : Prop :=
  frame.dir = f.direction ∧ parseHex frame.hex = some f.raw ∧
    frame.crc = if f.crcPresent then "present" else "absent"

/-- What is rendered reads back. -/
theorem parseHex_hexText (raw : List UInt8) : parseHex (hexText raw) = some raw := by
  rw [parseHex, hexText, String.toList_ofList, filter_intercalate, hexPairs_flatMap]

theorem renders_renderFrameYaml (f : RawFrame) : Renders f (renderFrameYaml f) :=
  ⟨rfl, parseHex_hexText f.raw, rfl⟩

theorem nonCrcRawFrame_of_renders {f : RawFrame} {frame : CapturedFrame} (h : Renders f frame) :
    nonCrcRawFrame frame = withoutCrc f := by
  obtain ⟨hdir, hhex, hcrc⟩ := h
  rw [nonCrcRawFrame, hdir, hhex, hcrc, Option.getD_some, withoutCrc]
  cases hpresent : f.crcPresent with
  | false =>
    rw [nonCrcBytes_of_absent hpresent]
    rfl
  | true =>
    rw [nonCrcBytes_of_present hpresent]
    rfl

theorem nonCrcRawFrames_of_renders {frames : List RawFrame} {captured : List CapturedFrame}
    (h : List.Forall₂ Renders frames captured) :
    captured.map nonCrcRawFrame = frames.map withoutCrc := by
  induction h with
  | nil => rfl
  | cons hframe _ ih => rw [List.map_cons, List.map_cons, nonCrcRawFrame_of_renders hframe, ih]

/-- When the addresses are replaced as they are meant to be: once, in frames without a CRC, and in
an enrollment not that of the sender. -/
structure RemapsCleanly (remap : NodeRemap) (frames : List RawFrame) : Prop where
  settled : ∀ f ∈ frames, frameMinSize ≤ f.raw.length →
    SettledBy remap.entries (dstOf f.raw) ∧ SettledBy remap.entries (srcOf f.raw)
  crcs : remap.entries ≠ [] → ∀ f ∈ frames, frameMinSize ≤ f.raw.length → f.crcPresent = false
  senders : ∀ f ∈ frames, f.cmd = some cmdOnewayAddController →
    remap.newId (srcOf f.raw) = srcOf f.raw

/-- The bytes that are to change: what depends on a key in the frames that are re-keyed, and the
two addresses. -/
def Replaced (frames : List RawFrame) (i k : ℕ) : Prop :=
  Rewritten (frameAt frames) i ∧ inKeyField (frameAt frames i) k = true ∨
    frameMinSize ≤ (frameAt frames i).raw.length ∧ 2 ≤ k ∧ k < 8

/-- A capture made from another by re-keying. -/
structure Closed (aes : BlockCipher) (remap : NodeRemap) (frames result : List RawFrame) :
    Prop where
  accepted : ∀ data : Capture, data.key = "corpus" → List.Forall₂ Renders result data.frames →
    validateCrypto aes data = .ok ()
  addresses : ∀ i, frameMinSize ≤ (frameAt frames i).raw.length →
    dstOf (frameAt result i).raw = remap.newId (dstOf (frameAt frames i).raw) ∧
      srcOf (frameAt result i).raw = remap.newId (srcOf (frameAt frames i).raw)
  length : result.length = frames.length
  directions : ∀ i, (frameAt result i).direction = (frameAt frames i).direction
  lengths : ∀ i, (frameAt result i).raw.length = (frameAt frames i).raw.length
  crcPresent : ∀ i, (frameAt result i).crcPresent = (frameAt frames i).crcPresent
  elsewhere : ∀ i k, ¬ Replaced frames i k →
    (frameAt result i).nonCrcBytes[k]? = (frameAt frames i).nonCrcBytes[k]?
  crcs : ∀ i, frameAt result i = frameAt frames i ∨ (frameAt result i).raw =
    (frameAt result i).nonCrcBytes ++
      if (frameAt frames i).crcPresent then crcBytes (frameAt result i).nonCrcBytes else []

theorem applyRekey_run {aes : BlockCipher} {realKey realOnewayKey : Block} {remap : NodeRemap}
    {frames result : List RawFrame}
    (h : applyRekey aes realKey realOnewayKey remap frames = some result) :
    ∃ frames' rekeyed,
      (if has2wCrypto frames then rekey2w aes realKey frames else some frames) = some frames' ∧
      (if hasOneway frames then rekeyOneway aes realOnewayKey frames' else some frames') =
        some rekeyed ∧
      result = applyNodeRemap remap rekeyed := by
  obtain ⟨frames', h2w, h⟩ := Option.bind_eq_some_iff.mp h
  obtain ⟨rekeyed, honeway, h⟩ := Option.bind_eq_some_iff.mp h
  refine ⟨frames', rekeyed, h2w, honeway, ?_⟩
  simp only at h
  split_ifs at h
  exact (Option.some.inj h).symm

theorem frameAt_applyNodeRemap {remap : NodeRemap} (h : remap.entries ≠ [])
    (frames : List RawFrame) (i : ℕ) :
    frameAt (applyNodeRemap remap frames) i = remapFrame remap (frameAt frames i) := by
  rw [applyNodeRemap, if_neg h]
  simp only [frameAt, List.getD_eq_getElem?_getD, List.getElem?_map]
  cases frames[i]? <;> rfl

theorem long_at {frames : List RawFrame} {i : ℕ}
    (h : frameMinSize ≤ (frameAt frames i).raw.length) : i < frames.length := by
  by_contra hout
  rw [frameAt_out (by omega)] at h
  exact absurd h (by decide)

theorem long_of_cmd {f : RawFrame} {cmd : UInt8} (h : f.cmd = some cmd) :
    frameMinSize ≤ f.raw.length := by
  by_contra hshort
  rw [(cmd_eq_none_iff f).mpr (Nat.lt_of_not_le hshort)] at h
  cases h

section

variable {aes : BlockCipher} {realKey realOnewayKey : Block} {remap : NodeRemap}
  {frames rekeyed result : List RawFrame}

theorem applyNodeRemap_readdressed (hsigns : SignsCleanly frames)
    (hsettled : ∀ i, frameMinSize ≤ (frameAt frames i).raw.length →
      SettledBy remap.entries (dstOf (frameAt frames i).raw) ∧
        SettledBy remap.entries (srcOf (frameAt frames i).raw))
    (hcrcs : remap.entries ≠ [] → ∀ i, frameMinSize ≤ (frameAt frames i).raw.length →
      (frameAt frames i).crcPresent = false)
    {rewritten : ℕ → Prop} (hpass : Pass rewritten frames rekeyed) (i : ℕ) :
    Readdressed remap (frameAt rekeyed i) (frameAt (applyNodeRemap remap rekeyed) i) := by
  by_cases hentries : remap.entries = []
  · rw [applyNodeRemap, if_pos hentries]
    exact .refl _ hentries
  · rw [frameAt_applyNodeRemap hentries]
    have hlength := (hpass.rekeyed i).length
    refine remapFrame_spec (fun hlong => ?_) (fun hlong => ?_)
    · rw [hlength] at hlong
      rw [(hpass.rekeyed i).crcPresent]
      exact hcrcs hentries i hlong
    · rw [hlength] at hlong
      rw [(hpass.addresses hsigns hlong).1, (hpass.addresses hsigns hlong).2]
      exact hsettled i hlong

/-- A clean capture that is re-keyed without a refusal passes the gate, between the parties that
the table names. -/
theorem closed_of_clean (hsigns : SignsCleanly frames) (hremaps : RemapsCleanly remap frames)
    (hrun : applyRekey aes realKey realOnewayKey remap frames = some result) :
    Closed aes remap frames result := by
  obtain ⟨frames', rekeyed, h2w, honeway, rfl⟩ := applyRekey_run hrun
  obtain ⟨hpass, hverified⟩ := rewriters_verify hsigns h2w honeway
  have hwhole := hsigns.whole_at
  have hread := applyNodeRemap_readdressed hsigns
    (fun i hlong => hremaps.settled _ (frameAt_mem (long_at hlong)) hlong)
    (fun hentries i hlong => hremaps.crcs hentries _ (frameAt_mem (long_at hlong)) hlong) hpass
  have hwhole' := hpass.whole hwhole
  have hsenders : ∀ i, (frameAt rekeyed i).cmd = some cmdOnewayAddController →
      remap.newId (srcOf (frameAt rekeyed i).raw) = srcOf (frameAt rekeyed i).raw := by
    intro i hcmd
    rw [(hpass.rekeyed i).cmd (hwhole i)] at hcmd
    have hlong := long_of_cmd hcmd
    rw [(hpass.addresses hsigns hlong).2]
    exact hremaps.senders _ (frameAt_mem (long_at hlong)) hcmd
  refine ⟨fun data _ hdata => ?_, fun i hlong => ?_, ?_, fun i => ?_, fun i => ?_, fun i => ?_,
    fun i k hk => ?_, fun i => ?_⟩
  · exact gate_accepts (verified_readdressed hverified hwhole' hread hsenders)
      (fun i => (hread i).whole (hwhole' i)) (nonCrcRawFrames_of_renders hdata)
  · have hlong' := hlong
    rw [← (hpass.rekeyed i).length] at hlong'
    rw [← (hpass.addresses hsigns hlong).1, ← (hpass.addresses hsigns hlong).2]
    exact (hread i).addresses hlong'
  · rw [← hpass.length, applyNodeRemap]
    split_ifs <;> simp
  · rw [(hread i).direction, (hpass.rekeyed i).direction]
  · rw [(hread i).length, (hpass.rekeyed i).length]
  · rw [(hread i).crcPresent, (hpass.rekeyed i).crcPresent]
  · rw [Replaced, not_or, not_and, Bool.not_eq_true] at hk
    have hread' : (frameAt (applyNodeRemap remap rekeyed) i).nonCrcBytes[k]? =
        (frameAt rekeyed i).nonCrcBytes[k]? := by
      by_cases hlong : frameMinSize ≤ (frameAt rekeyed i).raw.length
      · refine (hread i).elsewhere k hlong fun haddress => hk.2 ⟨?_, haddress⟩
        rwa [← (hpass.rekeyed i).length]
      · rw [(hread i).short (Nat.lt_of_not_le hlong)]
    rw [hread']
    by_cases hrewritten : Rewritten (frameAt frames) i
    · exact (hpass.rekeyed i).elsewhere k (hk.1 hrewritten)
    · rw [hpass.untouched i hrewritten]
  · by_cases hentries : remap.entries = []
    · rw [applyNodeRemap, if_pos hentries]
      exact (hpass.rekeyed i).crc
    · by_cases hlong : frameMinSize ≤ (frameAt frames i).raw.length
      · have habsent := hremaps.crcs hentries _ (frameAt_mem (long_at hlong)) hlong
        have habsent' := ((hread i).crcPresent.trans (hpass.rekeyed i).crcPresent).trans habsent
        rw [habsent, nonCrcBytes_of_absent habsent']
        exact .inr (List.append_nil _).symm
      · rw [(hread i).short (by rw [(hpass.rekeyed i).length]; omega)]
        exact (hpass.rekeyed i).crc

end

theorem constructIv1wNode_injective : Function.Injective constructIv1wNode := by
  intro node node' h
  have hbyte : ∀ (i : ℕ) (hi : i < 16),
      (constructIv1wNode node)[i] = (constructIv1wNode node')[i] := by
    rw [h]
    exact fun _ _ => rfl
  have h0 := hbyte 0 (by decide)
  have h1 := hbyte 1 (by decide)
  have h2 := hbyte 2 (by decide)
  simp only [constructIv1wNode, Vector.getElem_ofFn, NodeId.bytes] at h0 h1 h2
  cases node
  cases node'
  simp_all

theorem xorBlocks_injective (a : Block) : Function.Injective (xorBlocks a) := by
  intro mask mask' h
  apply Vector.ext
  intro i hi
  have hbyte := congrArg (fun block : Block => block[i]) h
  simp only [xorBlocks, Vector.getElem_zipWith] at hbyte
  have hcancel : ∀ b : UInt8, a[i] ^^^ (a[i] ^^^ b) = b := fun b => by
    rw [← UInt8.xor_assoc, UInt8.xor_self, UInt8.zero_xor]
  rw [← hcancel mask[i], hbyte, hcancel]

/-- Two senders wrap the same bytes around the same key only if they are one. -/
theorem crypt1wKey_sender {aes : BlockCipher}
    (hcipher : Function.Injective fun block => aes block transferKey) {node node' : NodeId}
    {encKey : List UInt8} {key : Block} (h : CorpusFrames.crypt1wKey aes node encKey = some key)
    (h' : CorpusFrames.crypt1wKey aes node' encKey = some key) : node' = node := by
  obtain ⟨block, hblock, hkey⟩ := Option.bind_eq_some_iff.mp h
  obtain ⟨block', hblock', hkey'⟩ := Option.bind_eq_some_iff.mp h'
  obtain rfl := Option.some.inj (hblock.symm.trans hblock')
  have hmask := (Option.some.inj hkey').trans (Option.some.inj hkey).symm
  exact constructIv1wNode_injective (hcipher (xorBlocks_injective _ hmask))

/-- The gate has unwrapped every enrollment, in a capture that is no published vector. -/
theorem gate_unwraps {aes : BlockCipher} {frames : List RawFrame} {data : Capture}
    (h : validateCrypto aes data = .ok ()) (hid : data.id ∉ knownPublicVectorIds)
    (hdata : data.frames.map nonCrcRawFrame = frames.map withoutCrc) {f : RawFrame}
    (hf : f ∈ frames) (hcmd : (withoutCrc f).cmd = some cmdOnewayAddController) :
    ∃ parts, onewayAddControllerParts f = some parts ∧
      CorpusFrames.crypt1wKey aes parts.src parts.encKey = some corpusSystemKey := by
  unfold validateCrypto at h
  rw [hdata] at h
  obtain ⟨-, -, h⟩ := bind_ok h
  obtain ⟨⟨⟩, henrollments, -⟩ := bind_ok h
  have hmem : withoutCrc f ∈ findOnewayAddControllerFrames (frames.map withoutCrc) := by
    rw [findOnewayAddControllerFrames, List.mem_filter, decide_eq_true_eq]
    exact ⟨List.mem_map_of_mem hf, hcmd⟩
  have hcheck := requireEach_ok henrollments _ hmem
  unfold checkOnewayKey at hcheck
  rw [if_neg hid] at hcheck
  obtain ⟨parts, hparts, hcheck⟩ := bind_ok hcheck
  obtain ⟨unwrapped, hkey, hcheck⟩ := bind_ok hcheck
  have hkey := valueOf_ok hkey
  rw [require_ok hcheck] at hkey
  refine ⟨parts, ?_, hkey⟩
  simpa only [onewayAddControllerParts, withoutCrc_payload, withoutCrc_nonCrcBytes] using
    valueOf_ok hparts

section

variable {aes : BlockCipher} {realKey realOnewayKey : Block} {remap : NodeRemap}
  {frames rekeyed result : List RawFrame}

/-- The gate accepts an enrollment between other parties only from the same sender. -/
theorem sender_of_accepted (hcipher : Function.Injective fun block => aes block transferKey)
    (haccepted : ∀ data : Capture, data.key = "corpus" → List.Forall₂ Renders result data.frames →
      validateCrypto aes data = .ok ())
    {f f' : RawFrame} (hread : Readdressed remap f f') (hwhole : Whole f)
    (hcmd : f.cmd = some cmdOnewayAddController) (henrolls : EnrollsCorpusKey aes f)
    (hmem : f' ∈ result) : remap.newId (srcOf f.raw) = srcOf f.raw := by
  have hcmd' := (hread.cmd hwhole).trans hcmd
  have hwhole' := hread.whole hwhole
  -- the capture is rendered under an identifier of its own
  let data : Capture := ⟨"", "corpus", "", "", result.map renderFrameYaml, none⟩
  have hrenders : List.Forall₂ Renders result data.frames :=
    List.forall₂_map_right_iff.mpr (List.forall₂_same.mpr fun f _ => renders_renderFrameYaml f)
  obtain ⟨parts', hparts', hunwraps'⟩ := gate_unwraps (haccepted data rfl hrenders)
    (show "" ∉ knownPublicVectorIds by decide) (nonCrcRawFrames_of_renders hrenders) hmem
    ((withoutCrc_cmd hwhole').trans hcmd')
  obtain ⟨parts, hparts, hunwraps, -⟩ := henrolls
  obtain ⟨-, hsrc, hencKey, -⟩ := parts_of_payload hparts
  obtain ⟨-, hsrc', hencKey', -⟩ := parts_of_payload hparts'
  rw [hencKey, hsrc] at hunwraps
  rw [hencKey', hread.payload, hsrc'] at hunwraps'
  have hsender := crypt1wKey_sender hcipher hunwraps hunwraps'
  rwa [srcOf_nonCrcBytes (hwhole'.header hcmd'), srcOf_nonCrcBytes (hwhole.header hcmd),
    (hread.addresses (long_of_cmd hcmd)).2] at hsender

section

variable {rewritten : ℕ → Prop} (hpass : Pass rewritten frames rekeyed)
  (hclosed : Closed aes remap frames (applyNodeRemap remap rekeyed))

include hpass hclosed

theorem crcs_of_closed (hentries : remap.entries ≠ []) {i : ℕ}
    (hlong : frameMinSize ≤ (frameAt frames i).raw.length) :
    (frameAt frames i).crcPresent = false := by
  by_contra hcrc
  rw [Bool.not_eq_false, ← (hpass.rekeyed i).crcPresent] at hcrc
  have hlength := hclosed.lengths i
  rw [← (hpass.rekeyed i).length] at hlong
  rw [frameAt_applyNodeRemap hentries, remapFrame_grows hlong hcrc, (hpass.rekeyed i).length]
    at hlength
  omega

theorem settled_of_closed (hsigns : SignsCleanly frames) {i : ℕ}
    (hlong : frameMinSize ≤ (frameAt frames i).raw.length) :
    SettledBy remap.entries (dstOf (frameAt frames i).raw) ∧
      SettledBy remap.entries (srcOf (frameAt frames i).raw) := by
  by_cases hentries : remap.entries = []
  · rw [hentries]
    exact ⟨trivial, trivial⟩
  · obtain ⟨hdst, hsrc⟩ := hclosed.addresses i hlong
    obtain ⟨hdst', hsrc'⟩ := hpass.addresses hsigns hlong
    have habsent := crcs_of_closed hpass hclosed hentries hlong
    rw [← (hpass.rekeyed i).crcPresent] at habsent
    rw [← (hpass.rekeyed i).length] at hlong
    obtain ⟨-, hread, hread', -⟩ := remapEntries_spec remap.entries
      (show 8 ≤ (frameAt rekeyed i).raw.length from Nat.le_trans (by decide) hlong)
    have hraw : (frameAt (applyNodeRemap remap rekeyed) i).raw =
        remap.entries.foldl remapEntry (frameAt rekeyed i).raw := by
      rw [frameAt_applyNodeRemap hentries, remapFrame, if_neg (Nat.not_lt_of_le hlong),
        setFrameRaw, habsent]
      rfl
    rw [hraw, hread, hdst'] at hdst
    rw [hraw, hread', hsrc'] at hsrc
    exact ⟨newId_iff.mp hdst, newId_iff.mp hsrc⟩

end

/-- The gate is passed, and the addresses are replaced, on no other captures. -/
theorem remapsCleanly_of_closed (hcipher : Function.Injective fun block => aes block transferKey)
    (hsigns : SignsCleanly frames)
    (hrun : applyRekey aes realKey realOnewayKey remap frames = some result)
    (hclosed : Closed aes remap frames result) : RemapsCleanly remap frames := by
  obtain ⟨frames', rekeyed, h2w, honeway, rfl⟩ := applyRekey_run hrun
  obtain ⟨hpass, hverified⟩ := rewriters_verify hsigns h2w honeway
  have hsettled := fun i => @settled_of_closed _ _ _ _ _ hpass hclosed hsigns i
  have hcrcs := fun hentries i => @crcs_of_closed _ _ _ _ _ hpass hclosed hentries i
  have hread := applyNodeRemap_readdressed hsigns hsettled hcrcs hpass
  refine ⟨fun f hf hlong => ?_, fun hentries f hf hlong => ?_, fun f hf hcmd => ?_⟩
  · obtain ⟨i, -, rfl⟩ := mem_frameAt hf
    exact hsettled i hlong
  · obtain ⟨i, -, rfl⟩ := mem_frameAt hf
    exact hcrcs hentries i hlong
  · obtain ⟨i, hi, rfl⟩ := mem_frameAt hf
    have hwhole := hpass.whole hsigns.whole_at i
    have hlong := long_of_cmd hcmd
    rw [← ((hpass.rekeyed i).cmd (hsigns.whole_at i))] at hcmd
    have hsender := sender_of_accepted hcipher (fun data => hclosed.accepted data) (hread i) hwhole
      hcmd (hverified.enrollments i hcmd)
      (frameAt_mem (show i < (applyNodeRemap remap rekeyed).length by rwa [hclosed.length]))
    rwa [(hpass.addresses hsigns hlong).2] at hsender

/-- Where the rewriters keep out of each other's way, re-keying closes exactly if the addresses are
replaced cleanly. -/
theorem rekey_closes_iff (hcipher : Function.Injective fun block => aes block transferKey)
    (hsigns : SignsCleanly frames)
    (hrun : applyRekey aes realKey realOnewayKey remap frames = some result) :
    Closed aes remap frames result ↔ RemapsCleanly remap frames :=
  ⟨remapsCleanly_of_closed hcipher hsigns hrun, fun hremaps => closed_of_clean hsigns hremaps hrun⟩

end

private def recordedKey : Block := Vector.replicate 16 0x11

private def command : RawFrame :=
  ⟨"tx", [0x08, 0x00, 0x01, 0x02, 0x03, 0x0A, 0x0B, 0x0C, 0x03]⟩

private def challenge : RawFrame :=
  ⟨"rx", [0x0E, 0x00, 0x0A, 0x0B, 0x0C, 0x01, 0x02, 0x03, 0x3C, 1, 2, 3, 4, 5, 6]⟩

/-- A command, its challenge and the response. -/
private def exchange : List RawFrame :=
  [command, challenge,
    ⟨"tx", [0x0E, 0x00, 0x01, 0x02, 0x03, 0x0A, 0x0B, 0x0C, 0x3D, 128, 96, 130, 82, 200, 12]⟩]

private def exchangeRemap : NodeRemap := ⟨[(⟨0x01, 0x02, 0x03⟩, ⟨0xC0, 0xFF, 0x01⟩)], by decide⟩

private def rekeyedExchange : List RawFrame :=
  [⟨"tx", [0x08, 0x00, 0xC0, 0xFF, 0x01, 0x0A, 0x0B, 0x0C, 0x03]⟩,
    ⟨"rx", [0x0E, 0x00, 0x0A, 0x0B, 0x0C, 0xC0, 0xFF, 0x01, 0x3C, 1, 2, 3, 4, 5, 6]⟩,
    ⟨"tx", [0x0E, 0x00, 0xC0, 0xFF, 0x01, 0x0A, 0x0B, 0x0C, 0x3D, 142, 78, 198, 120, 221, 117]⟩]

private theorem recorded_hmac : createHmac aes128Encrypt [0x03] [1, 2, 3, 4, 5, 6] recordedKey =
    some [128, 96, 130, 82, 200, 12] := by
  decide +kernel

private theorem corpus_hmac : createHmac aes128Encrypt [0x03] [1, 2, 3, 4, 5, 6] corpusSystemKey =
    some [142, 78, 198, 120, 221, 117] := by
  decide +kernel

private def signedResponse : RawFrame :=
  ⟨"tx", [0x0E, 0x00, 0x01, 0x02, 0x03, 0x0A, 0x0B, 0x0C, 0x3D, 142, 78, 198, 120, 221, 117]⟩

private theorem exchange_found : challengeResponseAt (frameAt exchange) 2 = some (0, 1) := by decide

private theorem exchange_signs : SignsCleanly exchange := by
  have hlast : ∀ {i o c}, challengeResponseAt (frameAt exchange) i = some (o, c) →
      i = 2 ∧ o = 0 := by
    intro i o c hat
    have hcmd := (challengeResponseAt_found hat).1
    have hi := cmd_of_position hcmd
    match i, hi with
    | 0, _ => exact absurd hcmd (by decide)
    | 1, _ => exact absurd hcmd (by decide)
    | 2, _ =>
      rw [exchange_found] at hat
      exact ⟨rfl, (Prod.mk.inj (Option.some.inj hat)).1.symm⟩
  refine ⟨?_, fun i o c hat => ?_, fun i k c hat => ?_, fun i o c hat => ?_⟩
  · unfold Whole
    decide
  · obtain ⟨rfl, -⟩ := hlast hat
    decide +kernel
  · have hcmd := (keyTransferAt_found hat).1
    have hi := cmd_of_position hcmd
    match i, hi with
    | 0, _ => exact absurd hcmd (by decide)
    | 1, _ => exact absurd hcmd (by decide)
    | 2, _ => exact absurd hcmd (by decide)
  · obtain ⟨-, rfl⟩ := hlast hat
    exact not_rewrittenLater (show _ = some 0x03 from rfl) (by decide)

/-- A response of a triple that was signed with the real key is signed anew. -/
private theorem rekeyResponse_signed {aes : BlockCipher} {realKey : Block}
    {found current : ℕ → RawFrame} {i o c : ℕ} {cmd : UInt8} {newHmac : List UInt8}
    (hat : challengeResponseAt found i = some (o, c))
    (hcmd : (current o).nonCrcBytes[8]? = some cmd)
    (hreal : createHmac aes (cmd :: (current o).payload) ((current c).payload.take hmacSize)
      realKey = some ((current i).payload.take hmacSize))
    (hnew : createHmac aes (cmd :: (current o).payload) ((current c).payload.take hmacSize)
      corpusSystemKey = some newHmac) :
    rekeyResponse aes realKey found current i = some (setPayload (current i) newHmac) := by
  simp only [rekeyResponse, hat, hcmd, hreal, hnew, Option.bind_eq_bind, Option.bind_some, if_true]

/-- In three frames of which the last alone is rewritten. -/
private theorem rewriteAll_last {rewrite : (ℕ → RawFrame) → ℕ → Option RawFrame}
    {first second third third' : RawFrame}
    (hfirst : rewrite (frameAt [first, second, third]) 0 = some first)
    (hsecond : rewrite (frameAt [first, second, third]) 1 = some second)
    (hthird : rewrite (frameAt [first, second, third]) 2 = some third') :
    rewriteAll rewrite [first, second, third] = some [first, second, third'] := by
  have hlength : [first, second, third].length = 3 := rfl
  have hrange : List.range 3 = [0, 1, 2] := rfl
  have hset : [first, second, third].set 0 first = [first, second, third] := rfl
  have hset' : [first, second, third].set 1 second = [first, second, third] := rfl
  simp only [rewriteAll, hlength, hrange, List.foldlM_cons, List.foldlM_nil, hfirst, hsecond,
    hthird, Option.bind_eq_bind, Option.bind_some, hset, hset']
  rfl

private theorem rekeyHmacFrames_exchange :
    rekeyHmacFrames aes128Encrypt recordedKey exchange =
      some [command, challenge, signedResponse] :=
  rewriteAll_last rfl rfl
    (rekeyResponse_signed exchange_found rfl recorded_hmac corpus_hmac)

private theorem applyRekey_exchange :
    applyRekey aes128Encrypt recordedKey recordedKey exchangeRemap exchange =
      some rekeyedExchange := by
  have hcrypto : has2wCrypto exchange = true := by decide
  have honeway : hasOneway exchange = false := by decide
  have hself : rekeySelfAuthenticatedFrames aes128Encrypt recordedKey
      [command, challenge, signedResponse] = some [command, challenge, signedResponse] := rfl
  have htransfer : rekeyKeyTransferFrames aes128Encrypt recordedKey
      [command, challenge, signedResponse] = some [command, challenge, signedResponse] := rfl
  have hremap : applyNodeRemap exchangeRemap [command, challenge, signedResponse] =
      rekeyedExchange := by decide
  have hleaks : leaksKey recordedKey rekeyedExchange = false := by decide
  simp only [applyRekey, rekey2w, hcrypto, honeway, rekeyHmacFrames_exchange, hself, htransfer,
    hremap, hleaks, Option.bind_eq_bind, Option.bind_some, if_true, Bool.false_eq_true, if_false,
    Bool.true_and, Bool.false_and]

/-- The exchange is re-keyed, between a device of another address and the controller. -/
theorem rekeyedExchange_closed :
    Closed aes128Encrypt exchangeRemap exchange rekeyedExchange :=
  (@rekey_closes_iff aes128Encrypt recordedKey recordedKey exchangeRemap exchange rekeyedExchange
    (AuthenticatedSpans.aes128Encrypt_injective transferKey) exchange_signs
    applyRekey_exchange).mpr ⟨by decide, by decide, by decide⟩

private def chainedRemap : NodeRemap :=
  ⟨[(⟨0x01, 0x02, 0x03⟩, ⟨0x04, 0x05, 0x06⟩), (⟨0x04, 0x05, 0x06⟩, ⟨0x07, 0x08, 0x09⟩)],
    by decide⟩

private def commandWithCrc : RawFrame :=
  ⟨"tx", [0x08, 0x00, 0x01, 0x02, 0x03, 0x0A, 0x0B, 0x0C, 0x03, 0xB6, 0x9B]⟩

/-- A chain of entries replaces an address twice, and a frame that shows its CRC grows by another
one. -/
theorem remap_undoes_closure :
    (applyRekey aes128Encrypt recordedKey recordedKey chainedRemap [command] =
        some [⟨"tx", [0x08, 0x00, 0x07, 0x08, 0x09, 0x0A, 0x0B, 0x0C, 0x03]⟩] ∧
      ¬ Closed aes128Encrypt chainedRemap [command]
        [⟨"tx", [0x08, 0x00, 0x07, 0x08, 0x09, 0x0A, 0x0B, 0x0C, 0x03]⟩]) ∧
      applyRekey aes128Encrypt recordedKey recordedKey exchangeRemap [commandWithCrc] =
          some [⟨"tx", [0x08, 0x00, 0xC0, 0xFF, 0x01, 0x0A, 0x0B, 0x0C, 0x03, 0xB6, 0x9B, 0xB4,
            0xA1]⟩] ∧
        ¬ Closed aes128Encrypt exchangeRemap [commandWithCrc]
          [⟨"tx", [0x08, 0x00, 0xC0, 0xFF, 0x01, 0x0A, 0x0B, 0x0C, 0x03, 0xB6, 0x9B, 0xB4,
            0xA1]⟩] := by
  refine ⟨⟨by decide, fun hclosed => ?_⟩, by decide +kernel, fun hclosed => ?_⟩
  · exact absurd (hclosed.addresses 0 (by decide)).1 (by decide)
  · exact absurd (hclosed.lengths 0) (by decide)

end HomeIoControl.RekeyClosure
