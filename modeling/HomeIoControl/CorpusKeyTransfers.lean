import HomeIoControl.CorpusGate

/-!
# Which key transfers the corpus gate sees

A key transfer can be read by anyone once the challenge before it is known. The gate decrypts
those that were sent, with a sent key init before the nearest received challenge; a transfer that
was received, or whose key init is missing, passes unread.
-/

namespace HomeIoControl.CorpusKeyTransfers

open ProtocolFrames ProtocolCrypto TextPieces CorpusFrames CorpusGate

/-- The nearest challenge in a direction, with the frames before it. -/
def nearestChallenge (direction : String) : List RawFrame → Option (RawFrame × List RawFrame)
  | [] => none
  | candidate :: earlier =>
    if candidate.Is direction cmdChallengeReq then some (candidate, earlier)
    else nearestChallenge direction earlier

/-- A key transfer of a capture, the nearest challenge of the other side before it, and the frames
before that. -/
def TransferAt (frames : List RawFrame) (transfer challenge : RawFrame)
    (older : List RawFrame) : Prop :=
  ∃ before after, frames = before ++ transfer :: after ∧
    transfer.cmd = some cmdKeyTransfer ∧ aesKeySize ≤ transfer.payload.length ∧
    nearestChallenge (opposite transfer.direction) before.reverse = some (challenge, older)

variable (aes : BlockCipher)

/-- The key that a transfer yields under a challenge. -/
def transferredKey (challenge transfer : RawFrame) : Option Block :=
  cryptKey aes [cmdKeyInit] (challenge.payload.take hmacSize) (transfer.payload.take aesKeySize)

/-- Every key transfer of a capture yields the corpus key. -/
def OnlyCorpusKey (frames : List RawFrame) : Prop :=
  ∀ transfer challenge older, TransferAt frames transfer challenge older →
    transferredKey aes challenge transfer = some corpusSystemKey

/-- The shape that the gate looks for: a sent transfer, with a sent key init before its
challenge. -/
def Seen (transfer : RawFrame) (older : List RawFrame) : Prop :=
  transfer.direction = "tx" ∧ ∃ keyInit ∈ older, keyInit.Is "tx" cmdKeyInit

/-- The frames of a capture as the gate reads them. -/
def framesOf (data : Capture) : List RawFrame := data.frames.map nonCrcRawFrame

section

variable {aes}

/-- A capture that passes has valid frames, and each triple it shows yields the corpus key. -/
theorem of_validateCapture {data : Capture} (h : validateCapture aes data = .ok ()) :
    (∀ frame ∈ data.frames, validateFrame frame = .ok ()) ∧
      ∀ t ∈ findKeyTransferTriples (framesOf data), checkKeyTransfer aes t = .ok () := by
  obtain ⟨-, -, h⟩ := bind_ok h
  obtain ⟨-, -, h⟩ := bind_ok h
  obtain ⟨-, -, h⟩ := bind_ok h
  obtain ⟨-, -, h⟩ := bind_ok h
  obtain ⟨-, -, h⟩ := bind_ok h
  obtain ⟨⟨⟩, hframes, h⟩ := bind_ok h
  obtain ⟨-, -, h⟩ := bind_ok h
  obtain ⟨⟨⟩, htransfers, -⟩ := bind_ok h
  exact ⟨requireEach_ok hframes, requireEach_ok htransfers⟩

/-- Bytes of the declared length, or with a MAC behind them, are not taken for bytes with a CRC. -/
theorem crcPresent_of_declared {f : RawFrame}
    (h : declaredLength (f.raw.getD 0 0) = f.raw.length ∨
      f.raw.length = declaredLength (f.raw.getD 0 0) + hmacSize) : f.crcPresent = false := by
  unfold RawFrame.crcPresent
  cases hraw : f.raw with
  | nil => rfl
  | cons ctrl0 rest =>
    rw [hraw, List.getD_cons_zero] at h
    simp only [hmacSize] at h
    apply decide_eq_false
    omega

/-- The bytes of a valid frame without its CRC are as many as declared, or six more. -/
theorem crcPresent_of_valid {frame : CapturedFrame} (h : validateFrame frame = .ok ()) :
    (nonCrcRawFrame frame).crcPresent = false := by
  obtain ⟨-, -, h⟩ := bind_ok h
  obtain ⟨-, -, h⟩ := bind_ok h
  cases hraw : parseHex frame.hex with
  | none =>
    rw [hraw] at h
    cases h
  | some raw =>
    rw [hraw] at h
    obtain ⟨⟨⟩, hmin, h⟩ := bind_ok h
    obtain ⟨-, -, h⟩ := bind_ok h
    obtain ⟨⟨⟩, hdeclared, -⟩ := bind_ok h
    have hmin := require_ok hmin
    have hdeclared := require_ok hdeclared
    have hbytes : (nonCrcRawFrame frame).raw =
        if frame.crc = "present" then raw.take (raw.length - 2) else raw := by
      simp only [nonCrcRawFrame, hraw, Option.getD_some]
    apply crcPresent_of_declared
    rw [hbytes]
    simp only [frameMinSize] at hmin
    by_cases hcrc : frame.crc = "present"
    · rw [if_pos hcrc] at hmin hdeclared ⊢
      have hlen : (raw.take (raw.length - 2)).length = raw.length - 2 := by simp
      have hhead : (raw.take (raw.length - 2)).getD 0 0 = raw.getD 0 0 := by
        rw [List.getD_eq_getElem?_getD, List.getElem?_take_of_lt (by omega),
          List.getD_eq_getElem?_getD]
      rw [hlen, hhead]
      exact hdeclared
    · rw [if_neg hcrc] at hdeclared ⊢
      exact hdeclared

end

section

variable {earlier older : List RawFrame} {challenge keyInit : RawFrame}

theorem searchKeyInit_found {candidate : RawFrame} (h : candidate.Is "tx" cmdKeyInit) :
    searchKeyInit (some challenge) (candidate :: older) = some (candidate, challenge) := by
  simp [searchKeyInit, h.1, h.2]

theorem searchKeyInit_pass {candidate : RawFrame} (h : ¬ candidate.Is "tx" cmdKeyInit) :
    searchKeyInit (some challenge) (candidate :: older) = searchKeyInit (some challenge) older := by
  simp only [searchKeyInit]
  cases hcmd : candidate.cmd with
  | none => rfl
  | some cmd =>
    refine if_neg ?_
    rintro ⟨hdir, rfl⟩
    exact h ⟨hdir, hcmd⟩

theorem searchKeyInit_challenge {candidate : RawFrame} (h : candidate.Is "rx" cmdChallengeReq) :
    searchKeyInit none (candidate :: earlier) = searchKeyInit (some candidate) earlier := by
  simp [searchKeyInit, h.1, h.2]

theorem searchKeyInit_skip {candidate : RawFrame} (h : ¬ candidate.Is "rx" cmdChallengeReq) :
    searchKeyInit none (candidate :: earlier) = searchKeyInit none earlier := by
  simp only [searchKeyInit]
  cases hcmd : candidate.cmd with
  | none => rfl
  | some cmd =>
    refine if_neg ?_
    rintro ⟨hdir, rfl⟩
    exact h ⟨hdir, hcmd⟩

/-- Behind a challenge any sent key init ends the search. -/
theorem searchKeyInit_of_mem (hmem : keyInit ∈ older) (hinit : keyInit.Is "tx" cmdKeyInit) :
    ∃ found, found ∈ older ∧ searchKeyInit (some challenge) older = some (found, challenge) ∧
      found.Is "tx" cmdKeyInit := by
  induction older with
  | nil => cases hmem
  | cons candidate older ih =>
    by_cases hfound : candidate.Is "tx" cmdKeyInit
    · exact ⟨candidate, List.mem_cons_self, searchKeyInit_found hfound, hfound⟩
    · have hrest : keyInit ∈ older := by
        rcases List.mem_cons.mp hmem with rfl | hrest
        · exact absurd hinit hfound
        · exact hrest
      obtain ⟨found, hin, hsearch, his⟩ := ih hrest
      exact ⟨found, List.mem_cons_of_mem _ hin, (searchKeyInit_pass hfound).trans hsearch, his⟩

/-- The search finds the nearest challenge when a key init lies before it. -/
theorem searchKeyInit_of_nearest (hnearest : nearestChallenge "rx" earlier = some (challenge, older))
    (hmem : keyInit ∈ older) (hinit : keyInit.Is "tx" cmdKeyInit) :
    ∃ found, found ∈ earlier ∧ searchKeyInit none earlier = some (found, challenge) ∧
      found.Is "tx" cmdKeyInit := by
  induction earlier with
  | nil => cases hnearest
  | cons candidate earlier ih =>
    rw [nearestChallenge] at hnearest
    by_cases hchallenge : candidate.Is "rx" cmdChallengeReq
    · rw [if_pos hchallenge, Option.some.injEq, Prod.mk.injEq] at hnearest
      obtain ⟨rfl, rfl⟩ := hnearest
      obtain ⟨found, hin, hsearch, his⟩ := searchKeyInit_of_mem hmem hinit
      exact ⟨found, List.mem_cons_of_mem _ hin,
        (searchKeyInit_challenge hchallenge).trans hsearch, his⟩
    · rw [if_neg hchallenge] at hnearest
      obtain ⟨found, hin, hsearch, his⟩ := ih hnearest
      exact ⟨found, List.mem_cons_of_mem _ hin, (searchKeyInit_skip hchallenge).trans hsearch, his⟩

theorem mem_searchEach {α : Type} {search : List RawFrame → RawFrame → Option α} {a : α}
    (earlier before : List RawFrame) (frame : RawFrame) (after : List RawFrame)
    (hfound : search (before.reverse ++ earlier) frame = some a) :
    a ∈ searchEach search earlier (before ++ frame :: after) := by
  induction before generalizing earlier with
  | nil =>
    rw [List.nil_append, searchEach]
    simp only [List.reverse_nil, List.nil_append] at hfound
    simp [hfound]
  | cons first before ih =>
    rw [List.cons_append, searchEach]
    refine List.mem_append_right _ (ih (first :: earlier) ?_)
    simpa using hfound

/-- A transfer of the shape that the gate looks for is in one of its triples. -/
theorem triple_of_seen {frames : List RawFrame} {transfer : RawFrame}
    (hat : TransferAt frames transfer challenge older) (hseen : Seen transfer older) :
    ∃ found ∈ frames, found.Is "tx" cmdKeyInit ∧
      ⟨found, challenge, transfer⟩ ∈ findKeyTransferTriples frames := by
  obtain ⟨before, after, rfl, hcmd, -, hnearest⟩ := hat
  obtain ⟨hdir, keyInit, hmem, hinit⟩ := hseen
  have hopposite : opposite transfer.direction = "rx" := by rw [hdir]; rfl
  rw [hopposite] at hnearest
  obtain ⟨found, hin, hsearch, his⟩ := searchKeyInit_of_nearest hnearest hmem hinit
  refine ⟨found, List.mem_append_left _ (List.mem_reverse.mp hin), his,
    mem_searchEach [] before transfer after ?_⟩
  rw [List.append_nil, keyTransferTriple, if_neg (by simp [hdir, hcmd]), hsearch]
  rfl

end

section

variable {aes}

/-- A triple that passes yields the corpus key. -/
theorem transferredKey_of_check {t : KeyTransferTriple} (h : checkKeyTransfer aes t = .ok ())
    (hinit : t.keyInit.cmd = some cmdKeyInit) (hcrc : t.keyInit.crcPresent = false) :
    transferredKey aes t.challenge t.transfer = some corpusSystemKey := by
  obtain ⟨-, -, h⟩ := bind_ok h
  obtain ⟨-, -, h⟩ := bind_ok h
  obtain ⟨decrypted, hdecrypted, h⟩ := bind_ok h
  have hcmd : (t.keyInit.nonCrcBytes.drop 8).take 1 = [cmdKeyInit] := by
    obtain ⟨hlt, hget⟩ := List.getElem?_eq_some_iff.mp hinit
    rw [RawFrame.nonCrcBytes, hcrc, if_neg (by decide), List.drop_eq_getElem_cons hlt, hget]
    rfl
  have hkey := valueOf_ok hdecrypted
  rw [hcmd, require_ok h] at hkey
  exact hkey

end

/-- A capture that the gate accepts carries no system key but the corpus key exactly when each of
its key transfers has the shape the gate looks for, or happens to carry the corpus key. -/
theorem only_corpus_key_iff (data : Capture) (accepted : validateCapture aes data = .ok ()) :
    OnlyCorpusKey aes (framesOf data) ↔
      ∀ transfer challenge older, TransferAt (framesOf data) transfer challenge older →
        Seen transfer older ∨ transferredKey aes challenge transfer = some corpusSystemKey := by
  constructor
  · intro honly transfer challenge older hat
    exact .inr (honly transfer challenge older hat)
  · intro hshapes transfer challenge older hat
    rcases hshapes transfer challenge older hat with hseen | hkey
    · obtain ⟨hvalid, htriples⟩ := of_validateCapture accepted
      obtain ⟨found, hin, his, hmem⟩ := triple_of_seen hat hseen
      obtain ⟨frame, hframe, rfl⟩ := List.mem_map.mp hin
      exact transferredKey_of_check (htriples _ hmem) his.2
        (crcPresent_of_valid (hvalid frame hframe))
    · exact hkey

/-- A pairing as the responder records it: its own challenge, and the key that it is given. -/
private def recordedByResponder : Capture where
  id := "somfy_hub_pairing_key_transfer_sx1276"
  key := "unknown"
  origin := "own-hardware"
  capturedWith := "sx1276"
  frames := [⟨"tx", "0E 00 123456 AABBCC 3C 112233445566", "absent"⟩,
    ⟨"rx", "18 00 AABBCC 123456 32 00112233445566778899AABBCCDDEEFF", "absent"⟩]
  expect := none

private def recordedChallenge : RawFrame :=
  ⟨"tx", [0x0E, 0x00, 0x12, 0x34, 0x56, 0xAA, 0xBB, 0xCC, 0x3C,
    0x11, 0x22, 0x33, 0x44, 0x55, 0x66]⟩

private def recordedTransfer : RawFrame :=
  ⟨"rx", [0x18, 0x00, 0xAA, 0xBB, 0xCC, 0x12, 0x34, 0x56, 0x32, 0x00, 0x11, 0x22, 0x33,
    0x44, 0x55, 0x66, 0x77, 0x88, 0x99, 0xAA, 0xBB, 0xCC, 0xDD, 0xEE, 0xFF]⟩

private theorem recordedByResponder_accepted :
    validateCapture aes128Encrypt recordedByResponder = .ok () := by
  decide +kernel

/-- The condition, for the pairing that the responder recorded. -/
theorem recordedByResponder_iff :
    OnlyCorpusKey aes128Encrypt (framesOf recordedByResponder) ↔
      ∀ transfer challenge older,
        TransferAt (framesOf recordedByResponder) transfer challenge older →
        Seen transfer older ∨ transferredKey aes128Encrypt challenge transfer =
          some corpusSystemKey :=
  only_corpus_key_iff aes128Encrypt recordedByResponder recordedByResponder_accepted

/-- The gate accepts it unread, and its key is not the corpus key. -/
theorem received_transfer_unread : ¬ ∀ (aes : BlockCipher) (data : Capture),
    validateCapture aes data = .ok () → OnlyCorpusKey aes (framesOf data) := by
  intro sound
  have hframes : framesOf recordedByResponder = [recordedChallenge, recordedTransfer] := by
    decide +kernel
  have hat : TransferAt (framesOf recordedByResponder) recordedTransfer recordedChallenge [] :=
    ⟨[recordedChallenge], [], hframes, rfl, by decide +kernel, by decide +kernel⟩
  have hkey := sound aes128Encrypt recordedByResponder recordedByResponder_accepted
    recordedTransfer recordedChallenge [] hat
  have hbyte := congrArg (Option.map fun key : Block => key[0]) hkey
  exact absurd hbyte (by decide +kernel)

end HomeIoControl.CorpusKeyTransfers
