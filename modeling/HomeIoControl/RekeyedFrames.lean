import HomeIoControl.CorpusRekeying
import Mathlib.Data.List.GetD

/-!
# What re-keying leaves of a frame

A rewriter keeps the frame but for the bytes that depend on the key, and leaves it verifying under
the corpus key.
-/

namespace HomeIoControl.RekeyedFrames

open ProtocolFrames ProtocolCrypto CorpusFrames CorpusGate CorpusRekeying

theorem crcPresent_eq (f : RawFrame) :
    f.crcPresent = decide (f.raw.length = declaredLength (f.raw.getD 0 0) + 2) := by
  unfold RawFrame.crcPresent
  cases hraw : f.raw with
  | nil => simp
  | cons ctrl0 rest => simp

theorem nonCrcBytes_of_absent {f : RawFrame} (h : f.crcPresent = false) :
    f.nonCrcBytes = f.raw := by
  rw [RawFrame.nonCrcBytes, h]
  rfl

theorem nonCrcBytes_of_present {f : RawFrame} (h : f.crcPresent = true) :
    f.nonCrcBytes = f.raw.take (f.raw.length - 2) := by
  rw [RawFrame.nonCrcBytes, if_pos h]

theorem length_nonCrcBytes (f : RawFrame) :
    f.nonCrcBytes.length = if f.crcPresent then f.raw.length - 2 else f.raw.length := by
  unfold RawFrame.nonCrcBytes
  split_ifs
  · rw [List.length_take]
    omega
  · rfl

theorem nonCrcBytes_getElem? {f : RawFrame} {k : ℕ} (h : k < f.nonCrcBytes.length) :
    f.nonCrcBytes[k]? = f.raw[k]? := by
  cases hcrc : f.crcPresent with
  | false => rw [nonCrcBytes_of_absent hcrc]
  | true =>
    rw [length_nonCrcBytes, hcrc, if_pos rfl] at h
    rw [nonCrcBytes_of_present hcrc, List.getElem?_take, if_pos h]

/-- The header of a frame with a command is not cut off by its CRC. -/
def Whole (f : RawFrame) : Prop := f.cmd ≠ none → frameMinSize ≤ f.nonCrcBytes.length

theorem cmd_eq_none_iff (f : RawFrame) : f.cmd = none ↔ f.raw.length < frameMinSize := by
  rw [RawFrame.cmd, List.getElem?_eq_none_iff, frameMinSize]
  omega

theorem Whole.cmd {f : RawFrame} (h : Whole f) : f.cmd = f.nonCrcBytes[8]? := by
  by_cases hcmd : f.cmd = none
  · have hlen := (cmd_eq_none_iff f).mp hcmd
    have hle : f.nonCrcBytes.length ≤ f.raw.length := by
      rw [length_nonCrcBytes]
      split_ifs <;> omega
    rw [hcmd, eq_comm, List.getElem?_eq_none_iff]
    simp only [frameMinSize] at hlen
    omega
  · have hlen := h hcmd
    simp only [frameMinSize] at hlen
    rw [nonCrcBytes_getElem? (by omega), RawFrame.cmd]

theorem Whole.long {f : RawFrame} (h : Whole f) (hlong : frameMinSize ≤ f.raw.length) :
    frameMinSize ≤ f.nonCrcBytes.length :=
  h fun hnone => absurd ((cmd_eq_none_iff f).mp hnone) (Nat.not_lt_of_le hlong)

theorem Whole.header {f : RawFrame} (h : Whole f) {cmd : UInt8} (hcmd : f.cmd = some cmd) :
    frameMinSize ≤ f.nonCrcBytes.length := h (by simp [hcmd])

theorem idAt_congr {raw raw' : List UInt8} {i : ℕ}
    (h : ∀ k, i ≤ k → k < i + 3 → raw'[k]? = raw[k]?) : idAt raw' i = idAt raw i := by
  simp only [idAt, List.getD_eq_getElem?_getD]
  rw [h i (by omega) (by omega), h (i + 1) (by omega) (by omega), h (i + 2) (by omega) (by omega)]

/-- The bytes of a frame that depend on a key, by its command. -/
def keyField (cmd : UInt8) (k : ℕ) : Bool :=
  if cmd = cmdChallengeResp then 9 ≤ k ∧ k < 15
  else if cmd = cmdDiscoverSpeReq then 15 ≤ k ∧ k < 21
  else if cmd = cmdKeyTransfer then 9 ≤ k ∧ k < 25
  else if cmd = cmdOnewayAddController then 9 ≤ k ∧ k < 25 ∨ 29 ≤ k ∧ k < 35
  else if cmd = cmdOnewayRemove then 12 ≤ k ∧ k < 18
  else false

theorem keyField_response (k : ℕ) :
    keyField cmdChallengeResp k = decide (9 ≤ k ∧ k < 15) := rfl

theorem keyField_discover (k : ℕ) :
    keyField cmdDiscoverSpeReq k = decide (15 ≤ k ∧ k < 21) := rfl

theorem keyField_transfer (k : ℕ) :
    keyField cmdKeyTransfer k = decide (9 ≤ k ∧ k < 25) := rfl

theorem keyField_add (k : ℕ) :
    keyField cmdOnewayAddController k = decide (9 ≤ k ∧ k < 25 ∨ 29 ≤ k ∧ k < 35) := rfl

theorem keyField_remove (k : ℕ) :
    keyField cmdOnewayRemove k = decide (12 ≤ k ∧ k < 18) := rfl

def inKeyField (f : RawFrame) (k : ℕ) : Bool := f.cmd.elim false fun cmd => keyField cmd k

/-- The frame is the same but for the bytes that depend on a key, and the CRC, which fits. -/
structure Rekeyed (f f' : RawFrame) : Prop where
  direction : f'.direction = f.direction
  length : f'.raw.length = f.raw.length
  crcPresent : f'.crcPresent = f.crcPresent
  elsewhere : ∀ k, inKeyField f k = false → f'.nonCrcBytes[k]? = f.nonCrcBytes[k]?
  crc : f' = f ∨ f'.raw = f'.nonCrcBytes ++ if f.crcPresent then crcBytes f'.nonCrcBytes else []

theorem keyField_header {cmd : UInt8} {k : ℕ} (h : k < 9) : keyField cmd k = false := by
  unfold keyField
  split_ifs <;> simp <;> omega

theorem inKeyField_header {f : RawFrame} {k : ℕ} (h : k < 9) : inKeyField f k = false := by
  unfold inKeyField
  cases f.cmd with
  | none => rfl
  | some cmd => exact keyField_header h

namespace Rekeyed

variable {f f' f'' : RawFrame}

theorem refl (f : RawFrame) : Rekeyed f f := ⟨rfl, rfl, rfl, fun _ _ => rfl, .inl rfl⟩

theorem nonCrcLength (h : Rekeyed f f') : f'.nonCrcBytes.length = f.nonCrcBytes.length := by
  rw [length_nonCrcBytes, length_nonCrcBytes, h.crcPresent, h.length]

theorem payloadLength (h : Rekeyed f f') : f'.payload.length = f.payload.length := by
  rw [RawFrame.payload, RawFrame.payload, List.length_drop, List.length_drop, h.nonCrcLength]

theorem cmd (h : Rekeyed f f') (hf : Whole f) : f'.cmd = f.cmd := by
  by_cases hnone : f.cmd = none
  · have hlen := (cmd_eq_none_iff f).mp hnone
    rw [hnone, cmd_eq_none_iff, h.length]
    exact hlen
  · have hlen := hf hnone
    simp only [frameMinSize] at hlen
    have h8 := h.elsewhere 8 (inKeyField_header (by omega))
    rw [nonCrcBytes_getElem? (by rw [h.nonCrcLength]; omega), nonCrcBytes_getElem? (by omega)] at h8
    exact h8

theorem whole (h : Rekeyed f f') (hf : Whole f) : Whole f' := by
  intro hcmd
  rw [h.cmd hf] at hcmd
  rw [h.nonCrcLength]
  exact hf hcmd

theorem trans (h : Rekeyed f f') (h' : Rekeyed f' f'') (hf : Whole f) : Rekeyed f f'' where
  direction := h'.direction.trans h.direction
  length := h'.length.trans h.length
  crcPresent := h'.crcPresent.trans h.crcPresent
  elsewhere k hk := by
    have hk' : inKeyField f' k = false := by rwa [inKeyField, h.cmd hf]
    exact (h'.elsewhere k hk').trans (h.elsewhere k hk)
  crc := by
    rcases h'.crc with rfl | hcrc
    · exact h.crc
    · rw [h.crcPresent] at hcrc
      exact .inr hcrc

/-- The addresses stay. -/
theorem addresses (h : Rekeyed f f') (hheader : frameMinSize ≤ f.nonCrcBytes.length) :
    dstOf f'.raw = dstOf f.raw ∧ srcOf f'.raw = srcOf f.raw := by
  simp only [frameMinSize] at hheader
  have hread : ∀ k, k < 9 → f'.raw[k]? = f.raw[k]? := by
    intro k hk
    have hsame := h.elsewhere k (inKeyField_header hk)
    rwa [nonCrcBytes_getElem? (by rw [h.nonCrcLength]; omega),
      nonCrcBytes_getElem? (by omega)] at hsame
  exact ⟨idAt_congr fun k _ hk => hread k (by omega), idAt_congr fun k _ hk => hread k (by omega)⟩

end Rekeyed

@[simp] theorem length_crcBytes (data : List UInt8) : (crcBytes data).length = 2 := rfl

/-- Writing a payload of the same length keeps the shape of the frame. -/
theorem setPayload_shape {f : RawFrame} {payload : List UInt8}
    (hwhole : frameMinSize ≤ f.nonCrcBytes.length) (hlen : payload.length = f.payload.length) :
    (setPayload f payload).crcPresent = f.crcPresent ∧
      (setPayload f payload).raw.length = f.raw.length ∧
      (setPayload f payload).nonCrcBytes = f.nonCrcBytes.take frameMinSize ++ payload := by
  have hcut := length_nonCrcBytes f
  rw [RawFrame.payload, List.length_drop] at hlen
  simp only [frameMinSize] at hwhole hlen ⊢
  have hnew : (f.nonCrcBytes.take 9 ++ payload).length = f.nonCrcBytes.length := by
    rw [List.length_append, List.length_take]
    omega
  have hfirst : ∀ crc : List UInt8, (f.nonCrcBytes.take 9 ++ payload ++ crc).getD 0 0 =
      f.raw.getD 0 0 := by
    intro crc
    rw [List.getD_eq_getElem?_getD, List.getD_eq_getElem?_getD, ← nonCrcBytes_getElem? (by omega),
      List.append_assoc, List.getElem?_append_left (by rw [List.length_take]; omega),
      List.getElem?_take, if_pos (by omega)]
  cases hcrc : f.crcPresent with
  | false =>
    have hraw : (setPayload f payload).raw = f.nonCrcBytes.take 9 ++ payload := by
      simp [setPayload, setFrameRaw, hcrc, frameMinSize]
    have hlength : (setPayload f payload).raw.length = f.raw.length := by
      rw [hraw, hnew, hcut, hcrc]
      rfl
    have hpresent : (setPayload f payload).crcPresent = false := by
      have hfirst := hfirst []
      rw [List.append_nil, ← hraw] at hfirst
      rw [crcPresent_eq, hlength, hfirst, ← crcPresent_eq, hcrc]
    exact ⟨hpresent, hlength, (nonCrcBytes_of_absent hpresent).trans hraw⟩
  | true =>
    have hraw : (setPayload f payload).raw = f.nonCrcBytes.take 9 ++ payload ++
        crcBytes (f.nonCrcBytes.take 9 ++ payload) := by
      simp [setPayload, setFrameRaw, hcrc, frameMinSize]
    rw [hcrc, if_pos rfl] at hcut
    have hlength : (setPayload f payload).raw.length = f.raw.length := by
      rw [hraw, List.length_append, hnew, length_crcBytes]
      omega
    have hpresent : (setPayload f payload).crcPresent = true := by
      have hfirst := hfirst (crcBytes (f.nonCrcBytes.take 9 ++ payload))
      rw [← hraw] at hfirst
      rw [crcPresent_eq, hlength, hfirst, ← crcPresent_eq, hcrc]
    refine ⟨hpresent, hlength, ?_⟩
    rw [nonCrcBytes_of_present hpresent, hlength, hraw, ← hcut, ← hnew, List.take_left']
    rfl

section

variable {f : RawFrame} {payload : List UInt8} (hwhole : frameMinSize ≤ f.nonCrcBytes.length)
  (hlen : payload.length = f.payload.length)

include hwhole hlen

theorem setPayload_payload : (setPayload f payload).payload = payload := by
  have htake : (f.nonCrcBytes.take frameMinSize).length = frameMinSize := by
    rw [List.length_take]
    omega
  rw [RawFrame.payload, (setPayload_shape hwhole hlen).2.2, List.drop_left' htake]

theorem setPayload_header {k : ℕ} (hk : k < frameMinSize) :
    (setPayload f payload).nonCrcBytes[k]? = f.nonCrcBytes[k]? := by
  rw [(setPayload_shape hwhole hlen).2.2,
    List.getElem?_append_left (by rw [List.length_take]; omega), List.getElem?_take, if_pos hk]

/-- Writing a payload that differs in the bytes of the key only. -/
theorem setPayload_rekeyed
    (hkeeps : ∀ k, inKeyField f (frameMinSize + k) = false → payload[k]? = f.payload[k]?) :
    Rekeyed f (setPayload f payload) := by
  obtain ⟨hcrc, hlength, hbytes⟩ := setPayload_shape hwhole hlen
  have htake : (f.nonCrcBytes.take frameMinSize).length = frameMinSize := by
    rw [List.length_take]
    omega
  refine ⟨rfl, hlength, hcrc, fun k hk => ?_, .inr ?_⟩
  · rw [hbytes]
    by_cases hheader : k < frameMinSize
    · rw [List.getElem?_append_left (by omega), List.getElem?_take, if_pos hheader]
    · obtain ⟨k, rfl⟩ := Nat.exists_eq_add_of_le (Nat.le_of_not_lt hheader)
      rw [List.getElem?_append_right (by omega), htake, Nat.add_sub_cancel_left, hkeeps k hk,
        RawFrame.payload, List.getElem?_drop]
  · rw [hbytes, setPayload, setFrameRaw]
    split_ifs <;> simp

end

/-- The bytes that the gate reads. -/
def withoutCrc (f : RawFrame) : RawFrame := ⟨f.direction, f.nonCrcBytes⟩

theorem withoutCrc_crcPresent (f : RawFrame) : (withoutCrc f).crcPresent = false := by
  cases hcrc : f.crcPresent with
  | false =>
    have hbytes := nonCrcBytes_of_absent hcrc
    rw [withoutCrc, hbytes]
    exact hcrc
  | true =>
    have hpresent := hcrc
    rw [crcPresent_eq, decide_eq_true_eq] at hpresent
    have hlen := length_nonCrcBytes f
    rw [hcrc, if_pos rfl] at hlen
    have hfirst : f.nonCrcBytes.getD 0 0 = f.raw.getD 0 0 := by
      rw [List.getD_eq_getElem?_getD, List.getD_eq_getElem?_getD, nonCrcBytes_getElem?]
      rw [hlen, hpresent, declaredLength]
      omega
    rw [crcPresent_eq]
    simp only [withoutCrc, hlen, hfirst]
    exact decide_eq_false (by omega)

@[simp] theorem withoutCrc_nonCrcBytes (f : RawFrame) :
    (withoutCrc f).nonCrcBytes = f.nonCrcBytes :=
  nonCrcBytes_of_absent (withoutCrc_crcPresent f)

@[simp] theorem withoutCrc_payload (f : RawFrame) : (withoutCrc f).payload = f.payload := by
  rw [RawFrame.payload, withoutCrc_nonCrcBytes, RawFrame.payload]

@[simp] theorem withoutCrc_raw (f : RawFrame) : (withoutCrc f).raw = f.nonCrcBytes := rfl

theorem withoutCrc_cmd {f : RawFrame} (h : Whole f) : (withoutCrc f).cmd = f.cmd := h.cmd.symm

theorem le_of_payload {f : RawFrame} {n : ℕ} (h : n ≤ f.payload.length) (hn : 0 < n) :
    frameMinSize + n ≤ f.nonCrcBytes.length := by
  rw [RawFrame.payload, List.length_drop] at h
  omega

section

variable {aes : BlockCipher} {f f' : RawFrame}

theorem exactly_length {n : ℕ} {bytes : List UInt8} {v : Vector UInt8 n}
    (h : exactly n bytes = some v) : bytes.length = n := by
  unfold exactly at h
  split_ifs at h with hlen
  exact hlen

theorem createHmac_length {data challenge hmac : List UInt8} {key : Block}
    (h : createHmac aes data challenge key = some hmac) :
    challenge.length = 6 ∧ hmac.length = hmacSize := by
  obtain ⟨challenge', hexact, hhmac⟩ := Option.bind_eq_some_iff.mp h
  refine ⟨exactly_length hexact, ?_⟩
  rw [← Option.some.inj hhmac, List.length_take, Vector.length_toList]
  rfl

theorem length_create1wHmac (data : List UInt8) (sequence : UInt16) (key : Block) :
    (create1wHmac aes data sequence key).length = hmacSize := by
  rw [CorpusFrames.create1wHmac, List.length_take, Vector.length_toList]
  rfl

theorem inKeyField_of_cmd {cmd : UInt8} (h : f.cmd = some cmd) (k : ℕ) :
    inKeyField f k = keyField cmd k := by
  rw [inKeyField, h]
  rfl

/-- Where every byte of the payload depends on the key, any payload of the length will do. -/
theorem keeps_nothing {payload : List UInt8} {n : ℕ} (hlen : payload.length = f.payload.length)
    (hn : f.payload.length = n)
    (hfield : ∀ k, k < n → inKeyField f (frameMinSize + k) = true) (k : ℕ)
    (hk : inKeyField f (frameMinSize + k) = false) : payload[k]? = f.payload[k]? := by
  have hout : n ≤ k := by
    by_contra hlt
    rw [hfield k (by omega)] at hk
    cases hk
  rw [List.getElem?_eq_none (by omega), List.getElem?_eq_none (by omega)]

theorem checkChallengeResponse_ok {origin challenge response : RawFrame} {cmd : UInt8}
    {hmac : List UInt8} (hcmd : origin.nonCrcBytes[8]? = some cmd)
    (hhmac : createHmac aes (cmd :: origin.payload) (challenge.payload.take hmacSize)
      corpusSystemKey = some hmac)
    (hresponse : response.payload.take hmacSize = hmac) :
    checkChallengeResponse aes ⟨withoutCrc origin, withoutCrc challenge, withoutCrc response⟩ =
      .ok () := by
  have htranscript : (origin.nonCrcBytes.drop 8).take 1 = [cmd] := by
    obtain ⟨hlt, hget⟩ := List.getElem?_eq_some_iff.mp hcmd
    rw [List.drop_eq_getElem_cons hlt, List.take_succ_cons, List.take_zero, hget]
  obtain ⟨hchallenge, hlength⟩ := createHmac_length hhmac
  have hchallengeLen : hmacSize ≤ challenge.payload.length := by
    rw [List.length_take] at hchallenge
    simp only [hmacSize] at hchallenge ⊢
    omega
  have hresponseLen : hmacSize ≤ response.payload.length := by
    rw [← hresponse, List.length_take] at hlength
    omega
  have hlong := le_of_payload hchallengeLen (by decide)
  have hlong' := le_of_payload hresponseLen (by decide)
  unfold checkChallengeResponse
  simp only [withoutCrc_raw, withoutCrc_nonCrcBytes, withoutCrc_payload, htranscript,
    List.singleton_append]
  refine bind_of_ok (require_of hlong) (bind_of_ok (require_of hlong') ?_)
  exact bind_of_ok (valueOf_of hhmac) (require_of hresponse.symm)

/-- What re-keying a response leaves. -/
theorem rekeyResponse_spec {realKey : Block} {found current : ℕ → RawFrame} {i o c : ℕ}
    (hat : challengeResponseAt found i = some (o, c))
    (hcmd : (current i).cmd = some cmdChallengeResp) (hwhole : Whole (current i))
    (hlen : (current i).payload.length = hmacSize)
    (h : rekeyResponse aes realKey found current i = some f') :
    Rekeyed (current i) f' ∧
      checkChallengeResponse aes
        ⟨withoutCrc (current o), withoutCrc (current c), withoutCrc f'⟩ = .ok () := by
  rw [rekeyResponse, hat] at h
  obtain ⟨cmd, horigin, h⟩ := Option.bind_eq_some_iff.mp h
  obtain ⟨hmac, -, h⟩ := Option.bind_eq_some_iff.mp h
  obtain ⟨newHmac, hnew, h⟩ := Option.bind_eq_some_iff.mp h
  split_ifs at h
  obtain rfl := Option.some.inj h
  have hnewLen : newHmac.length = (current i).payload.length :=
    (createHmac_length hnew).2.trans hlen.symm
  have hheader := hwhole.header hcmd
  refine ⟨setPayload_rekeyed hheader hnewLen (keeps_nothing hnewLen hlen ?_), ?_⟩
  · intro k hk
    rw [inKeyField_of_cmd hcmd]
    simp only [hmacSize] at hk
    rw [keyField_response, decide_eq_true_eq, frameMinSize]
    omega
  · refine checkChallengeResponse_ok horigin hnew ?_
    rw [setPayload_payload hheader hnewLen, List.take_of_length_le]
    rw [hnewLen, hlen]

theorem cryptKey_inverse {data challenge : List UInt8} {key encrypted : Block}
    (h : CorpusFrames.cryptKey aes data challenge key.toList = some encrypted) :
    CorpusFrames.cryptKey aes data challenge encrypted.toList = some key ∧
      challenge.length = 6 := by
  unfold CorpusFrames.cryptKey at h ⊢
  simp only [exactly_toList, Option.bind_eq_bind, Option.bind_some] at h ⊢
  obtain ⟨challenge', hexact, hkey⟩ := Option.bind_eq_some_iff.mp h
  refine ⟨?_, exactly_length hexact⟩
  rw [hexact, Option.bind_some, ← Option.some.inj hkey, xorBlocks_cancel]

theorem crypt1wKey_inverse {node : NodeId} {key encrypted : Block}
    (h : CorpusFrames.crypt1wKey aes node key.toList = some encrypted) :
    CorpusFrames.crypt1wKey aes node encrypted.toList = some key := by
  unfold CorpusFrames.crypt1wKey at h ⊢
  simp only [exactly_toList, Option.bind_eq_bind, Option.bind_some] at h ⊢
  rw [← Option.some.inj h, xorBlocks_cancel]

theorem checkKeyTransfer_ok {keyInit challenge transfer : RawFrame} {encrypted : Block}
    (hencrypted : CorpusFrames.cryptKey aes ((keyInit.nonCrcBytes.drop 8).take 1)
      (challenge.payload.take hmacSize) corpusSystemKey.toList = some encrypted)
    (htransfer : transfer.payload.take aesKeySize = encrypted.toList) :
    checkKeyTransfer aes ⟨withoutCrc keyInit, withoutCrc challenge, withoutCrc transfer⟩ =
      .ok () := by
  obtain ⟨hdecrypted, hchallenge⟩ := cryptKey_inverse hencrypted
  have hchallengeLen : hmacSize ≤ challenge.payload.length := by
    rw [List.length_take] at hchallenge
    simp only [hmacSize] at hchallenge ⊢
    omega
  have htransferLen : aesKeySize ≤ transfer.payload.length := by
    have hlength := congrArg List.length htransfer
    rw [List.length_take, Vector.length_toList] at hlength
    simp only [aesKeySize] at hlength ⊢
    omega
  unfold checkKeyTransfer
  simp only [withoutCrc_raw, withoutCrc_nonCrcBytes, withoutCrc_payload]
  refine bind_of_ok (require_of (le_of_payload hchallengeLen (by decide))) ?_
  refine bind_of_ok (require_of (le_of_payload htransferLen (by decide))) ?_
  rw [htransfer]
  exact bind_of_ok (valueOf_of hdecrypted) (require_of rfl)

/-- What re-keying a key transfer leaves. -/
theorem rekeyTransfer_spec {realKey : Block} {found current : ℕ → RawFrame} {i k c : ℕ}
    (hat : keyTransferAt found i = some (k, c)) (hcmd : (current i).cmd = some cmdKeyTransfer)
    (hwhole : Whole (current i)) (hlen : (current i).payload.length = aesKeySize)
    (h : rekeyTransfer aes realKey found current i = some f') :
    Rekeyed (current i) f' ∧
      checkKeyTransfer aes
        ⟨withoutCrc (current k), withoutCrc (current c), withoutCrc f'⟩ = .ok () := by
  rw [rekeyTransfer, hat] at h
  obtain ⟨decrypted, -, h⟩ := Option.bind_eq_some_iff.mp h
  obtain ⟨encrypted, hnew, h⟩ := Option.bind_eq_some_iff.mp h
  split_ifs at h
  obtain rfl := Option.some.inj h
  have hnewLen : encrypted.toList.length = (current i).payload.length := by
    rw [hlen, Vector.length_toList]
    rfl
  have hheader := hwhole.header hcmd
  refine ⟨setPayload_rekeyed hheader hnewLen (keeps_nothing hnewLen hlen ?_), ?_⟩
  · intro n hn
    rw [inKeyField_of_cmd hcmd]
    simp only [aesKeySize] at hn
    rw [keyField_transfer, decide_eq_true_eq, frameMinSize]
    omega
  · refine checkKeyTransfer_ok hnew ?_
    rw [setPayload_payload hheader hnewLen, List.take_of_length_le]
    rw [hnewLen, hlen]

theorem isSelfAuthenticated_iff :
    isSelfAuthenticated f = true ↔
      f.cmd = some cmdDiscoverSpeReq ∧ f.payload.length = 2 * hmacSize := by
  simp [isSelfAuthenticated]

/-- What re-keying a self-authenticated frame leaves. -/
theorem rekeySelfAuthenticated_spec {realKey : Block} (hwhole : Whole f)
    (h : rekeySelfAuthenticated aes realKey f = some f') :
    Rekeyed f f' ∧ (isSelfAuthenticated f = false → f' = f) ∧
      (isSelfAuthenticated f = true → checkSelfAuthenticated aes (withoutCrc f') = .ok ()) := by
  unfold rekeySelfAuthenticated at h
  split_ifs at h with hself
  · obtain rfl := Option.some.inj h
    exact ⟨.refl f, fun _ => rfl, fun h => absurd (hself.symm.trans h) (by decide)⟩
  · rw [Bool.not_eq_false] at hself
    obtain ⟨hcmd, hlen⟩ := isSelfAuthenticated_iff.mp hself
    obtain ⟨cmd, hcmd8, h⟩ := Option.bind_eq_some_iff.mp h
    obtain ⟨hmac, -, h⟩ := Option.bind_eq_some_iff.mp h
    obtain ⟨newHmac, hnew, h⟩ := Option.bind_eq_some_iff.mp h
    split_ifs at h
    obtain rfl := Option.some.inj h
    have hnewHmac := (createHmac_length hnew).2
    have htake : (f.payload.take hmacSize).length = hmacSize := by
      rw [List.length_take, hlen]
      rfl
    have hnewLen : (f.payload.take hmacSize ++ newHmac).length = f.payload.length := by
      rw [List.length_append, htake, hnewHmac, hlen]
      rfl
    have hheader := hwhole.header hcmd
    have hpayload := setPayload_payload hheader hnewLen
    refine ⟨setPayload_rekeyed hheader hnewLen fun k hk => ?_,
      fun hfalse => absurd (hself.symm.trans hfalse) (by decide), fun _ => ?_⟩
    · -- the challenge stays
      by_cases hk6 : k < hmacSize
      · rw [List.getElem?_append_left (by omega), List.getElem?_take, if_pos hk6]
      · rw [inKeyField_of_cmd hcmd] at hk
        have hout : 12 ≤ k := by
          by_contra hlt
          have hfield : keyField cmdDiscoverSpeReq (frameMinSize + k) = true := by
            simp only [hmacSize] at hk6
            rw [keyField_discover, decide_eq_true_eq, frameMinSize]
            omega
          rw [hfield] at hk
          cases hk
        simp only [hmacSize] at hlen
        rw [List.getElem?_eq_none (by omega), List.getElem?_eq_none (by omega)]
    · have hcmd9 : ((setPayload f (f.payload.take hmacSize ++ newHmac)).nonCrcBytes.drop 8).take 1 =
          [cmd] := by
        have hget8 := (setPayload_header hheader hnewLen (show 8 < frameMinSize by decide)).trans
          hcmd8
        obtain ⟨hlt, hget⟩ := List.getElem?_eq_some_iff.mp hget8
        rw [List.drop_eq_getElem_cons hlt, List.take_succ_cons, List.take_zero, hget]
      unfold checkSelfAuthenticated
      simp only [withoutCrc_nonCrcBytes, withoutCrc_payload, hcmd9, hpayload]
      rw [List.take_left' htake, List.drop_left' htake, List.take_of_length_le hnewHmac.le]
      exact bind_of_ok (valueOf_of hnew) (require_of rfl)

theorem parts_of_payload {parts : OneWayAddControllerParts}
    (h : onewayAddControllerParts f = some parts) :
    onewayAddControllerDeclaredPayloadSize ≤ f.payload.length ∧
      parts.src = idAt f.nonCrcBytes 5 ∧ parts.encKey = f.payload.take aesKeySize ∧
      parts.sequence = word (f.payload.getD 18 0) (f.payload.getD 19 0) ∧
      parts.trailer = f.payload.drop onewayAddControllerDeclaredPayloadSize := by
  unfold onewayAddControllerParts at h
  split_ifs at h with hshort
  obtain rfl := Option.some.inj h
  exact ⟨Nat.le_of_not_lt hshort, rfl, rfl, rfl, rfl⟩

/-- What the gate wants of an enrollment under the corpus key: the wrapped key, and the MAC where
there is one. -/
def EnrollsCorpusKey (aes : BlockCipher) (f : RawFrame) : Prop :=
  ∃ parts, onewayAddControllerParts f = some parts ∧
    CorpusFrames.crypt1wKey aes parts.src parts.encKey = some corpusSystemKey ∧
    (parts.trailer = [] ∨ CorpusFrames.create1wHmac aes (cmdOnewayAddController :: parts.encKey)
      parts.sequence corpusSystemKey = parts.trailer)

/-- The payload of an enrollment with another wrapped key and another MAC. -/
def enrollmentPayload (payload : List UInt8) (newKey : Block) (tail : List UInt8) : List UInt8 :=
  newKey.toList ++ (payload.drop aesKeySize).take 4 ++ tail

section

variable {payload tail : List UInt8} {newKey : Block}
  (hlong : onewayAddControllerDeclaredPayloadSize ≤ payload.length)

include hlong

theorem length_enrollmentFront :
    (newKey.toList ++ (payload.drop aesKeySize).take 4).length =
      onewayAddControllerDeclaredPayloadSize := by
  have hkey : newKey.toList.length = 16 := Vector.length_toList
  simp only [onewayAddControllerDeclaredPayloadSize, aesKeySize] at hlong ⊢
  rw [List.length_append, hkey, List.length_take, List.length_drop]
  omega

theorem length_enrollmentPayload
    (htail : tail.length = (payload.drop onewayAddControllerDeclaredPayloadSize).length) :
    (enrollmentPayload payload newKey tail).length = payload.length := by
  rw [enrollmentPayload, List.length_append, length_enrollmentFront hlong, htail, List.length_drop]
  omega

/-- What is between the key and the MAC stays. -/
theorem getElem?_enrollmentPayload {k : ℕ} (hk : aesKeySize ≤ k)
    (hk' : k < onewayAddControllerDeclaredPayloadSize) :
    (enrollmentPayload payload newKey tail)[k]? = payload[k]? := by
  have hkey : newKey.toList.length = aesKeySize := Vector.length_toList
  have hfront := @length_enrollmentFront payload newKey hlong
  rw [enrollmentPayload, List.getElem?_append_left (by omega),
    List.getElem?_append_right (by omega), hkey, List.getElem?_take, if_pos, List.getElem?_drop,
    Nat.add_sub_cancel' hk]
  simp only [onewayAddControllerDeclaredPayloadSize, aesKeySize] at hk hk' ⊢
  omega

theorem drop_enrollmentPayload :
    (enrollmentPayload payload newKey tail).drop onewayAddControllerDeclaredPayloadSize = tail :=
  List.drop_left' (length_enrollmentFront hlong)

end

theorem take_enrollmentPayload (payload : List UInt8) (newKey : Block) (tail : List UInt8) :
    (enrollmentPayload payload newKey tail).take aesKeySize = newKey.toList := by
  have hkey : newKey.toList.length = aesKeySize := Vector.length_toList
  rw [enrollmentPayload, List.append_assoc]
  exact List.take_left' hkey

section

variable (hheader : frameMinSize ≤ f.nonCrcBytes.length)
  (hlong : onewayAddControllerDeclaredPayloadSize ≤ f.payload.length) (newKey : Block)
  {tail : List UInt8}
  (htail : tail.length = (f.payload.drop onewayAddControllerDeclaredPayloadSize).length)

include hheader hlong htail

theorem enrollment_rekeyed (hcmd : f.cmd = some cmdOnewayAddController)
    (htail6 : tail.length ≤ hmacSize) :
    Rekeyed f (setPayload f (enrollmentPayload f.payload newKey tail)) := by
  have hlen := @length_enrollmentPayload _ _ newKey hlong htail
  apply setPayload_rekeyed hheader hlen
  intro k hk
  rw [inKeyField_of_cmd hcmd, keyField_add, decide_eq_false_iff_not, frameMinSize] at hk
  by_cases hrest : k < onewayAddControllerDeclaredPayloadSize
  · refine getElem?_enrollmentPayload hlong ?_ hrest
    simp only [aesKeySize]
    omega
  · have hout : f.payload.length ≤ k := by
      rw [List.length_drop] at htail
      simp only [onewayAddControllerDeclaredPayloadSize, aesKeySize, hmacSize] at *
      omega
    rw [List.getElem?_eq_none (by omega), List.getElem?_eq_none hout]

theorem enrollment_parts :
    onewayAddControllerParts (setPayload f (enrollmentPayload f.payload newKey tail)) = some
      { src := idAt f.nonCrcBytes 5
        encKey := newKey.toList
        sequence := word (f.payload.getD 18 0) (f.payload.getD 19 0)
        trailer := tail } := by
  have hlen := @length_enrollmentPayload _ _ newKey hlong htail
  have hgetD : ∀ k, aesKeySize ≤ k → k < onewayAddControllerDeclaredPayloadSize →
      (enrollmentPayload f.payload newKey tail).getD k 0 = f.payload.getD k 0 := by
    intro k hk hk'
    rw [List.getD_eq_getElem?_getD, List.getD_eq_getElem?_getD,
      getElem?_enrollmentPayload hlong hk hk']
  have hsrc : idAt (setPayload f (enrollmentPayload f.payload newKey tail)).nonCrcBytes 5 =
      idAt f.nonCrcBytes 5 :=
    idAt_congr fun k _ hk => setPayload_header hheader hlen (Nat.lt_trans hk (by decide))
  rw [onewayAddControllerParts, setPayload_payload hheader hlen, hlen,
    if_neg (Nat.not_lt_of_le hlong), take_enrollmentPayload, drop_enrollmentPayload hlong,
    hgetD 18 (by decide) (by decide), hgetD 19 (by decide) (by decide), ← hsrc]
  rfl

end

/-- What re-keying an enrollment leaves. -/
theorem rekeyAddController_spec {realKey : Block} (hwhole : Whole f)
    (h : rekeyAddController aes realKey f = some f') :
    Rekeyed f f' ∧ (f.cmd ≠ some cmdOnewayAddController → f' = f) ∧
      (f.cmd = some cmdOnewayAddController → EnrollsCorpusKey aes f') := by
  unfold rekeyAddController at h
  split_ifs at h with hcmd
  · obtain rfl := Option.some.inj h
    exact ⟨.refl f, fun _ => rfl, fun h => absurd h hcmd⟩
  · rw [not_not] at hcmd
    obtain ⟨parts, hparts, h⟩ := Option.bind_eq_some_iff.mp h
    obtain ⟨unwrapped, -, h⟩ := Option.bind_eq_some_iff.mp h
    obtain ⟨newKey, hnewKey, h⟩ := Option.bind_eq_some_iff.mp h
    obtain ⟨hlong, hsrc, -, hsequence, htrailer⟩ := parts_of_payload hparts
    have hheader := hwhole.header hcmd
    have hunwraps := crypt1wKey_inverse hnewKey
    rw [hsrc] at hunwraps
    split_ifs at h with hkey hnone hmac
    · -- a bare enrollment stays bare
      have htail : ([] : List UInt8).length =
          (f.payload.drop onewayAddControllerDeclaredPayloadSize).length := by
        rw [← htrailer, hnone]
      have hrekeyed := enrollment_rekeyed hheader hlong newKey htail hcmd (Nat.zero_le _)
      have hparts' := enrollment_parts hheader hlong newKey htail
      rw [enrollmentPayload, List.append_nil, Option.some.inj h] at hrekeyed hparts'
      exact ⟨hrekeyed, fun hne => absurd hcmd hne, fun _ => ⟨_, hparts', hunwraps, .inl rfl⟩⟩
    · rw [not_not] at hmac
      have htail : (CorpusFrames.create1wHmac aes (cmdOnewayAddController :: newKey.toList)
          parts.sequence corpusSystemKey).length =
            (f.payload.drop onewayAddControllerDeclaredPayloadSize).length := by
        rw [length_create1wHmac, ← htrailer, ← hmac, length_create1wHmac]
      have hrekeyed := enrollment_rekeyed hheader hlong newKey htail hcmd
        (length_create1wHmac _ _ _).le
      have hparts' := enrollment_parts hheader hlong newKey htail
      rw [enrollmentPayload, Option.some.inj h] at hrekeyed hparts'
      refine ⟨hrekeyed, fun hne => absurd hcmd hne, fun _ => ⟨_, hparts', hunwraps, .inr ?_⟩⟩
      rw [hsequence]

/-- The two bytes of a sequence that was put together from them. -/
theorem word_bytes (high low : UInt8) :
    (word high low >>> 8).toUInt8 = high ∧ (word high low).toUInt8 = low := by
  constructor
  · apply UInt8.eq_of_toBitVec_eq
    simp only [word, UInt16.toBitVec_toUInt8, UInt16.toBitVec_shiftRight, UInt16.toBitVec_or,
      UInt16.toBitVec_shiftLeft, UInt8.toBitVec_toUInt16]
    apply BitVec.eq_of_getLsbD_eq
    intro i hi
    have hi' : 8 + i < 16 := by omega
    simp [hi, hi']
  · apply UInt8.eq_of_toBitVec_eq
    simp only [word, UInt16.toBitVec_toUInt8, UInt16.toBitVec_or, UInt16.toBitVec_shiftLeft,
      UInt8.toBitVec_toUInt16]
    apply BitVec.eq_of_getLsbD_eq
    intro i hi
    simp [hi]

/-- What re-keying a removal leaves. -/
theorem rekeyRemoveController_spec {realKey : Block} (hwhole : Whole f)
    (h : rekeyRemoveController aes realKey f = some f') :
    Rekeyed f f' ∧ (f.cmd ≠ some cmdOnewayRemove → f' = f) ∧
      (f.cmd = some cmdOnewayRemove →
        checkRemoveControllerMac aes (withoutCrc f') = .ok ()) := by
  unfold rekeyRemoveController at h
  split_ifs at h with hcmd
  · obtain rfl := Option.some.inj h
    exact ⟨.refl f, fun _ => rfl, fun h => absurd h hcmd⟩
  · rw [not_not] at hcmd
    obtain ⟨parts, hparts, h⟩ := Option.bind_eq_some_iff.mp h
    split_ifs at h with hmac
    unfold onewayRemoveControllerParts at hparts
    split_ifs at hparts with hlen
    rw [not_not, onewayRemoveDeclaredPayloadSize] at hlen
    have hheader := hwhole.header hcmd
    obtain ⟨data, high, low, mac, hpayload⟩ :
        ∃ data high low mac, f.payload = data :: high :: low :: mac := by
      rcases hp : f.payload with _ | ⟨data, _ | ⟨high, _ | ⟨low, mac⟩⟩⟩
      · simp [hp] at hlen
      · simp [hp] at hlen
      · simp [hp] at hlen
      · exact ⟨data, high, low, mac, rfl⟩
    have hmacLen : mac.length = 6 := by
      rw [hpayload] at hlen
      simpa using hlen
    obtain rfl := Option.some.inj hparts
    obtain rfl := Option.some.inj h
    simp only [hpayload, List.getD_cons_succ, List.getD_cons_zero, List.take_succ_cons,
      List.take_zero, (word_bytes high low).1, (word_bytes high low).2, List.cons_append,
      List.nil_append]
    set newMac := CorpusFrames.create1wHmac aes [cmdOnewayRemove, data] (word high low)
      corpusSystemKey with hnewMac
    have hnewMacLen : newMac.length = hmacSize := length_create1wHmac _ _ _
    have hnewLen : (data :: high :: low :: newMac).length = f.payload.length := by
      rw [hpayload]
      simp [hnewMacLen, hmacLen, hmacSize]
    refine ⟨setPayload_rekeyed hheader hnewLen fun k hk => ?_, fun hne => absurd hcmd hne,
      fun _ => ?_⟩
    · rw [inKeyField_of_cmd hcmd, keyField_remove, decide_eq_false_iff_not, frameMinSize] at hk
      rw [hpayload]
      rcases k with _ | _ | _ | k
      · rfl
      · rfl
      · rfl
      · simp only [hmacSize] at hnewMacLen
        simp only [List.getElem?_cons_succ]
        rw [List.getElem?_eq_none (by omega), List.getElem?_eq_none (by omega)]
    · unfold checkRemoveControllerMac onewayRemoveControllerParts
      simp only [withoutCrc_payload, setPayload_payload hheader hnewLen]
      rw [if_neg (by rw [hnewLen, hlen]; decide)]
      refine bind_of_ok rfl (require_of ?_)
      simp [← hnewMac, hnewMacLen]

end

end HomeIoControl.RekeyedFrames
