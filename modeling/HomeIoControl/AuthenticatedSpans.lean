import HomeIoControl.AesInverse

/-!
# What the initialization vector keeps of a span

Bytes beyond the eighth enter the initialization vector only through the running checksum.
Each of its steps is injective, in the byte and in the state, so one changed byte anywhere in a
span of unchanged length changes the vector.
-/

namespace HomeIoControl.AuthenticatedSpans

open ProtocolFrames ProtocolCrypto AesInverse

/-- The shifts of `compute_checksum`, read as numbers. -/
theorem shifted_toNat : ∀ c : UInt8,
    ((c &&& 0x7F) <<< 1).toNat = 2 * (c.toNat % 128) ∧
      (((c &&& 0x7F) <<< 1) ||| 1).toNat = 2 * (c.toNat % 128) + 1 ∧
      (c <<< 1).toNat = 2 * (c.toNat % 128) ∧
      ((c <<< 1) ^^^ 0x5B).toNat % 2 = 1 ∧ (c &&& 0x80 = 0 ↔ c.toNat < 128) :=
  forall_byte (by set_option maxRecDepth 4000 in decide)

/-- The first checksum byte before the feedback: seven bits of the old one and the carry. -/
def carried (c1 tmp : UInt8) : UInt8 :=
  if tmp ≥ 128 then ((c1 &&& 0x7F) <<< 1) ||| 1 else (c1 &&& 0x7F) <<< 1

theorem carried_toNat (c1 tmp : UInt8) :
    (carried c1 tmp).toNat = 2 * (c1.toNat % 128) + tmp.toNat / 128 := by
  obtain ⟨hclear, hset, -⟩ := shifted_toNat c1
  have htmp := tmp.toNat_lt
  unfold carried
  split
  case isTrue h =>
    have hle : 128 ≤ tmp.toNat := UInt8.le_iff_toNat_le.mp h
    omega
  case isFalse h =>
    have hlt : ¬ 128 ≤ tmp.toNat := fun hle => h (UInt8.le_iff_toNat_le.mpr hle)
    omega

theorem computeChecksum_eq (c : UInt8 × UInt8) (byte : UInt8) :
    computeChecksum c byte =
      if c.1 &&& 0x80 = 0 then (carried c.1 (byte ^^^ c.2), (byte ^^^ c.2) <<< 1)
      else (carried c.1 (byte ^^^ c.2) ^^^ 0x55, ((byte ^^^ c.2) <<< 1) ^^^ 0x5B) := rfl

/-- Without the feedback the two bytes give back the old ones, up to the top bit of the first. -/
theorem shift_injective {c1 c1' tmp tmp' : UInt8} (htop : c1 &&& 0x80 = 0 ↔ c1' &&& 0x80 = 0)
    (hfirst : carried c1 tmp = carried c1' tmp') (hsecond : tmp <<< 1 = tmp' <<< 1) :
    c1 = c1' ∧ tmp = tmp' := by
  obtain ⟨-, -, -, -, hc⟩ := shifted_toNat c1
  obtain ⟨-, -, -, -, hc'⟩ := shifted_toNat c1'
  obtain ⟨-, -, ht, -, -⟩ := shifted_toNat tmp
  obtain ⟨-, -, ht', -, -⟩ := shifted_toNat tmp'
  have hfirst := congrArg UInt8.toNat hfirst
  have hsecond := congrArg UInt8.toNat hsecond
  rw [carried_toNat, carried_toNat] at hfirst
  rw [ht, ht'] at hsecond
  rw [hc, hc'] at htop
  have := c1.toNat_lt
  have := c1'.toNat_lt
  have := tmp.toNat_lt
  have := tmp'.toNat_lt
  constructor <;> apply UInt8.toNat_inj.mp <;> omega

/-- One step loses nothing: the new pair determines the first byte and the mixed-in byte. -/
theorem step_injective {c c' : UInt8 × UInt8} {byte byte' : UInt8}
    (h : computeChecksum c byte = computeChecksum c' byte') :
    c.1 = c'.1 ∧ byte ^^^ c.2 = byte' ^^^ c'.2 := by
  rw [computeChecksum_eq, computeChecksum_eq] at h
  have low (t : UInt8) : (t <<< 1).toNat % 2 = 0 := by
    have := (shifted_toNat t).2.2.1
    omega
  have high (t : UInt8) : ((t <<< 1) ^^^ 0x5B).toNat % 2 = 1 := (shifted_toNat t).2.2.2.1
  -- the lowest bit of the second byte tells whether the feedback was applied
  split at h <;> split at h <;> obtain ⟨hfirst, hsecond⟩ := Prod.mk.inj h
  case isTrue.isTrue hc hc' => exact shift_injective (by simp [hc, hc']) hfirst hsecond
  case isTrue.isFalse =>
    have := low (byte ^^^ c.2)
    have := high (byte' ^^^ c'.2)
    rw [hsecond] at *
    omega
  case isFalse.isTrue =>
    have := high (byte ^^^ c.2)
    have := low (byte' ^^^ c'.2)
    rw [hsecond] at *
    omega
  case isFalse.isFalse hc hc' =>
    exact shift_injective (by simp [hc, hc']) ((UInt8.xor_left_inj _).mp hfirst)
      ((UInt8.xor_left_inj _).mp hsecond)

theorem computeChecksum_byte {c : UInt8 × UInt8} {byte byte' : UInt8}
    (h : computeChecksum c byte = computeChecksum c byte') : byte = byte' :=
  (UInt8.xor_left_inj _).mp (step_injective h).2

theorem computeChecksum_state {c c' : UInt8 × UInt8} {byte : UInt8}
    (h : computeChecksum c byte = computeChecksum c' byte) : c = c' :=
  Prod.ext (step_injective h).1 ((UInt8.xor_right_inj _).mp (step_injective h).2)

theorem checksum_state {c c' : UInt8 × UInt8} {span : List UInt8}
    (h : span.foldl computeChecksum c = span.foldl computeChecksum c') : c = c' := by
  induction span generalizing c c' with
  | nil => exact h
  | cons byte span ih => exact computeChecksum_state (ih h)

/-- One changed byte changes the checksum, whatever follows it. -/
theorem checksum_changed {pre post : List UInt8} {byte byte' : UInt8} (hne : byte ≠ byte')
    (c : UInt8 × UInt8) :
    (pre ++ byte :: post).foldl computeChecksum c ≠
      (pre ++ byte' :: post).foldl computeChecksum c := by
  intro h
  rw [List.foldl_append, List.foldl_append] at h
  exact hne (computeChecksum_byte (checksum_state h))

/-- Spans of one length that differ at exactly one position share what stands before and after. -/
theorem split_at_change {span span' : List UInt8} (hlength : span.length = span'.length)
    (hchange : ∃! i : ℕ, span[i]? ≠ span'[i]?) :
    ∃ pre byte byte' post, byte ≠ byte' ∧ span = pre ++ byte :: post ∧
      span' = pre ++ byte' :: post := by
  induction span generalizing span' with
  | nil =>
    obtain ⟨i, hi, -⟩ := hchange
    simp [List.length_eq_zero_iff.mp hlength.symm] at hi
  | cons byte span ih =>
    obtain _ | ⟨byte', span'⟩ := span'
    · simp at hlength
    obtain ⟨i, hi, hunique⟩ := hchange
    by_cases hhead : byte = byte'
    · subst hhead
      -- the change is further on
      obtain _ | i := i
      · exact absurd rfl hi
      obtain ⟨pre, b, b', post, hne, rfl, rfl⟩ := ih (by simpa using hlength)
        ⟨i, hi, fun j hj => by simpa using hunique (j + 1) hj⟩
      exact ⟨byte :: pre, b, b', post, hne, rfl, rfl⟩
    · refine ⟨[], byte, byte', span, hhead, rfl, ?_⟩
      have hzero : 0 = i := hunique 0 (by simpa using hhead)
      have htail : span = span' := by
        apply List.ext_getElem?
        intro j
        by_contra hj
        have := hunique (j + 1) hj
        omega
      rw [htail]
      rfl

theorem constructIvPrefix_changed {span span' : List UInt8} (hlength : span.length = span'.length)
    (hchange : ∃! i : ℕ, span[i]? ≠ span'[i]?) :
    constructIvPrefix span ≠ constructIvPrefix span' := by
  obtain ⟨pre, byte, byte', post, hne, rfl, rfl⟩ := split_at_change hlength hchange
  intro h
  obtain ⟨-, hchecksum⟩ := Vector.append_inj h
  have hpair : (pre ++ byte :: post).foldl computeChecksum (0, 0) =
      (pre ++ byte' :: post).foldl computeChecksum (0, 0) :=
    Prod.ext (congrArg (·[0]) hchecksum) (congrArg (·[1]) hchecksum)
  exact checksum_changed hne (0, 0) hpair

theorem aes128Encrypt_injective (key : Block) : Function.Injective (aes128Encrypt · key) :=
    fun block block' h => by
    have hback := congrArg (aes128Decrypt · key) h
    simpa only [decrypt_encrypt] using hback

/-- Spans that differ in one byte get different initialization vectors under every challenge and
every sequence, and so different authenticators before truncation, under every key. -/
theorem oneByte_separated (challenge : Challenge) (sequence : UInt16) (key : Block)
    (span span' : List UInt8) (hlength : span.length = span'.length)
    (hchange : ∃! i : ℕ, span[i]? ≠ span'[i]?) :
    (constructIv span challenge ≠ constructIv span' challenge ∧
        constructIv1wSequence span sequence ≠ constructIv1wSequence span' sequence) ∧
      aes128Encrypt (constructIv span challenge) key ≠
          aes128Encrypt (constructIv span' challenge) key ∧
        aes128Encrypt (constructIv1wSequence span sequence) key ≠
          aes128Encrypt (constructIv1wSequence span' sequence) key := by
  have hprefix := constructIvPrefix_changed hlength hchange
  have hiv : constructIv span challenge ≠ constructIv span' challenge :=
    fun h => hprefix (Vector.append_inj h).1
  have hiv1w : constructIv1wSequence span sequence ≠ constructIv1wSequence span' sequence :=
    fun h => hprefix (Vector.append_inj h).1
  exact ⟨⟨hiv, hiv1w⟩, (aes128Encrypt_injective key).ne hiv, (aes128Encrypt_injective key).ne hiv1w⟩

theorem oneByte_separated_ninth :
    constructIv [1, 2, 3, 4, 5, 6, 7, 8, 9] (Vector.replicate 6 0) ≠
      constructIv [1, 2, 3, 4, 5, 6, 7, 8, 10] (Vector.replicate 6 0) := by
  refine (oneByte_separated (Vector.replicate 6 0) 0 (Vector.replicate 16 0)
    [1, 2, 3, 4, 5, 6, 7, 8, 9] [1, 2, 3, 4, 5, 6, 7, 8, 10] rfl ⟨8, by decide, fun i hi => ?_⟩).1.1
  match i, hi with
  | 0, hi | 1, hi | 2, hi | 3, hi | 4, hi | 5, hi | 6, hi | 7, hi => exact absurd rfl hi
  | 8, _ => rfl
  | i + 9, hi => exact absurd rfl hi

end HomeIoControl.AuthenticatedSpans
