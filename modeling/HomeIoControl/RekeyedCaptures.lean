import HomeIoControl.RekeyedFrames

/-!
# What re-keying leaves of a capture

A rewriter goes through the frames in turn, and each finds the earlier ones as it has left them.
What it has signed keeps verifying as long as no later rewriter touches the frames of the
exchange.
-/

namespace HomeIoControl.RekeyedCaptures

open ProtocolFrames ProtocolCrypto CorpusFrames CorpusGate CorpusRekeying RekeyedFrames

theorem frameAt_set (frames : List RawFrame) (i j : ℕ) (f : RawFrame) (hi : i < frames.length) :
    frameAt (frames.set i f) j = if j = i then f else frameAt frames j := by
  simp only [frameAt, List.getD_eq_getElem?_getD, List.getElem?_set]
  by_cases hij : i = j
  · subst hij
    simp [hi]
  · rw [if_neg hij, if_neg (Ne.symm hij)]

theorem frameAt_out {frames : List RawFrame} {i : ℕ} (h : frames.length ≤ i) :
    frameAt frames i = ⟨"", []⟩ := by
  rw [frameAt, List.getD_eq_default _ _ h]

/-- The frames while the loop is at `i`: those before are rewritten, the others are not yet. -/
def midway (done todo : ℕ → RawFrame) (i : ℕ) : ℕ → RawFrame :=
  fun j => if j < i then done j else todo j

theorem midway_of_lt {done todo : ℕ → RawFrame} {i j : ℕ} (h : j < i) :
    midway done todo i j = done j := if_pos h

theorem midway_self (done todo : ℕ → RawFrame) (i : ℕ) : midway done todo i i = todo i :=
  if_neg (Nat.lt_irrefl i)

section

variable {rewrite : (ℕ → RawFrame) → ℕ → Option RawFrame} {frames result : List RawFrame}

private theorem rewriteLoop_spec (n : ℕ) (hn : n ≤ frames.length)
    (h : (List.range n).foldlM (fun current i => do
      let f ← rewrite (frameAt current) i
      some (current.set i f)) frames = some result) :
    result.length = frames.length ∧ (∀ j, n ≤ j → frameAt result j = frameAt frames j) ∧
      ∀ i, i < n → rewrite (midway (frameAt result) (frameAt frames) i) i =
        some (frameAt result i) := by
  induction n generalizing result with
  | zero =>
    obtain rfl : frames = result := Option.some.inj h
    exact ⟨rfl, fun _ _ => rfl, fun i hi => absurd hi (Nat.not_lt_zero i)⟩
  | succ n ih =>
    rw [List.range_succ, List.foldlM_append] at h
    obtain ⟨current, hcurrent, hstep⟩ := Option.bind_eq_some_iff.mp h
    obtain ⟨hlength, hrest, hdone⟩ := ih (Nat.le_of_succ_le hn) hcurrent
    simp only [List.foldlM_cons, List.foldlM_nil, Option.pure_def, Option.bind_eq_bind] at hstep
    obtain ⟨f, hf, hset⟩ := Option.bind_eq_some_iff.mp (by simpa using hstep)
    have hn' : n < current.length := by omega
    obtain rfl : current.set n f = result := by simpa using hset
    have hat : ∀ j, frameAt (current.set n f) j = if j = n then f else frameAt current j :=
      fun j => frameAt_set current n j f hn'
    refine ⟨by rw [List.length_set, hlength], ?_, ?_⟩
    · intro j hj
      rw [hat, if_neg (by omega)]
      exact hrest j (by omega)
    · intro i hi
      have hmid : midway (frameAt (current.set n f)) (frameAt frames) i =
          midway (frameAt current) (frameAt frames) i := by
        funext j
        unfold midway
        by_cases hj : j < i
        · rw [if_pos hj, if_pos hj, hat, if_neg (by omega)]
        · rw [if_neg hj, if_neg hj]
      rw [hmid, hat]
      rcases Nat.lt_succ_iff_lt_or_eq.mp hi with hlt | rfl
      · rw [if_neg (by omega)]
        exact hdone i hlt
      · have hcurrent' : midway (frameAt current) (frameAt frames) i = frameAt current := by
          funext j
          unfold midway
          split_ifs with hj
          · rfl
          · exact (hrest j (by omega)).symm
        rw [hcurrent', if_pos rfl]
        exact hf

/-- A rewriter that does not raise has rewritten every frame, from what the earlier ones had
become. -/
theorem rewriteAll_spec (h : rewriteAll rewrite frames = some result) :
    result.length = frames.length ∧
      ∀ i, i < frames.length → rewrite (midway (frameAt result) (frameAt frames) i) i =
        some (frameAt result i) := by
  obtain ⟨hlength, -, hdone⟩ := rewriteLoop_spec frames.length (Nat.le_refl _) h
  exact ⟨hlength, hdone⟩

/-- A rewriter that has nothing to do leaves the frames. -/
theorem rewriteAll_of_idle
    (h : ∀ i, i < frames.length → rewrite (frameAt frames) i = some (frameAt frames i)) :
    rewriteAll rewrite frames = some frames := by
  have hloop : ∀ n, n ≤ frames.length → (List.range n).foldlM (fun current i => do
      let f ← rewrite (frameAt current) i
      some (current.set i f)) frames = some frames := by
    intro n hn
    induction n with
    | zero => rfl
    | succ n ih =>
      have hset : frames.set n (frameAt frames n) = frames := by
        rw [frameAt, List.getD_eq_getElem _ _ (by omega), List.set_getElem_self]
      rw [List.range_succ, List.foldlM_append, ih (by omega)]
      simp [h n (by omega), hset]
  exact hloop frames.length (Nat.le_refl _)

end

section

variable {α β : Type}

/-- The shape of both searches: the nearest element of one kind, and before it the nearest of
another. -/
def searchTwice (first second : α → Bool) : Option α → List α → Option (α × α)
  | _, [] => none
  | none, a :: earlier =>
    if first a then searchTwice first second (some a) earlier
    else searchTwice first second none earlier
  | some found, a :: earlier =>
    if second a then some (a, found) else searchTwice first second (some found) earlier

theorem searchTwice_found {first second : α → Bool} {found : Option α} {as : List α} {a b : α}
    (h : searchTwice first second found as = some (a, b)) :
    (a ∈ as ∧ second a = true) ∧ (found = some b ∨ b ∈ as ∧ first b = true) := by
  induction as generalizing found with
  | nil => cases found <;> cases h
  | cons x as ih =>
    have hrest : ∀ {found : Option α}, searchTwice first second found as = some (a, b) →
        (a ∈ x :: as ∧ second a = true) ∧
          (found = some b ∨ b ∈ x :: as ∧ first b = true) := by
      intro found h
      obtain ⟨ha, hb⟩ := ih h
      exact ⟨⟨List.mem_cons_of_mem _ ha.1, ha.2⟩,
        hb.imp_right fun hb => ⟨List.mem_cons_of_mem _ hb.1, hb.2⟩⟩
    cases found with
    | none =>
      rw [searchTwice] at h
      split_ifs at h with hfirst
      · obtain ⟨ha, hb⟩ := hrest h
        refine ⟨ha, .inr ?_⟩
        rcases hb with hb | hb
        · obtain rfl := Option.some.inj hb
          exact ⟨List.mem_cons_self, hfirst⟩
        · exact hb
      · exact hrest h
    | some found =>
      rw [searchTwice] at h
      split_ifs at h with hsecond
      · obtain ⟨rfl, rfl⟩ := Prod.mk.inj (Option.some.inj h)
        exact ⟨⟨List.mem_cons_self, hsecond⟩, .inl rfl⟩
      · exact hrest h

theorem searchTwice_map (first second : β → Bool) (g : α → β) (found : Option α) (as : List α) :
    searchTwice first second (found.map g) (as.map g) =
      (searchTwice (first ∘ g) (second ∘ g) found as).map (Prod.map g g) := by
  induction as generalizing found with
  | nil => cases found <;> rfl
  | cons a as ih =>
    cases found with
    | none =>
      have hsome := ih (some a)
      have hnone := ih none
      simp only [Option.map_some, Option.map_none] at hsome hnone
      simp only [List.map_cons, Option.map_none, searchTwice, hsome, hnone, Function.comp_apply]
      split_ifs <;> rfl
    | some found =>
      have hrest := ih (some found)
      simp only [Option.map_some] at hrest
      simp only [List.map_cons, Option.map_some, searchTwice, hrest, Function.comp_apply]
      split_ifs <;> rfl

end

/-- A frame with a command in one direction. -/
def commandIn (direction : String) (f : RawFrame) : Bool :=
  f.cmd ≠ none ∧ f.direction = direction

def isIn (direction : String) (cmd : UInt8) (f : RawFrame) : Bool := f.Is direction cmd

theorem searchOrigin_eq (responderDir challengerDir : String) (challenge : Option RawFrame)
    (earlier : List RawFrame) :
    searchOrigin responderDir challengerDir challenge earlier =
      searchTwice (isIn challengerDir cmdChallengeReq) (commandIn responderDir) challenge
        earlier := by
  induction earlier generalizing challenge with
  | nil => cases challenge <;> rfl
  | cons f earlier ih =>
    cases hcmd : f.cmd <;> cases challenge <;>
      simp [searchOrigin, searchTwice, isIn, commandIn, RawFrame.Is, hcmd, ih]

theorem searchKeyInit_eq (challenge : Option RawFrame) (earlier : List RawFrame) :
    searchKeyInit challenge earlier =
      searchTwice (isIn "rx" cmdChallengeReq) (isIn "tx" cmdKeyInit) challenge earlier := by
  induction earlier generalizing challenge with
  | nil => cases challenge <;> rfl
  | cons f earlier ih =>
    cases hcmd : f.cmd <;> cases challenge <;>
      simp [searchKeyInit, searchTwice, isIn, RawFrame.Is, hcmd, ih]

section

variable {view view' : ℕ → RawFrame}

theorem searchOriginAt_eq (responderDir challengerDir : String) (challenge : Option ℕ)
    (js : List ℕ) :
    searchOriginAt view responderDir challengerDir challenge js =
      searchTwice (isIn challengerDir cmdChallengeReq ∘ view) (commandIn responderDir ∘ view)
        challenge js := by
  induction js generalizing challenge with
  | nil => cases challenge <;> rfl
  | cons j js ih =>
    cases hcmd : (view j).cmd <;> cases challenge <;>
      simp [searchOriginAt, searchTwice, isIn, commandIn, RawFrame.Is, hcmd, ih]

theorem searchKeyInitAt_eq (challenge : Option ℕ) (js : List ℕ) :
    searchKeyInitAt view challenge js =
      searchTwice (isIn "rx" cmdChallengeReq ∘ view) (isIn "tx" cmdKeyInit ∘ view) challenge
        js := by
  induction js generalizing challenge with
  | nil => cases challenge <;> rfl
  | cons j js ih =>
    cases hcmd : (view j).cmd <;> cases challenge <;>
      simp [searchKeyInitAt, searchTwice, isIn, RawFrame.Is, hcmd, ih]

/-- The same directions, commands and lengths at every position. -/
def Alike (view view' : ℕ → RawFrame) : Prop :=
  ∀ j, (view' j).direction = (view j).direction ∧ (view' j).cmd = (view j).cmd ∧
    (view' j).payload.length = (view j).payload.length

namespace Alike

theorem trans {view'' : ℕ → RawFrame} (h : Alike view view') (h' : Alike view' view'') :
    Alike view view'' :=
  fun j => ⟨(h' j).1.trans (h j).1, (h' j).2.1.trans (h j).2.1, (h' j).2.2.trans (h j).2.2⟩

theorem isIn (h : Alike view view') (direction : String) (cmd : UInt8) :
    RekeyedCaptures.isIn direction cmd ∘ view' = RekeyedCaptures.isIn direction cmd ∘ view := by
  funext j
  exact decide_eq_decide.mpr (by rw [RawFrame.Is, RawFrame.Is, (h j).1, (h j).2.1])

theorem challengeResponseAt (h : Alike view view') (i : ℕ) :
    CorpusRekeying.challengeResponseAt view' i = CorpusRekeying.challengeResponseAt view i := by
  have hcommandIn : commandIn (view i).direction ∘ view' = commandIn (view i).direction ∘ view := by
    funext j
    simp only [Function.comp_apply, commandIn, (h j).1, (h j).2.1]
  simp only [CorpusRekeying.challengeResponseAt, (h i).1, (h i).2.1, searchOriginAt_eq, h.isIn,
    hcommandIn]

theorem keyTransferAt (h : Alike view view') (i : ℕ) :
    CorpusRekeying.keyTransferAt view' i = CorpusRekeying.keyTransferAt view i := by
  simp only [CorpusRekeying.keyTransferAt, (h i).1, (h i).2.1, searchKeyInitAt_eq, h.isIn]

theorem isSelfAuthenticated (h : Alike view view') (i : ℕ) :
    CorpusRekeying.isSelfAuthenticated (view' i) =
      CorpusRekeying.isSelfAuthenticated (view i) := by
  simp only [CorpusRekeying.isSelfAuthenticated, (h i).2.1, (h i).2.2]

end Alike

theorem mem_before {i j : ℕ} : j ∈ before i ↔ j < i := by simp [before]

theorem cmd_of_isIn {direction : String} {cmd : UInt8} {f : RawFrame}
    (h : isIn direction cmd f = true) : f.cmd = some cmd := (of_decide_eq_true h).2

/-- A response, with its origin and its challenge before it. -/
theorem challengeResponseAt_found {i o c : ℕ} (h : challengeResponseAt view i = some (o, c)) :
    (view i).cmd = some cmdChallengeResp ∧ o < i ∧ c < i ∧
      (view c).cmd = some cmdChallengeReq := by
  unfold challengeResponseAt at h
  split_ifs at h with hcmd
  rw [not_not] at hcmd
  rw [searchOriginAt_eq] at h
  obtain ⟨ho, hc⟩ := searchTwice_found h
  obtain ⟨hc, hchallenge⟩ := hc.resolve_left (by simp)
  exact ⟨hcmd, mem_before.mp ho.1, mem_before.mp hc, cmd_of_isIn hchallenge⟩

/-- A key transfer, with its key init and its challenge before it. -/
theorem keyTransferAt_found {i k c : ℕ} (h : keyTransferAt view i = some (k, c)) :
    (view i).cmd = some cmdKeyTransfer ∧ (k < i ∧ (view k).cmd = some cmdKeyInit) ∧ c < i ∧
      (view c).cmd = some cmdChallengeReq := by
  unfold keyTransferAt at h
  split_ifs at h with hcmd
  rw [not_or, not_not, not_not] at hcmd
  rw [searchKeyInitAt_eq] at h
  obtain ⟨hk, hc⟩ := searchTwice_found h
  obtain ⟨hc, hchallenge⟩ := hc.resolve_left (by simp)
  exact ⟨hcmd.2, ⟨mem_before.mp hk.1, cmd_of_isIn hk.2⟩, mem_before.mp hc, cmd_of_isIn hchallenge⟩

end

section

variable {aes : BlockCipher} {frames frames' : List RawFrame}

/-- Some of the frames are re-keyed, and the others stay. -/
structure Pass (rewritten : ℕ → Prop) (frames frames' : List RawFrame) : Prop where
  length : frames'.length = frames.length
  rekeyed : ∀ i, Rekeyed (frameAt frames i) (frameAt frames' i)
  untouched : ∀ i, ¬ rewritten i → frameAt frames' i = frameAt frames i

theorem Pass.alike {rewritten : ℕ → Prop} (h : Pass rewritten frames frames')
    (hwhole : ∀ i, Whole (frameAt frames i)) : Alike (frameAt frames) (frameAt frames') :=
  fun i => ⟨(h.rekeyed i).direction, (h.rekeyed i).cmd (hwhole i), (h.rekeyed i).payloadLength⟩

theorem Pass.whole {rewritten : ℕ → Prop} (h : Pass rewritten frames frames')
    (hwhole : ∀ i, Whole (frameAt frames i)) (i : ℕ) : Whole (frameAt frames' i) :=
  (h.rekeyed i).whole (hwhole i)

/-- Beyond the last position there is nothing to rewrite. -/
theorem frameAt_beyond (hlength : frames'.length = frames.length) {i : ℕ}
    (hi : ¬ i < frames.length) : frameAt frames' i = frameAt frames i := by
  rw [frameAt_out (by omega), frameAt_out (by omega)]

theorem cmd_of_position {i : ℕ} {cmd : UInt8} (h : (frameAt frames i).cmd = some cmd) :
    i < frames.length := by
  by_contra hout
  rw [frameAt_out (by omega)] at h
  cases h

/-- A rewriter of exchanges, from what it does to the last frame of one. -/
private theorem rewriteFound_pass {found : ℕ → Option (ℕ × ℕ)}
    {rewrite : (ℕ → RawFrame) → ℕ → Option RawFrame}
    (verified : RawFrame → RawFrame → RawFrame → Prop)
    (hbefore : ∀ i o c, found i = some (o, c) → i < frames.length ∧ o < i ∧ c < i)
    (hidle : ∀ current i, found i = none → rewrite current i = some (current i))
    (hspec : ∀ current i o c f', found i = some (o, c) → current i = frameAt frames i →
      rewrite current i = some f' →
      Rekeyed (current i) f' ∧ verified (current o) (current c) f')
    (h : rewriteAll rewrite frames = some frames') :
    Pass (fun i => found i ≠ none) frames frames' ∧ ∀ i o c, found i = some (o, c) →
      verified (frameAt frames' o) (frameAt frames' c) (frameAt frames' i) := by
  obtain ⟨hlength, hstep⟩ := rewriteAll_spec h
  have huntouched : ∀ i, found i = none → frameAt frames' i = frameAt frames i := by
    intro i hnone
    by_cases hi : i < frames.length
    · have hstep := hstep i hi
      rw [hidle _ i hnone, midway_self] at hstep
      exact (Option.some.inj hstep).symm
    · exact frameAt_beyond hlength hi
  have hwrites : ∀ i o c, found i = some (o, c) → Rekeyed (frameAt frames i) (frameAt frames' i) ∧
      verified (frameAt frames' o) (frameAt frames' c) (frameAt frames' i) := by
    intro i o c hat
    obtain ⟨hi, ho, hc⟩ := hbefore i o c hat
    have hone := hspec _ i o c _ hat (midway_self _ _ _) (hstep i hi)
    rwa [midway_self, midway_of_lt ho, midway_of_lt hc] at hone
  refine ⟨⟨hlength, fun i => ?_, fun i hi => huntouched i (not_not.mp hi)⟩,
    fun i o c hat => (hwrites i o c hat).2⟩
  cases hat : found i with
  | none =>
    rw [huntouched i hat]
    exact .refl _
  | some at' => exact (hwrites i at'.1 at'.2 hat).1

theorem rekeyHmacFrames_pass {realKey : Block} (hwhole : ∀ i, Whole (frameAt frames i))
    (hlens : ∀ i o c, challengeResponseAt (frameAt frames) i = some (o, c) →
      (frameAt frames i).payload.length = hmacSize)
    (h : rekeyHmacFrames aes realKey frames = some frames') :
    Pass (fun i => challengeResponseAt (frameAt frames) i ≠ none) frames frames' ∧
      ∀ i o c, challengeResponseAt (frameAt frames) i = some (o, c) →
        checkChallengeResponse aes ⟨withoutCrc (frameAt frames' o), withoutCrc (frameAt frames' c),
          withoutCrc (frameAt frames' i)⟩ = .ok () := by
  refine rewriteFound_pass (fun o c i =>
    checkChallengeResponse aes ⟨withoutCrc o, withoutCrc c, withoutCrc i⟩ = .ok ()) ?_ ?_ ?_ h
  · intro i o c hat
    obtain ⟨hcmd, ho, hc, -⟩ := challengeResponseAt_found hat
    exact ⟨cmd_of_position hcmd, ho, hc⟩
  · intro current i hnone
    rw [rekeyResponse, hnone]
  · intro current i o c f' hat hcurrent hstep
    obtain ⟨hcmd, -⟩ := challengeResponseAt_found hat
    rw [← hcurrent] at hcmd
    exact rekeyResponse_spec hat hcmd (hcurrent ▸ hwhole i) (hcurrent ▸ hlens i o c hat) hstep

theorem rekeyKeyTransferFrames_pass {realKey : Block} (hwhole : ∀ i, Whole (frameAt frames i))
    (hlens : ∀ i k c, keyTransferAt (frameAt frames) i = some (k, c) →
      (frameAt frames i).payload.length = aesKeySize)
    (h : rekeyKeyTransferFrames aes realKey frames = some frames') :
    Pass (fun i => keyTransferAt (frameAt frames) i ≠ none) frames frames' ∧
      ∀ i k c, keyTransferAt (frameAt frames) i = some (k, c) →
        checkKeyTransfer aes ⟨withoutCrc (frameAt frames' k), withoutCrc (frameAt frames' c),
          withoutCrc (frameAt frames' i)⟩ = .ok () := by
  refine rewriteFound_pass (fun k c i =>
    checkKeyTransfer aes ⟨withoutCrc k, withoutCrc c, withoutCrc i⟩ = .ok ()) ?_ ?_ ?_ h
  · intro i k c hat
    obtain ⟨hcmd, hk, hc, -⟩ := keyTransferAt_found hat
    exact ⟨cmd_of_position hcmd, hk.1, hc⟩
  · intro current i hnone
    rw [rekeyTransfer, hnone]
  · intro current i k c f' hat hcurrent hstep
    obtain ⟨hcmd, -⟩ := keyTransferAt_found hat
    rw [← hcurrent] at hcmd
    exact rekeyTransfer_spec hat hcmd (hcurrent ▸ hwhole i) (hcurrent ▸ hlens i k c hat) hstep

/-- A rewriter of single frames, from what it does to one of them. -/
private theorem rewriteEach_pass {rewrite : RawFrame → Option RawFrame}
    (rewrites verified : RawFrame → Prop) (hwhole : ∀ i, Whole (frameAt frames i))
    (hspec : ∀ f f', Whole f → rewrite f = some f' →
      Rekeyed f f' ∧ (¬ rewrites f → f' = f) ∧ (rewrites f → verified f'))
    (hcmd : ∀ f, rewrites f → f.cmd ≠ none)
    (h : rewriteAll (fun current i => rewrite (current i)) frames = some frames') :
    Pass (fun i => rewrites (frameAt frames i)) frames frames' ∧
      ∀ i, rewrites (frameAt frames i) → verified (frameAt frames' i) := by
  obtain ⟨hlength, hstep⟩ := rewriteAll_spec h
  have hone : ∀ i, Rekeyed (frameAt frames i) (frameAt frames' i) ∧
      (¬ rewrites (frameAt frames i) → frameAt frames' i = frameAt frames i) ∧
      (rewrites (frameAt frames i) → verified (frameAt frames' i)) := by
    intro i
    by_cases hi : i < frames.length
    · have hrun := hstep i hi
      simp only [midway_self] at hrun
      exact hspec _ _ (hwhole i) hrun
    · rw [frameAt_beyond hlength hi]
      refine ⟨.refl _, fun _ => rfl, fun hrewrites => ?_⟩
      have hnone := hcmd _ hrewrites
      rw [frameAt_out (by omega)] at hnone
      exact absurd rfl hnone
  exact ⟨⟨hlength, fun i => (hone i).1, fun i => (hone i).2.1⟩, fun i => (hone i).2.2⟩

section

variable (hwhole : ∀ i, Whole (frameAt frames i))

include hwhole

theorem rekeySelfAuthenticatedFrames_pass {realKey : Block}
    (h : rekeySelfAuthenticatedFrames aes realKey frames = some frames') :
    Pass (fun i => isSelfAuthenticated (frameAt frames i) = true) frames frames' ∧
      ∀ i, isSelfAuthenticated (frameAt frames i) = true →
        checkSelfAuthenticated aes (withoutCrc (frameAt frames' i)) = .ok () := by
  refine rewriteEach_pass (fun f => isSelfAuthenticated f = true)
    (fun f => checkSelfAuthenticated aes (withoutCrc f) = .ok ()) hwhole ?_ ?_ h
  · intro f f' hf hstep
    obtain ⟨hrekeyed, hidle, hverified⟩ := rekeySelfAuthenticated_spec hf hstep
    exact ⟨hrekeyed, fun hne => hidle (Bool.not_eq_true _ ▸ hne), hverified⟩
  · intro f hself
    rw [(isSelfAuthenticated_iff.mp hself).1]
    simp

theorem rekeyOnewayAddControllerFrames_pass {realKey : Block}
    (h : rekeyOnewayAddControllerFrames aes realKey frames = some frames') :
    Pass (fun i => (frameAt frames i).cmd = some cmdOnewayAddController) frames frames' ∧
      ∀ i, (frameAt frames i).cmd = some cmdOnewayAddController →
        EnrollsCorpusKey aes (frameAt frames' i) :=
  rewriteEach_pass (fun f => f.cmd = some cmdOnewayAddController)
    (EnrollsCorpusKey aes) hwhole (fun _ _ => rekeyAddController_spec)
    (fun f hcmd => by simp [hcmd]) h

theorem rekeyOnewayRemoveControllerFrames_pass {realKey : Block}
    (h : rekeyOnewayRemoveControllerFrames aes realKey frames = some frames') :
    Pass (fun i => (frameAt frames i).cmd = some cmdOnewayRemove) frames frames' ∧
      ∀ i, (frameAt frames i).cmd = some cmdOnewayRemove →
        checkRemoveControllerMac aes (withoutCrc (frameAt frames' i)) = .ok () :=
  rewriteEach_pass (fun f => f.cmd = some cmdOnewayRemove)
    (fun f => checkRemoveControllerMac aes (withoutCrc f) = .ok ()) hwhole
    (fun _ _ => rekeyRemoveController_spec) (fun f hcmd => by simp [hcmd]) h

end

end

/-- The frames that a rewriter after the first one touches. -/
def RewrittenLater (view : ℕ → RawFrame) (i : ℕ) : Prop :=
  isSelfAuthenticated (view i) = true ∨ keyTransferAt view i ≠ none ∨
    (view i).cmd = some cmdOnewayAddController ∨ (view i).cmd = some cmdOnewayRemove

def Rewritten (view : ℕ → RawFrame) (i : ℕ) : Prop :=
  challengeResponseAt view i ≠ none ∨ RewrittenLater view i

/-- Everything that depends on a key was made under the corpus key. -/
structure Verified (aes : BlockCipher) (view : ℕ → RawFrame) : Prop where
  responses : ∀ i o c, challengeResponseAt view i = some (o, c) →
    checkChallengeResponse aes ⟨withoutCrc (view o), withoutCrc (view c), withoutCrc (view i)⟩ =
      .ok ()
  selfAuthenticated : ∀ i, isSelfAuthenticated (view i) = true →
    checkSelfAuthenticated aes (withoutCrc (view i)) = .ok ()
  transfers : ∀ i k c, keyTransferAt view i = some (k, c) →
    checkKeyTransfer aes ⟨withoutCrc (view k), withoutCrc (view c), withoutCrc (view i)⟩ = .ok ()
  enrollments : ∀ i, (view i).cmd = some cmdOnewayAddController → EnrollsCorpusKey aes (view i)
  removals : ∀ i, (view i).cmd = some cmdOnewayRemove →
    checkRemoveControllerMac aes (withoutCrc (view i)) = .ok ()

/-- When the rewriters do not get into each other's way: every command is a byte of its frame's
own, the payloads they write are as long as the ones they find, and no frame that a response
signs is rewritten after the response. -/
structure SignsCleanly (frames : List RawFrame) : Prop where
  whole : ∀ f ∈ frames, Whole f
  responses : ∀ i o c, challengeResponseAt (frameAt frames) i = some (o, c) →
    (frameAt frames i).payload.length = hmacSize
  transfers : ∀ i k c, keyTransferAt (frameAt frames) i = some (k, c) →
    (frameAt frames i).payload.length = aesKeySize
  origins : ∀ i o c, challengeResponseAt (frameAt frames) i = some (o, c) →
    ¬ RewrittenLater (frameAt frames) o

theorem frameAt_mem {frames : List RawFrame} {i : ℕ} (h : i < frames.length) :
    frameAt frames i ∈ frames := by
  rw [frameAt, List.getD_eq_getElem _ _ h]
  exact List.getElem_mem h

theorem SignsCleanly.whole_at {frames : List RawFrame} (h : SignsCleanly frames) (i : ℕ) :
    Whole (frameAt frames i) := by
  by_cases hi : i < frames.length
  · exact h.whole _ (frameAt_mem hi)
  · rw [frameAt_out (Nat.le_of_not_lt hi)]
    exact fun hcmd => absurd rfl hcmd

theorem RewrittenLater.cmd {view : ℕ → RawFrame} {i : ℕ} (h : RewrittenLater view i) :
    ∃ cmd ∈ [cmdDiscoverSpeReq, cmdKeyTransfer, cmdOnewayAddController, cmdOnewayRemove],
      (view i).cmd = some cmd := by
  rcases h with hself | htransfer | hadd | hremove
  · exact ⟨_, by simp, (isSelfAuthenticated_iff.mp hself).1⟩
  · obtain ⟨found, hfound⟩ := Option.ne_none_iff_exists'.mp htransfer
    exact ⟨_, by simp, (keyTransferAt_found hfound).1⟩
  · exact ⟨_, by simp, hadd⟩
  · exact ⟨_, by simp, hremove⟩

/-- Challenges, responses and key inits are left by all rewriters after the first. -/
theorem not_rewrittenLater {view : ℕ → RawFrame} {i : ℕ} {cmd : UInt8}
    (hcmd : (view i).cmd = some cmd)
    (hother : cmd ∉ [cmdDiscoverSpeReq, cmdKeyTransfer, cmdOnewayAddController, cmdOnewayRemove]) :
    ¬ RewrittenLater view i := by
  intro h
  obtain ⟨cmd', hmem, hcmd'⟩ := h.cmd
  rw [hcmd] at hcmd'
  exact hother (Option.some.inj hcmd' ▸ hmem)

section

variable {aes : BlockCipher} {realKey : Block} {frames frames' rekeyed : List RawFrame}

theorem Pass.trans {r r' : ℕ → Prop} (h : Pass r frames frames') (h' : Pass r' frames' rekeyed)
    (hwhole : ∀ i, Whole (frameAt frames i)) : Pass (fun i => r i ∨ r' i) frames rekeyed where
  length := h'.length.trans h.length
  rekeyed i := (h.rekeyed i).trans (h'.rekeyed i) (hwhole i)
  untouched i hi := by
    rw [not_or] at hi
    rw [h'.untouched i hi.2, h.untouched i hi.1]

theorem Pass.addresses {rewritten : ℕ → Prop} (h : Pass rewritten frames rekeyed)
    (hsigns : SignsCleanly frames) {i : ℕ}
    (hlong : frameMinSize ≤ (frameAt frames i).raw.length) :
    dstOf (frameAt rekeyed i).raw = dstOf (frameAt frames i).raw ∧
      srcOf (frameAt rekeyed i).raw = srcOf (frameAt frames i).raw :=
  (h.rekeyed i).addresses ((hsigns.whole_at i).long hlong)

/-- Where there is nothing of the kind the three rewriters would have changed nothing. -/
theorem rekey2w_run
    (h : (if has2wCrypto frames then rekey2w aes realKey frames else some frames) = some rekeyed) :
    ∃ f₁ f₂, rekeyHmacFrames aes realKey frames = some f₁ ∧
      rekeySelfAuthenticatedFrames aes realKey f₁ = some f₂ ∧
      rekeyKeyTransferFrames aes realKey f₂ = some rekeyed := by
  split_ifs at h with hcrypto
  · obtain ⟨f₁, hf₁, h⟩ := Option.bind_eq_some_iff.mp h
    obtain ⟨f₂, hf₂, h⟩ := Option.bind_eq_some_iff.mp h
    exact ⟨f₁, f₂, hf₁, hf₂, h⟩
  · obtain rfl := Option.some.inj h
    have hnone : ∀ i, i < frames.length → keyTransferAt (frameAt frames) i = none ∧
        challengeResponseAt (frameAt frames) i = none ∧
        isSelfAuthenticated (frameAt frames i) = false := by
      intro i hi
      rw [has2wCrypto, Bool.not_eq_true, List.any_eq_false] at hcrypto
      simpa [and_assoc] using hcrypto i (List.mem_range.mpr hi)
    refine ⟨frames, frames, rewriteAll_of_idle fun i hi => ?_, rewriteAll_of_idle fun i hi => ?_,
      rewriteAll_of_idle fun i hi => ?_⟩
    · rw [rekeyResponse, (hnone i hi).2.1]
    · rw [rekeySelfAuthenticated, if_pos (hnone i hi).2.2]
    · rw [rekeyTransfer, (hnone i hi).1]

theorem rekeyOneway_run (halike : Alike (frameAt frames) (frameAt frames'))
    (h : (if hasOneway frames then rekeyOneway aes realKey frames' else some frames') =
      some rekeyed) :
    ∃ f₄, rekeyOnewayAddControllerFrames aes realKey frames' = some f₄ ∧
      rekeyOnewayRemoveControllerFrames aes realKey f₄ = some rekeyed := by
  split_ifs at h with honeway
  · obtain ⟨f₄, hf₄, h⟩ := Option.bind_eq_some_iff.mp h
    exact ⟨f₄, hf₄, h⟩
  · obtain rfl := Option.some.inj h
    rw [hasOneway, Bool.not_eq_true, List.any_eq_false] at honeway
    have hnone : ∀ i, (frameAt frames' i).cmd ≠ some cmdOnewayAddController ∧
        (frameAt frames' i).cmd ≠ some cmdOnewayRemove := by
      intro i
      rw [(halike i).2.1]
      by_cases hi : i < frames.length
      · simpa using honeway _ (frameAt_mem hi)
      · rw [frameAt_out (Nat.le_of_not_lt hi)]
        exact ⟨by decide, by decide⟩
    refine ⟨frames', rewriteAll_of_idle fun i _ => ?_, rewriteAll_of_idle fun i _ => ?_⟩
    · rw [rekeyAddController, if_pos (hnone i).1]
    · rw [rekeyRemoveController, if_pos (hnone i).2]

/-- The frames after each of the rewriters, told by what they were at the start: what each has left
verified, and what the ones after it still touch. -/
structure Stages (aes : BlockCipher) (frames f₁ f₂ f₃ f₄ rekeyed : List RawFrame) : Prop where
  alike : Alike (frameAt frames) (frameAt rekeyed)
  all : Pass (Rewritten (frameAt frames)) frames rekeyed
  responses : ∀ i o c, challengeResponseAt (frameAt frames) i = some (o, c) →
    checkChallengeResponse aes ⟨withoutCrc (frameAt f₁ o), withoutCrc (frameAt f₁ c),
      withoutCrc (frameAt f₁ i)⟩ = .ok ()
  afterResponses : Pass (RewrittenLater (frameAt frames)) f₁ rekeyed
  selfAuthenticated : ∀ i, isSelfAuthenticated (frameAt frames i) = true →
    checkSelfAuthenticated aes (withoutCrc (frameAt f₂ i)) = .ok ()
  afterSelfAuthenticated : Pass (fun i => keyTransferAt (frameAt frames) i ≠ none ∨
    (frameAt frames i).cmd = some cmdOnewayAddController ∨
    (frameAt frames i).cmd = some cmdOnewayRemove) f₂ rekeyed
  transfers : ∀ i k c, keyTransferAt (frameAt frames) i = some (k, c) →
    checkKeyTransfer aes ⟨withoutCrc (frameAt f₃ k), withoutCrc (frameAt f₃ c),
      withoutCrc (frameAt f₃ i)⟩ = .ok ()
  afterTransfers : Pass (fun i => (frameAt frames i).cmd = some cmdOnewayAddController ∨
    (frameAt frames i).cmd = some cmdOnewayRemove) f₃ rekeyed
  enrollments : ∀ i, (frameAt frames i).cmd = some cmdOnewayAddController →
    EnrollsCorpusKey aes (frameAt f₄ i)
  afterEnrollments : Pass (fun i => (frameAt frames i).cmd = some cmdOnewayRemove) f₄ rekeyed
  removals : ∀ i, (frameAt frames i).cmd = some cmdOnewayRemove →
    checkRemoveControllerMac aes (withoutCrc (frameAt rekeyed i)) = .ok ()

theorem stages_of_run {realOnewayKey : Block} (hclean : SignsCleanly frames)
    (h2w : (if has2wCrypto frames then rekey2w aes realKey frames else some frames) = some frames')
    (honeway : (if hasOneway frames then rekeyOneway aes realOnewayKey frames' else some frames') =
      some rekeyed) :
    ∃ f₁ f₂ f₄, Stages aes frames f₁ f₂ frames' f₄ rekeyed := by
  obtain ⟨f₁, f₂, hrun₁, hrun₂, hrun₃⟩ := rekey2w_run h2w
  have hw := hclean.whole_at
  obtain ⟨hp₁, hresponses⟩ := rekeyHmacFrames_pass hw hclean.responses hrun₁
  have hw₁ := hp₁.whole hw
  have ha₁ := hp₁.alike hw
  obtain ⟨hp₂, hself⟩ := rekeySelfAuthenticatedFrames_pass hw₁ hrun₂
  have hw₂ := hp₂.whole hw₁
  have ha₂ := ha₁.trans (hp₂.alike hw₁)
  have hlens : ∀ i k c, keyTransferAt (frameAt f₂) i = some (k, c) →
      (frameAt f₂ i).payload.length = aesKeySize := by
    intro i k c hat
    rw [ha₂.keyTransferAt] at hat
    rw [(ha₂ i).2.2]
    exact hclean.transfers i k c hat
  obtain ⟨hp₃, htransfers⟩ := rekeyKeyTransferFrames_pass hw₂ hlens hrun₃
  have hw₃ := hp₃.whole hw₂
  have ha₃ := ha₂.trans (hp₃.alike hw₂)
  obtain ⟨f₄, hrun₄, hrun₅⟩ := rekeyOneway_run ha₃ honeway
  obtain ⟨hp₄, hadds⟩ := rekeyOnewayAddControllerFrames_pass hw₃ hrun₄
  have hw₄ := hp₄.whole hw₃
  have ha₄ := ha₃.trans (hp₄.alike hw₃)
  obtain ⟨hp₅, hremoves⟩ := rekeyOnewayRemoveControllerFrames_pass hw₄ hrun₅
  have ha₅ := ha₄.trans (hp₅.alike hw₄)
  simp only [ha₁.isSelfAuthenticated, ha₂.keyTransferAt, (ha₃ _).2.1, (ha₄ _).2.1] at *
  have hafter₃ := hp₄.trans hp₅ hw₃
  have hafter₂ := hp₃.trans hafter₃ hw₂
  have hafter₁ := hp₂.trans hafter₂ hw₁
  exact ⟨f₁, f₂, f₄, ha₅, hp₁.trans hafter₁ hw, hresponses, hafter₁, hself, hafter₂, htransfers,
    hafter₃, hadds, hp₅, hremoves⟩

namespace Stages

variable {f₁ f₂ f₃ f₄ : List RawFrame}

/-- A challenge and a response are not touched any more, nor is what the response signs. -/
theorem still_responses (h : Stages aes frames f₁ f₂ f₃ f₄ rekeyed) (hclean : SignsCleanly frames)
    {i o c : ℕ} (hat : challengeResponseAt (frameAt frames) i = some (o, c)) :
    checkChallengeResponse aes ⟨withoutCrc (frameAt rekeyed o), withoutCrc (frameAt rekeyed c),
      withoutCrc (frameAt rekeyed i)⟩ = .ok () := by
  obtain ⟨hcmd, -, -, hchallenge⟩ := challengeResponseAt_found hat
  rw [h.afterResponses.untouched o (hclean.origins i o c hat),
    h.afterResponses.untouched c (not_rewrittenLater hchallenge (by decide)),
    h.afterResponses.untouched i (not_rewrittenLater hcmd (by decide))]
  exact h.responses i o c hat

theorem still_selfAuthenticated (h : Stages aes frames f₁ f₂ f₃ f₄ rekeyed) {i : ℕ}
    (hat : isSelfAuthenticated (frameAt frames i) = true) :
    checkSelfAuthenticated aes (withoutCrc (frameAt rekeyed i)) = .ok () := by
  have hcmd := (isSelfAuthenticated_iff.mp hat).1
  rw [h.afterSelfAuthenticated.untouched i]
  · exact h.selfAuthenticated i hat
  · rintro (htransfer | honeway)
    · obtain ⟨found, hfound⟩ := Option.ne_none_iff_exists'.mp htransfer
      have htransfer := (keyTransferAt_found hfound).1
      rw [hcmd] at htransfer
      exact absurd (Option.some.inj htransfer) (by decide)
    · rw [hcmd] at honeway
      revert honeway
      decide

theorem still_transfers (h : Stages aes frames f₁ f₂ f₃ f₄ rekeyed) {i k c : ℕ}
    (hat : keyTransferAt (frameAt frames) i = some (k, c)) :
    checkKeyTransfer aes ⟨withoutCrc (frameAt rekeyed k), withoutCrc (frameAt rekeyed c),
      withoutCrc (frameAt rekeyed i)⟩ = .ok () := by
  obtain ⟨hcmd, ⟨-, hinit⟩, -, hchallenge⟩ := keyTransferAt_found hat
  have huntouched := h.afterTransfers.untouched
  rw [huntouched k (by rw [hinit]; decide), huntouched c (by rw [hchallenge]; decide),
    huntouched i (by rw [hcmd]; decide)]
  exact h.transfers i k c hat

/-- No rewriter undoes what an earlier one has left verified. -/
theorem verified (h : Stages aes frames f₁ f₂ f₃ f₄ rekeyed) (hclean : SignsCleanly frames) :
    Verified aes (frameAt rekeyed) where
  responses i o c hat := by
    rw [h.alike.challengeResponseAt] at hat
    exact h.still_responses hclean hat
  selfAuthenticated i hat := by
    rw [h.alike.isSelfAuthenticated] at hat
    exact h.still_selfAuthenticated hat
  transfers i k c hat := by
    rw [h.alike.keyTransferAt] at hat
    exact h.still_transfers hat
  enrollments i hcmd := by
    rw [(h.alike i).2.1] at hcmd
    rw [h.afterEnrollments.untouched i (by rw [hcmd]; decide)]
    exact h.enrollments i hcmd
  removals i hcmd := by
    rw [(h.alike i).2.1] at hcmd
    exact h.removals i hcmd

end Stages

/-- The rewriters, one after another, leave everything verifying under the corpus key. -/
theorem rewriters_verify {realOnewayKey : Block} (hclean : SignsCleanly frames)
    (h2w : (if has2wCrypto frames then rekey2w aes realKey frames else some frames) = some frames')
    (honeway : (if hasOneway frames then rekeyOneway aes realOnewayKey frames' else some frames') =
      some rekeyed) :
    Pass (Rewritten (frameAt frames)) frames rekeyed ∧ Verified aes (frameAt rekeyed) := by
  obtain ⟨f₁, f₂, f₄, hstages⟩ := stages_of_run hclean h2w honeway
  exact ⟨hstages.all, hstages.verified hclean⟩

end

end HomeIoControl.RekeyedCaptures
