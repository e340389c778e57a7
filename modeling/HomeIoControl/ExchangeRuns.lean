import Mathlib.Data.List.Count
import HomeIoControl.Exchanges

/-!
# What an exchange transmits and what it returns

The trace of one try, then of the whole retry loop, against any radio.
-/

namespace HomeIoControl.ExchangeRuns

open TracedPrograms ProtocolFrames ProtocolCrypto ProtocolCommands RadioLinks Exchanges

/-- The request is handed to the radio. -/
def isRequest : RadioEvent → Bool
  | .sent .exchangeRequest _ _ _ _ => true
  | _ => false

/-- The radio took an answer to a challenge. -/
def isAuthenticated : RadioEvent → Bool
  | .sent .exchangeAuth _ _ _ ok => ok
  | _ => false

/-- A wait accepted its packet as an answer, not as a challenge. -/
def isAnswer : RadioEvent → Bool
  | .heard .firstResponse (some frame) .accept => frame.cmd ≠ cmdChallengeReq
  | .heard .finalResponse (some _) .accept => true
  | _ => false

/-- A frame between the endpoints of the request that answers nothing, yet arrives where the
wait takes it for an answer: an unprompted status update, or after authentication a repeated
challenge. -/
def isMistakable (request : IoFrame) : RadioEvent → Bool
  | .heard .firstResponse (some frame) _ =>
    frameMatchesExchangeEndpoints request frame && frame.cmd = cmdStatusUpdate
  | .heard .finalResponse (some frame) _ =>
    frameMatchesExchangeEndpoints request frame &&
      (frame.cmd = cmdChallengeReq || frame.cmd = cmdStatusUpdate)
  | _ => false

/-- The request is not repeated once the radio took an answer to its challenge. -/
def NoRequestAfterAuth (es : List RadioEvent) : Prop :=
  es.Pairwise fun before after => isAuthenticated before = true → isRequest after = false

/-- Events that neither repeat the request nor answer it, or could be taken for an answer. -/
def Unanswered (request : IoFrame) (es : List RadioEvent) : Prop :=
  ∀ e ∈ es, isRequest e = false ∧ isAnswer e = false ∧ isMistakable request e = false

/-- Events that moreover authenticate nothing: packets that are not for this exchange. -/
def Quiet (request : IoFrame) (es : List RadioEvent) : Prop :=
  Unanswered request es ∧ ∀ e ∈ es, isAuthenticated e = false

theorem Unanswered.append {request : IoFrame} {es fs : List RadioEvent}
    (hes : Unanswered request es) (hfs : Unanswered request fs) :
    Unanswered request (es ++ fs) :=
  List.forall_mem_append.mpr ⟨hes, hfs⟩

theorem Quiet.append {request : IoFrame} {es fs : List RadioEvent}
    (hes : Quiet request es) (hfs : Quiet request fs) : Quiet request (es ++ fs) :=
  ⟨hes.1.append hfs.1, List.forall_mem_append.mpr ⟨hes.2, hfs.2⟩⟩

theorem quiet_nil (request : IoFrame) : Quiet request [] :=
  ⟨List.forall_mem_nil _, List.forall_mem_nil _⟩

/-- An accepted challenge is no answer. -/
theorem quiet_challenge {request challenge : IoFrame}
    (h : classifyExchangeFirstResponse request challenge = .requireAuth) :
    Quiet request [.heard .firstResponse (some challenge) .accept] := by
  have hcmd : challenge.cmd = cmdChallengeReq := by
    unfold classifyExchangeFirstResponse at h
    split_ifs at h with _ hcmd
    exact hcmd
  have hne : cmdChallengeReq ≠ cmdStatusUpdate := by decide
  constructor
  · intro e he
    rw [List.mem_singleton.mp he]
    simp [isRequest, isAnswer, isMistakable, hcmd, hne]
  · intro e he
    rw [List.mem_singleton.mp he]
    rfl

theorem unanswered_auth (request auth : IoFrame) (freq : UInt32) (preamble : UInt16)
    (ok : Bool) : Unanswered request [.sent .exchangeAuth auth freq preamble ok] := by
  intro e he
  rw [List.mem_singleton.mp he]
  exact ⟨rfl, rfl, rfl⟩

theorem quiet_failedAuth (request auth : IoFrame) (freq : UInt32) (preamble : UInt16) :
    Quiet request [.sent .exchangeAuth auth freq preamble false] := by
  refine ⟨unanswered_auth request auth freq preamble false, ?_⟩
  intro e he
  rw [List.mem_singleton.mp he]
  rfl

section

variable {σ : Type} {engine : ExchangeEngine σ} {request : IoFrame}

private theorem quiet_ignored (site : ListenSite) {ignored : List (Option IoFrame)}
    (h : ∀ frame, some frame ∈ ignored → frameMatchesExchangeEndpoints request frame = false) :
    Quiet request (ignoredEvents site ignored) := by
  constructor
  · intro e he
    obtain ⟨parsed, hparsed, rfl⟩ := List.mem_map.mp he
    cases parsed with
    | none => cases site <;> exact ⟨rfl, rfl, rfl⟩
    | some frame => cases site <;> simp [isRequest, isAnswer, isMistakable, h frame hparsed]
  · intro e he
    obtain ⟨parsed, hparsed, rfl⟩ := List.mem_map.mp he
    rfl

private theorem quiet_ignored_first {ignored : List (Option IoFrame)}
    (h : ∀ parsed ∈ ignored, Handles (firstResponseHandler request) parsed .ignore) :
    Quiet request (ignoredEvents .firstResponse ignored) := by
  refine quiet_ignored .firstResponse fun frame hframe => ?_
  obtain ⟨_, _, hdisp⟩ := h _ hframe
  by_contra hmatch
  rw [Bool.not_eq_false] at hmatch
  simp only [firstResponseHandler, classifyExchangeFirstResponse, hmatch] at hdisp
  split_ifs at hdisp <;> simp_all

private theorem quiet_ignored_final {ignored : List (Option IoFrame)}
    (h : ∀ parsed ∈ ignored, Handles (finalResponseHandler request) parsed .ignore) :
    Quiet request (ignoredEvents .finalResponse ignored) := by
  refine quiet_ignored .finalResponse fun frame hframe => ?_
  obtain ⟨_, _, hdisp⟩ := h _ hframe
  by_contra hmatch
  simp [finalResponseHandler, classifyExchangeFinalResponse, hmatch] at hdisp

private theorem firstResponseHandler_accepts {before captured : ExchangeFirstResponseDisposition}
    {parsed : Option IoFrame} {packet : RadioRxPacket}
    (h : firstResponseHandler request before parsed packet = (captured, .accept)) :
    ∃ frame, parsed = some frame ∧ captured = classifyExchangeFirstResponse request frame ∧
      captured ≠ .ignoreUnrelated := by
  cases parsed with
  | none => cases h
  | some frame =>
    simp only [firstResponseHandler] at h
    split_ifs at h with hdisp
    · cases h
    · obtain ⟨rfl, -⟩ := Prod.mk.inj h
      exact ⟨frame, rfl, rfl, hdisp⟩

private theorem finalResponseHandler_accepts {before captured : PUnit}
    {parsed : Option IoFrame} {packet : RadioRxPacket}
    (h : finalResponseHandler request before parsed packet = (captured, .accept)) :
    ∃ frame, parsed = some frame ∧ frameMatchesExchangeEndpoints request frame = true := by
  cases parsed with
  | none => cases h
  | some frame =>
    refine ⟨frame, rfl, ?_⟩
    by_contra hmatch
    simp [finalResponseHandler, classifyExchangeFinalResponse, hmatch] at h

private theorem firstResponseHandler_never_aborts
    {before captured : ExchangeFirstResponseDisposition} {parsed : Option IoFrame} {packet : RadioRxPacket} :
    firstResponseHandler request before parsed packet ≠ (captured, .abort) := by
  cases parsed with
  | none => simp [firstResponseHandler]
  | some frame =>
    simp only [firstResponseHandler]
    split_ifs <;> simp

private theorem finalResponseHandler_never_aborts {before captured : PUnit}
    {parsed : Option IoFrame} {packet : RadioRxPacket} :
    finalResponseHandler request before parsed packet ≠ (captured, .abort) := by
  cases parsed with
  | none => simp [finalResponseHandler]
  | some frame =>
    simp only [finalResponseHandler]
    split_ifs <;> simp

/-- The first wait ends quietly, or with the frame it returns, classified. -/
private theorem waitForFirstResponse_traces (waitMs : UInt32) (rx : IoFrame) :
    Traces (waitForFirstResponse engine request waitMs rx) fun r es =>
      r.1 = .ignoreUnrelated ∧ Quiet request es ∨
      ∃ quiet, es = quiet ++ [.heard .firstResponse (some r.2) .accept] ∧ Quiet request quiet ∧
        r.1 = classifyExchangeFirstResponse request r.2 ∧ r.1 ≠ .ignoreUnrelated := by
  apply Traces.bind (listen_traces _ rx _)
  intro listened es hes
  cases hes with
  | timedOut ignores =>
    apply Traces.pure
    rw [List.append_nil]
    exact .inl ⟨rfl, quiet_ignored_first ignores⟩
  | accepted ignores ends output =>
    apply Traces.pure
    rw [List.append_nil]
    obtain ⟨frame, rfl, hdisp, hne⟩ := firstResponseHandler_accepts ends
    rw [output frame rfl]
    exact .inr ⟨_, rfl, quiet_ignored_first ignores, hdisp, hne⟩
  | aborted _ ends => exact absurd ends firstResponseHandler_never_aborts

/-- The final wait ends quietly, or with the frame it returns. -/
private theorem waitForFinalResponse_traces (rx : IoFrame) :
    Traces (waitForFinalResponse engine request rx) fun r es =>
      r.1 = .ignoreUnrelated ∧ Quiet request es ∨
      r.1 = .accept ∧ ∃ quiet, es = quiet ++ [.heard .finalResponse (some r.2) .accept] ∧
        Quiet request quiet ∧ frameMatchesExchangeEndpoints request r.2 = true := by
  apply Traces.bind (listen_traces _ rx _)
  intro listened es hes
  cases hes with
  | timedOut ignores =>
    apply Traces.pure
    rw [List.append_nil]
    exact .inl ⟨rfl, quiet_ignored_final ignores⟩
  | accepted ignores ends output =>
    apply Traces.pure
    rw [List.append_nil]
    obtain ⟨frame, rfl, hmatch⟩ := finalResponseHandler_accepts ends
    rw [output frame rfl]
    exact .inr ⟨rfl, _, rfl, quiet_ignored_final ignores, hmatch⟩
  | aborted _ ends => exact absurd ends finalResponseHandler_never_aborts

private theorem handleAuthentication_traces (freq : UInt32) (rx : IoFrame) :
    Traces (handleAuthentication engine request freq rx) fun ok es =>
      es = [] ∧ ok = false ∨
        ∃ frame preamble, es = [.sent .exchangeAuth frame freq preamble ok] := by
  unfold handleAuthentication
  cases createChallengeResp request.dst engine.nodeId (payloadPrefix rx 6) request
      engine.systemKey with
  | none => exact Traces.pure (.inl ⟨rfl, rfl⟩)
  | some authResp =>
    apply (transmitFrame_traces .exchangeAuth authResp freq _).weaken
    rintro ok es (⟨rfl, rfl⟩ | rfl)
    · exact .inl ⟨rfl, rfl⟩
    · exact .inr ⟨_, _, rfl⟩

/-- What one try writes, by how it ended: the request first, and never again. -/
inductive TryTrace (request : IoFrame) : TryResult → List RadioEvent → Prop where
  | notSent {es : List RadioEvent}
      (sent : es = [] ∨ ∃ freq preamble,
        es = [.sent .exchangeRequest request freq preamble false]) :
      TryTrace request .notAnswered es
  | notAnswered {freq : UInt32} {preamble : UInt16} {rest : List RadioEvent}
      (quiet : Quiet request rest) :
      TryTrace request .notAnswered
        (.sent .exchangeRequest request freq preamble true :: rest)
  | unconfirmed {freq : UInt32} {preamble : UInt16} {rest : List RadioEvent}
      (unanswered : Unanswered request rest)
      (authenticated : ∃ e ∈ rest, isAuthenticated e = true) :
      TryTrace request .unconfirmed
        (.sent .exchangeRequest request freq preamble true :: rest)
  | answered {freq : UInt32} {preamble : UInt16} {rest : List RadioEvent} {frame : IoFrame}
      {site : ListenSite} (unanswered : Unanswered request rest)
      (answer : isAnswer (.heard site (some frame) .accept) = true)
      (endpoints : frameMatchesExchangeEndpoints request frame = true)
      (mistakable : isMistakable request (.heard site (some frame) .accept) = true ↔
        frame.cmd = cmdChallengeReq ∨ frame.cmd = cmdStatusUpdate) :
      TryTrace request (.answered frame)
        (.sent .exchangeRequest request freq preamble true ::
          (rest ++ [.heard site (some frame) .accept]))

private theorem direct_facts {frame : IoFrame}
    (h : classifyExchangeFirstResponse request frame = .completeDirect) :
    isAnswer (.heard .firstResponse (some frame) .accept) = true ∧
      frameMatchesExchangeEndpoints request frame = true ∧
      (isMistakable request (.heard .firstResponse (some frame) .accept) = true ↔
        frame.cmd = cmdChallengeReq ∨ frame.cmd = cmdStatusUpdate) := by
  unfold classifyExchangeFirstResponse at h
  split_ifs at h with hmatch hcmd
  rw [Bool.not_eq_false] at hmatch
  simp [isAnswer, isMistakable, hmatch, hcmd]

private theorem exchangeTry_traces (freq : UInt32) :
    Traces (exchangeTry engine request freq) (TryTrace request) := by
  apply Traces.bind (transmitFrame_traces .exchangeRequest request freq _)
  intro sent es hsent
  apply Traces.ite
  · intro hfalse
    apply Traces.pure
    rw [List.append_nil]
    rcases hsent with ⟨rfl, -⟩ | rfl
    · exact .notSent (.inl rfl)
    · rw [hfalse]
      exact .notSent (.inr ⟨_, _, rfl⟩)
  · intro htrue
    rw [Bool.not_eq_false] at htrue
    rcases hsent with ⟨-, hfalse⟩ | rfl
    · rw [htrue] at hfalse
      cases hfalse
    rw [htrue]
    apply Traces.bind (waitForFirstResponse_traces _ _)
    rintro ⟨disp, rx⟩ first (⟨rfl, hquiet⟩ | ⟨quiet, rfl, hquiet, hdisp, hne⟩)
    · apply Traces.pure
      rw [List.append_nil]
      exact .notAnswered hquiet
    · cases disp with
      | ignoreUnrelated => exact absurd rfl hne
      | completeDirect =>
        obtain ⟨hanswer, hendpoints, hmistakable⟩ := direct_facts hdisp.symm
        apply Traces.pure
        rw [List.append_nil]
        exact .answered hquiet.1 hanswer hendpoints hmistakable
      | requireAuth =>
        have hchallenged := hquiet.append (quiet_challenge hdisp.symm)
        apply Traces.bind (handleAuthentication_traces freq rx)
        intro ok auth hauth
        apply Traces.ite
        · intro hfalse
          apply Traces.pure
          rw [List.append_nil]
          rcases hauth with ⟨rfl, -⟩ | ⟨frame, preamble, rfl⟩
          · exact .notAnswered (hchallenged.append (quiet_nil request))
          · rw [hfalse]
            exact .notAnswered (hchallenged.append (quiet_failedAuth request frame freq preamble))
        · intro htrue
          rw [Bool.not_eq_false] at htrue
          rcases hauth with ⟨-, hfalse⟩ | ⟨frame, preamble, rfl⟩
          · rw [htrue] at hfalse
            cases hfalse
          rw [htrue]
          have hauth := unanswered_auth request frame freq preamble true
          apply Traces.bind (waitForFinalResponse_traces rx)
          rintro ⟨final, rx'⟩ fs (⟨rfl, hquiet'⟩ | ⟨rfl, quiet', rfl, hquiet', hmatch⟩)
          · apply Traces.pure
            rw [List.append_nil]
            exact .unconfirmed (hchallenged.1.append (hauth.append hquiet'.1))
              ⟨.sent .exchangeAuth frame freq preamble true, by simp, rfl⟩
          · apply Traces.pure
            rw [List.append_nil, ← List.append_assoc _ quiet', ← List.append_assoc _ _ [_]]
            exact .answered (hchallenged.1.append (hauth.append hquiet'.1)) rfl hmatch
              (by simp [isMistakable, hmatch])

/-- What the retry loop writes and returns, with the tries it may make and whether an earlier
try was authenticated. -/
structure ExchangeTrace (request response : IoFrame) (tries : ℕ) (authenticated : Bool)
    (r : ExchangeOutcome × IoFrame) (es : List RadioEvent) : Prop where
  requests : es.countP isRequest ≤ tries
  once : request.cmd = cmdExecute → NoRequestAfterAuth es
  unwritten : r.1 ≠ .successWithResponse → r.2 = response
  answered : r.1 = .successWithResponse ↔ ∃ e ∈ es, isAnswer e = true
  unconfirmed : r.1 = .successUnconfirmed ↔
    (authenticated = true ∨ ∃ e ∈ es, isAuthenticated e = true) ∧
      ∀ e ∈ es, isAnswer e = false
  mistaken : (∃ e ∈ es, isMistakable request e = true) ↔
    r.1 = .successWithResponse ∧ (r.2.cmd = cmdChallengeReq ∨ r.2.cmd = cmdStatusUpdate)
  reply : r.1 = .successWithResponse → ∃ site, .heard site (some r.2) .accept ∈ es ∧
    frameMatchesExchangeEndpoints request r.2 = true

namespace ExchangeTrace

variable {response : IoFrame} {tries : ℕ} {authenticated : Bool}

private theorem no_event {p : RadioEvent → Bool} {es : List RadioEvent}
    (h : ∀ e ∈ es, p e = false) : ¬ ∃ e ∈ es, p e = true := by
  rintro ⟨e, he, hp⟩
  rw [h e he] at hp
  cases hp

private theorem countP_eq_zero {p : RadioEvent → Bool} {es : List RadioEvent}
    (h : ∀ e ∈ es, p e = false) : es.countP p = 0 := by
  rw [List.countP_eq_zero]
  intro e he
  simp [h e he]

/-- No try is left, or no budget. -/
private theorem stopped :
    ExchangeTrace request response tries authenticated
      (unansweredOutcome authenticated, response) [] := by
  constructor
  · exact Nat.zero_le _
  · intro _
    exact List.Pairwise.nil
  · intro _
    rfl
  · cases authenticated <;> simp [unansweredOutcome]
  · cases authenticated <;> simp [unansweredOutcome]
  · cases authenticated <;> simp [unansweredOutcome]
  · cases authenticated <;> simp [unansweredOutcome]

/-- A try that goes unanswered, followed by the rest of the loop. -/
private theorem after_unanswered {first es : List RadioEvent} {authenticated' : Bool}
    {r : ExchangeOutcome × IoFrame} (requests : first.countP isRequest ≤ 1)
    (unanswered : ∀ e ∈ first, isAnswer e = false ∧ isMistakable request e = false)
    (auth : (authenticated = true ∨ ∃ e ∈ first, isAuthenticated e = true) ↔
      authenticated' = true)
    (once : request.cmd = cmdExecute → ∀ e ∈ first, isAuthenticated e = false)
    (rest : ExchangeTrace request response tries authenticated' r es) :
    ExchangeTrace request response (tries + 1) authenticated r (first ++ es) := by
  have hanswer : ¬ ∃ e ∈ first, isAnswer e = true := no_event fun e he => (unanswered e he).1
  have hmistakable : ¬ ∃ e ∈ first, isMistakable request e = true :=
    no_event fun e he => (unanswered e he).2
  have hor : ∀ p : RadioEvent → Bool, (∃ e ∈ first ++ es, p e = true) ↔
      (∃ e ∈ first, p e = true) ∨ ∃ e ∈ es, p e = true := by
    intro p
    simp only [List.mem_append, or_and_right, exists_or]
  constructor
  · rw [List.countP_append]
    have hrest := rest.requests
    omega
  · intro hexecute
    refine List.pairwise_append.mpr ⟨?_, rest.once hexecute, ?_⟩
    · apply List.pairwise_of_forall_mem_list
      intro before hbefore _ _ hauth
      exact absurd hauth (by simp [once hexecute before hbefore])
    · intro before hbefore _ _ hauth
      exact absurd hauth (by simp [once hexecute before hbefore])
  · exact rest.unwritten
  · rw [rest.answered, hor]
    exact (or_iff_right hanswer).symm
  · rw [rest.unconfirmed, ← auth, hor, or_assoc]
    refine and_congr_right fun _ => ?_
    rw [List.forall_mem_append]
    exact (and_iff_right fun e he => (unanswered e he).1).symm
  · rw [← rest.mistaken, hor]
    exact or_iff_right hmistakable
  · intro hsuccess
    obtain ⟨site, hmem, hendpoints⟩ := rest.reply hsuccess
    exact ⟨site, List.mem_append_right _ hmem, hendpoints⟩

/-- An authenticated, unanswered try of a request that must not be repeated. -/
private theorem stopped_unconfirmed {frame : IoFrame} {freq : UInt32} {preamble : UInt16}
    {rest : List RadioEvent} (unanswered : Unanswered request rest)
    (auth : ∃ e ∈ rest, isAuthenticated e = true) :
    ExchangeTrace request response (tries + 1) authenticated (.successUnconfirmed, response)
      (.sent .exchangeRequest frame freq preamble true :: rest) := by
  have hnoanswer : ¬ ∃ e ∈ rest, isAnswer e = true := no_event fun e he => (unanswered e he).2.1
  have hnomistakable : ¬ ∃ e ∈ rest, isMistakable request e = true :=
    no_event fun e he => (unanswered e he).2.2
  constructor
  · have hrest := countP_eq_zero fun e he => (unanswered e he).1
    rw [List.countP_cons, hrest]
    simp [isRequest]
  · intro _
    refine List.pairwise_cons.mpr ⟨fun _ _ h => absurd h Bool.false_ne_true, ?_⟩
    apply List.pairwise_of_forall_mem_list
    intro _ _ after hafter _
    exact (unanswered after hafter).1
  · intro _
    rfl
  · constructor
    · intro h
      cases h
    · rintro ⟨e, he, hanswer⟩
      rcases List.mem_cons.mp he with rfl | he
      · cases hanswer
      · exact absurd ⟨e, he, hanswer⟩ hnoanswer
  · obtain ⟨e, he, hauth⟩ := auth
    refine iff_of_true rfl ⟨.inr ⟨e, List.mem_cons_of_mem _ he, hauth⟩, ?_⟩
    exact List.forall_mem_cons.mpr ⟨rfl, fun e he => (unanswered e he).2.1⟩
  · constructor
    · rintro ⟨e, he, hmistakable⟩
      rcases List.mem_cons.mp he with rfl | he
      · cases hmistakable
      · exact absurd ⟨e, he, hmistakable⟩ hnomistakable
    · rintro ⟨h, -⟩
      cases h
  · intro h
    cases h

/-- An answered try. -/
private theorem stopped_answered {request' rx : IoFrame} {site : ListenSite} {freq : UInt32}
    {preamble : UInt16} {rest : List RadioEvent} (unanswered : Unanswered request rest)
    (answer : isAnswer (.heard site (some rx) .accept) = true)
    (endpoints : frameMatchesExchangeEndpoints request rx = true)
    (mistakable : isMistakable request (.heard site (some rx) .accept) = true ↔
      rx.cmd = cmdChallengeReq ∨ rx.cmd = cmdStatusUpdate) :
    ExchangeTrace request response (tries + 1) authenticated (.successWithResponse, rx)
      (.sent .exchangeRequest request' freq preamble true ::
        (rest ++ [.heard site (some rx) .accept])) := by
  have hnomistakable : ¬ ∃ e ∈ rest, isMistakable request e = true :=
    no_event fun e he => (unanswered e he).2.2
  constructor
  · have hrest := countP_eq_zero fun e he => (unanswered e he).1
    simp [List.countP_cons, List.countP_append, hrest, isRequest]
  · intro _
    refine List.pairwise_cons.mpr ⟨fun _ _ h => absurd h Bool.false_ne_true, ?_⟩
    apply List.pairwise_of_forall_mem_list
    intro _ _ after hafter _
    rcases List.mem_append.mp hafter with hafter | hafter
    · exact (unanswered after hafter).1
    · rw [List.mem_singleton.mp hafter]
      rfl
  · intro h
    exact absurd rfl h
  · refine ⟨fun _ => ⟨_, List.mem_cons_of_mem _ (List.mem_append_right _ (by simp)), answer⟩, ?_⟩
    intro _
    rfl
  · constructor
    · intro h
      cases h
    · rintro ⟨-, hnone⟩
      have hfalse := hnone (.heard site (some rx) .accept) (by simp)
      rw [answer] at hfalse
      cases hfalse
  · constructor
    · rintro ⟨e, he, hmistakable⟩
      refine ⟨rfl, mistakable.mp ?_⟩
      rcases List.mem_cons.mp he with rfl | he
      · cases hmistakable
      · rcases List.mem_append.mp he with he | he
        · exact absurd ⟨e, he, hmistakable⟩ hnomistakable
        · rwa [List.mem_singleton.mp he] at hmistakable
    · rintro ⟨-, hcmd⟩
      exact ⟨.heard site (some rx) .accept, by simp, mistakable.mpr hcmd⟩
  · intro _
    exact ⟨site, by simp, endpoints⟩

end ExchangeTrace

private theorem mayStartTry_traces (exchangeBeginMs : UInt32) (tries : ℕ) :
    Traces (mayStartTry engine exchangeBeginMs tries) fun _ es => es = [] := by
  apply Traces.ite
  · intro _
    exact Traces.pure rfl
  · intro _
    apply Traces.ask_bind
    intro now
    apply Traces.ite
    · intro _
      exact Traces.pure rfl
    · intro _
      apply Traces.ask_bind
      intro _
      exact Traces.pure rfl

private theorem retryLoop_traces (response : IoFrame) (freq exchangeBeginMs : UInt32)
    (remaining tries : ℕ) (authenticated : Bool) :
    Traces (retryLoop engine request freq exchangeBeginMs response remaining tries authenticated)
      (ExchangeTrace request response remaining authenticated) := by
  induction remaining generalizing tries authenticated with
  | zero => exact Traces.pure ExchangeTrace.stopped
  | succ remaining ih =>
    apply Traces.silent_bind (mayStartTry_traces exchangeBeginMs tries)
    intro started
    apply Traces.ite
    · intro _
      exact Traces.pure ExchangeTrace.stopped
    · intro _
      apply Traces.bind (exchangeTry_traces freq)
      intro result first hfirst
      cases hfirst with
      | notSent sent =>
        apply (ih (tries + 1) authenticated).weaken
        intro r es hes
        have hquiet : ∀ e ∈ first, (isAnswer e = false ∧ isMistakable request e = false) ∧
            isAuthenticated e = false := by
          rcases sent with rfl | ⟨freq, preamble, rfl⟩
          · exact List.forall_mem_nil _
          · simp [isAnswer, isMistakable, isAuthenticated]
        refine hes.after_unanswered ?_ (fun e he => (hquiet e he).1) ?_
          fun _ e he => (hquiet e he).2
        · rcases sent with rfl | ⟨_, _, rfl⟩ <;> simp [List.countP_cons, isRequest]
        · exact or_iff_left (ExchangeTrace.no_event fun e he => (hquiet e he).2)
      | notAnswered quiet =>
        apply (ih (tries + 1) authenticated).weaken
        intro r es hes
        have hrest := ExchangeTrace.countP_eq_zero fun e he => (quiet.1 e he).1
        refine hes.after_unanswered ?_ ?_ ?_ ?_
        · rw [List.countP_cons, hrest]
          simp [isRequest]
        · exact List.forall_mem_cons.mpr ⟨⟨rfl, rfl⟩, fun e he => (quiet.1 e he).2⟩
        · apply or_iff_left
          exact ExchangeTrace.no_event (List.forall_mem_cons.mpr ⟨rfl, quiet.2⟩)
        · intro _
          exact List.forall_mem_cons.mpr ⟨rfl, quiet.2⟩
      | @unconfirmed freq preamble rest unanswered auth =>
        apply Traces.ite
        · intro hsafe
          apply (ih (tries + 1) true).weaken
          intro r es hes
          have hrest := ExchangeTrace.countP_eq_zero fun e he => (unanswered e he).1
          refine hes.after_unanswered ?_ ?_ ?_ ?_
          · rw [List.countP_cons, hrest]
            simp [isRequest]
          · exact List.forall_mem_cons.mpr ⟨⟨rfl, rfl⟩, fun e he => (unanswered e he).2⟩
          · obtain ⟨e, he, hauth⟩ := auth
            exact iff_of_true (.inr ⟨e, List.mem_cons_of_mem _ he, hauth⟩) rfl
          · intro hexecute
            simp [retryAfterUnconfirmedAcceptIsSafe, hexecute] at hsafe
        · intro _
          apply Traces.pure
          rw [List.append_nil]
          exact ExchangeTrace.stopped_unconfirmed unanswered auth
      | answered unanswered answer endpoints mistakable =>
        apply Traces.pure
        rw [List.append_nil]
        exact ExchangeTrace.stopped_answered unanswered answer endpoints mistakable

/-- The trace of `sendAndReceive`, whatever the radio does. -/
theorem sendAndReceive_traces (engine : ExchangeEngine σ) (request response : IoFrame)
    (freq : UInt32) (maxTries : UInt8) :
    Traces (sendAndReceive engine request response freq maxTries)
      (ExchangeTrace request response (triesAllowed maxTries) false) := by
  apply Traces.ask_bind
  intro exchangeBeginMs
  exact retryLoop_traces response freq exchangeBeginMs _ 0 false

/-- A transmission or a wait of an exchange. -/
def isExchange : RadioEvent → Bool
  | .sent .exchangeRequest _ _ _ _ | .sent .exchangeAuth _ _ _ _ => true
  | .heard .firstResponse _ _ | .heard .finalResponse _ _ => true
  | _ => false

private theorem transmitFrame_writes {site : TxSite} {frame : IoFrame} {freq : UInt32}
    {preamble : UInt16} {kind : RadioEvent → Prop}
    (h : ∀ ok, kind (.sent site frame freq preamble ok)) :
    Writes kind (transmitFrame engine.radio engine.tuning site frame freq preamble) := by
  apply (transmitFrame_traces site frame freq preamble).weaken
  rintro ok es (⟨rfl, -⟩ | rfl)
  · exact List.forall_mem_nil _
  · exact List.forall_mem_singleton.mpr (h ok)

private theorem listen_writes {κ : Type} {site : ListenSite} {onFrame : ReplyHandler κ}
    {spec : ListenSpec} {frame : IoFrame} {captured : κ} {kind : RadioEvent → Prop}
    (h : ∀ parsed disposition, kind (.heard site parsed disposition)) :
    Writes kind (listen engine.radio site spec onFrame frame captured) := by
  apply (listen_traces spec frame captured).weaken
  intro r es hes e he
  obtain ⟨parsed, disposition, rfl⟩ := hes.heard e he
  exact h parsed disposition

private theorem exchangeTry_writes (request : IoFrame) (freq : UInt32) :
    Writes (isExchange · = true) (exchangeTry engine request freq) := by
  refine Writes.bind (transmitFrame_writes fun _ => rfl) fun sent => ?_
  refine Writes.ite (Writes.pure _) ?_
  have hfirst : ∀ waitMs rx, Writes (isExchange · = true)
      (waitForFirstResponse engine request waitMs rx) := by
    intro waitMs rx
    refine Writes.bind (listen_writes fun _ _ => rfl) fun listened => ?_
    exact Writes.ite (Writes.pure _) (Writes.pure _)
  have hfinal : ∀ rx, Writes (isExchange · = true) (waitForFinalResponse engine request rx) := by
    intro rx
    refine Writes.bind (listen_writes fun _ _ => rfl) fun listened => ?_
    exact Writes.ite (Writes.pure _) (Writes.pure _)
  refine Writes.bind (hfirst _ _) fun first => ?_
  cases first.1 with
  | ignoreUnrelated => exact Writes.pure _
  | completeDirect => exact Writes.pure _
  | requireAuth =>
    have hauth : Writes (isExchange · = true)
        (handleAuthentication engine request freq first.2) := by
      unfold handleAuthentication
      split
      · exact Writes.pure _
      · exact transmitFrame_writes fun _ => rfl
    refine Writes.bind hauth fun authenticated => ?_
    refine Writes.ite (Writes.pure _) ?_
    refine Writes.bind (hfinal _) fun final => ?_
    exact Writes.ite (Writes.pure _) (Writes.pure _)

private theorem retryLoop_writes (request response : IoFrame) (freq exchangeBeginMs : UInt32)
    (remaining tries : ℕ) (authenticated : Bool) :
    Writes (isExchange · = true)
      (retryLoop engine request freq exchangeBeginMs response remaining tries authenticated) := by
  induction remaining generalizing tries authenticated with
  | zero => exact Writes.pure _
  | succ remaining ih =>
    apply Traces.silent_bind (mayStartTry_traces exchangeBeginMs tries)
    intro started
    refine Writes.ite (Writes.pure _) ?_
    refine Writes.bind (exchangeTry_writes request freq) fun result => ?_
    cases result with
    | notAnswered => exact ih _ _
    | answered rx => exact Writes.pure _
    | unconfirmed => exact Writes.ite (ih _ _) (Writes.pure _)

/-- An exchange writes its own transmissions and waits only. -/
theorem sendAndReceive_writes (engine : ExchangeEngine σ) (request response : IoFrame)
    (freq : UInt32) (maxTries : UInt8) :
    Writes (isExchange · = true) (sendAndReceive engine request response freq maxTries) :=
  Writes.ask_bind fun exchangeBeginMs =>
    retryLoop_writes request response freq exchangeBeginMs _ 0 _

end

/-- Whatever the radio does: an execute is not repeated once it was authenticated, the tries
are bounded, the response is written on an answer only, and an exchange is unconfirmed exactly
when it was authenticated and never answered. -/
theorem authenticated_execute_not_repeated {σ : Type} (engine : ExchangeEngine σ)
    (request response : IoFrame) (freq : UInt32) (maxTries : UInt8) (w : World σ RadioEvent) :
    let (r, w') := sendAndReceive engine request response freq maxTries w
    ∃ es, w'.log = w.log ++ es ∧
      (request.cmd = cmdExecute → NoRequestAfterAuth es) ∧
      es.countP isRequest ≤ max 1 (min maxTries.toNat exchangeRetryCount) ∧
      (r.1 ≠ .successWithResponse → r.2 = response) ∧
      (r.1 = .successUnconfirmed ↔
        (∃ e ∈ es, isAuthenticated e = true) ∧ ∀ e ∈ es, isAnswer e = false) := by
  obtain ⟨es, hlog, trace⟩ := sendAndReceive_traces engine request response freq maxTries w
  have hunconfirmed := trace.unconfirmed
  rw [Bool.false_eq_true, false_or] at hunconfirmed
  exact ⟨es, hlog, trace.once, trace.requests, trace.unwritten, hunconfirmed⟩

/-- The frame that `execute_request_and_update_` hands to the status decoder. -/
def statusReply (r : ExchangeOutcome × IoFrame) : Option IoFrame :=
  if r.1 = .successWithResponse ∧ r.2.cmd ≠ cmdErrorResp then some r.2 else none

private theorem statusReply_some {r : ExchangeOutcome × IoFrame} {frame : IoFrame}
    (h : statusReply r = some frame) : r.1 = .successWithResponse ∧ r.2 = frame := by
  unfold statusReply at h
  split_ifs at h with hr
  exact ⟨hr.1, Option.some.inj h⟩

/-- A successful exchange ends with neither a challenge nor an unprompted status update, and
none is decoded as the reply, if and only if no wait meets a frame it mistakes for an answer. -/
theorem success_is_answer_iff {σ : Type} (engine : ExchangeEngine σ)
    (request response : IoFrame) (freq : UInt32) (maxTries : UInt8) (w : World σ RadioEvent) :
    let (r, w') := sendAndReceive engine request response freq maxTries w
    ∃ es, w'.log = w.log ++ es ∧
      ((r.1 = .successWithResponse → r.2.cmd ≠ cmdChallengeReq ∧ r.2.cmd ≠ cmdStatusUpdate) ∧
        (∀ reply, statusReply r = some reply →
          reply.cmd ≠ cmdChallengeReq ∧ reply.cmd ≠ cmdStatusUpdate) ↔
      ∀ e ∈ es, isMistakable request e = false) := by
  obtain ⟨es, hlog, trace⟩ := sendAndReceive_traces engine request response freq maxTries w
  refine ⟨es, hlog, ?_⟩
  have hmistaken := trace.mistaken
  constructor
  · intro ⟨hanswer, _⟩ e he
    rw [← Bool.not_eq_true]
    intro hmistakable
    obtain ⟨hsuccess, hcmd⟩ := hmistaken.mp ⟨e, he, hmistakable⟩
    have hne := hanswer hsuccess
    exact hcmd.elim hne.1 hne.2
  · intro hnone
    have hanswer : (sendAndReceive engine request response freq maxTries w).1.1 =
        .successWithResponse →
        (sendAndReceive engine request response freq maxTries w).1.2.cmd ≠ cmdChallengeReq ∧
        (sendAndReceive engine request response freq maxTries w).1.2.cmd ≠ cmdStatusUpdate := by
      intro hsuccess
      by_contra hcmd
      obtain ⟨e, he, hmistakable⟩ := hmistaken.mpr ⟨hsuccess, by tauto⟩
      rw [hnone e he] at hmistakable
      cases hmistakable
    refine ⟨hanswer, fun reply hreply => ?_⟩
    obtain ⟨hsuccess, rfl⟩ := statusReply_some hreply
    exact hanswer hsuccess

/-- A radio that takes every transmission and plays back a list of packets; a wait that finds
none lets its time pass. -/
def playbackRadio : Radio (UInt32 × List (List UInt8)) where
  millis s := (s.1, s)
  delay ms s := (s.1 + ms, s.2)
  readRssi s := (-120, s)
  sendPacket _ _ _ s := (true, s)
  waitForPacket ms s :=
    match s.2 with
    | [] => (none, (s.1 + ms, []))
    | data :: rest =>
      (if h : data.length ≤ radioPacketBufferSize then some ⟨freqCh2, data, h⟩ else none,
        (s.1, rest))
  isPreambleDetected s := (false, s)
  isSyncDetected s := (false, s)
  currentFreq _ := freqCh2
  changeFrequency _ s := s
  generateChallenge s := (Vector.replicate 6 0, s)
  responsePreamble := shortPreamble
  hopDwellMs := 10
  hasFastTxRxTurnaround := true
  maxWaits _ := 4

/-- The device repeats its challenge, because it missed the authentication, and the exchange
succeeds with the challenge; or it reports by itself in the first wait, and that is decoded. -/
theorem repeated_challenge_ends_exchange :
    let hub : NodeId := ⟨0xAA, 0, 1⟩
    let device : NodeId := ⟨0x12, 0x34, 0x56⟩
    let engine : ExchangeEngine _ := ⟨playbackRadio, {}, hub, Vector.replicate 16 0⟩
    let exchange := fun packets => (buildFrame true false true device hub cmdPrivate [3, 0, 0]).map
      fun request => (sendAndReceive engine request (initFrame true false false false) freqCh2 3
        ⟨(0, packets), []⟩).1
    let challenge : List UInt8 := [0x0E, 0, 0xAA, 0, 1, 0x12, 0x34, 0x56, 0x3C, 1, 2, 3, 4, 5, 6]
    let status : List UInt8 := [0x08, 0, 0xAA, 0, 1, 0x12, 0x34, 0x56, 0x71]
    (exchange [challenge, challenge]).map (fun r => (r.1, r.2.cmd)) =
        some (.successWithResponse, cmdChallengeReq) ∧
      ((exchange [status]).bind statusReply).map IoFrame.cmd = some cmdStatusUpdate := by
  decide +kernel

end HomeIoControl.ExchangeRuns
