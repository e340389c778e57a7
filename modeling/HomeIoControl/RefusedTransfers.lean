import HomeIoControl.PairingEngine
import HomeIoControl.ExchangeRuns

/-!
# After a refused key transfer

The wait for the key confirmation gives up at once when the device answers something else, but
it tells its caller no more than that the confirmation is missing. A slowly turning radio then
repeats the key-init, so a refusal is final only when no repetition is left.
-/

namespace HomeIoControl.RefusedTransfers

open TracedPrograms ProtocolFrames ProtocolCommands RadioLinks Exchanges ExchangeRuns
  PairingEngine

/-- An answer of the device to the key transfer that does not confirm it. -/
def isRefusal (own device : NodeId) : RadioEvent → Bool
  | .heard .keyConfirm (some frame) _ =>
    frameMatchesNodes frame device own && !frameIsKeyConfirm frame
  | _ => false

def isKeyInit : RadioEvent → Bool
  | .sent _ frame _ _ _ => frame.cmd = cmdKeyInit
  | _ => false

/-- A key-init or a key transfer is handed to the radio. -/
def offersKey : RadioEvent → Bool
  | .sent _ frame _ _ _ => frame.cmd = cmdKeyInit || frame.cmd = cmdKeyTransfer
  | _ => false

/-- After a refusal the key is not offered again, and the phase fails. -/
def RefusalFinal (own device : NodeId) (ok : Bool) (es : List RadioEvent) : Prop :=
  AtEach (fun _ e after => isRefusal own device e = true →
    (∀ e ∈ after, offersKey e = false) ∧ ok = false) es

/-- The key-inits of one call: the first and its two repetitions. -/
def keyInitRounds : ℕ := 3

/-- The device refuses in the last round only, when every key-init has gone out. -/
def RefusedLast (own device : NodeId) (es : List RadioEvent) : Prop :=
  AtEach (fun before e _ => isRefusal own device e = true →
    keyInitRounds ≤ before.countP isKeyInit) es

/-- Events that refuse nothing and start no round. -/
def Plain (own device : NodeId) (es : List RadioEvent) : Prop :=
  ∀ e ∈ es, isRefusal own device e = false ∧ isKeyInit e = false

/-- A refusal either ends the phase in failure, in the last of the rounds, or comes before the
last and another key-init follows it. -/
def Rounds (own device : NodeId) (rounds : ℕ) (ok : Bool) (es : List RadioEvent) : Prop :=
  AtEach (fun before e after => isRefusal own device e = true →
    before.countP isKeyInit = rounds ∧ after = [] ∧ ok = false ∨
    before.countP isKeyInit < rounds ∧ ∃ e ∈ after, isKeyInit e = true) es

variable {own device : NodeId} {rounds : ℕ} {ok : Bool} {es fs : List RadioEvent}

theorem Plain.countP (h : Plain own device es) : es.countP isKeyInit = 0 := by
  rw [List.countP_eq_zero]
  intro e he
  simp [(h e he).2]

theorem Plain.append (hes : Plain own device es) (hfs : Plain own device fs) :
    Plain own device (es ++ fs) :=
  List.forall_mem_append.mpr ⟨hes, hfs⟩

theorem offersKey_of_isKeyInit {e : RadioEvent} (h : isKeyInit e = true) :
    offersKey e = true := by
  cases e with
  | sent site frame freq preamble ok =>
    simp only [isKeyInit, decide_eq_true_eq] at h
    simp [offersKey, h]
  | heard site frame disposition => cases h

/-- Where nothing is refused, nothing follows a refusal. -/
private theorem atEach_of_none {fits : List RadioEvent → List RadioEvent → Prop}
    (h : ∀ e ∈ es, isRefusal own device e = false) :
    AtEach (fun before e after => isRefusal own device e = true → fits before after) es := by
  apply AtEach.of_forall
  intro e he _ _ hrefusal
  exact absurd (hrefusal.symm.trans (h e he)) (by decide)

namespace Rounds

theorem of_none (h : ∀ e ∈ es, isRefusal own device e = false) :
    Rounds own device rounds ok es :=
  atEach_of_none h

/-- Plain events in front count for nothing. -/
theorem after_plain (hes : Plain own device es) (hfs : Rounds own device rounds ok fs) :
    Rounds own device rounds ok (es ++ fs) := by
  refine AtEach.append (atEach_of_none fun e he => (hes e he).1) ?_
  simp only [List.countP_append, hes.countP, Nat.zero_add]
  exact hfs

/-- A key-init in front is one more round. -/
theorem after_keyInit {e : RadioEvent} (he : isKeyInit e = true)
    (hes : Rounds own device rounds ok es) : Rounds own device (rounds + 1) ok (e :: es) := by
  have hrefusal : isRefusal own device e = false := by
    cases e with
    | sent site frame freq preamble ok => rfl
    | heard site frame disposition => cases he
  refine @AtEach.append _ _ [e] _ (atEach_of_none (by simpa using hrefusal)) ?_
  refine AtEach.imp hes ?_
  intro before e' after h
  have hcount : ([e] ++ before).countP isKeyInit = before.countP isKeyInit + 1 := by
    simp [he]
  simp only [hcount, Nat.add_right_cancel_iff, Nat.add_lt_add_iff_right]
  exact h

/-- A key transfer, then the remaining rounds: unless none remains, a failed transfer is
followed by a key-init. -/
theorem after_transfer {transferred : Bool} (hinits : es.countP isKeyInit = 0)
    (hes : Rounds own device 0 transferred es)
    (repeats : transferred = false →
      rounds = 0 ∧ fs = [] ∧ ok = false ∨ 0 < rounds ∧ ∃ e ∈ fs, isKeyInit e = true)
    (hfs : Rounds own device rounds ok fs) : Rounds own device rounds ok (es ++ fs) := by
  apply AtEach.append
  · refine AtEach.imp hes ?_
    intro before e after h hrefusal
    rcases h hrefusal with ⟨hzero, rfl, hfailed⟩ | ⟨hneg, -⟩
    · rw [hzero, List.nil_append]
      rcases repeats hfailed with ⟨rfl, rfl, hok⟩ | ⟨hpos, hmore⟩
      · exact .inl ⟨rfl, rfl, hok⟩
      · exact .inr ⟨hpos, hmore⟩
    · exact absurd hneg (Nat.not_lt_zero _)
  · simp only [List.countP_append, hinits, Nat.zero_add]
    exact hfs

/-- Over the rounds of a call, the refusals are final exactly when they come last. -/
theorem final_iff (h : Rounds own device keyInitRounds ok es) :
    RefusalFinal own device ok es ↔ RefusedLast own device es := by
  apply AtEach.congr h
  intro before refusal after hdecides
  apply imp_congr_right
  intro hrefusal
  rcases hdecides hrefusal with ⟨hlast, rfl, hok⟩ | ⟨hearly, e, he, hinit⟩
  · exact iff_of_true ⟨List.forall_mem_nil _, hok⟩ hlast.ge
  · apply iff_of_false
    · rintro ⟨hnone, -⟩
      exact absurd (hnone e he) (by simp [offersKey_of_isKeyInit hinit])
    · omega

end Rounds

variable {σ : Type} {engine : ExchangeEngine σ}

/-- The wait for the challenge refuses nothing and starts no round. -/
private theorem waitForKeyChallenge_traces (rx : IoFrame) (device : NodeId) :
    Traces (waitForKeyChallenge engine rx device) fun _ es => Plain own device es := by
  apply Traces.bind (listen_traces _ rx _)
  intro listened es hes
  apply Traces.pure
  rw [List.append_nil]
  intro e he
  obtain ⟨parsed, disposition, rfl⟩ := hes.heard e he
  exact ⟨rfl, rfl⟩

/-- What a wait for the confirmation of `req` ignores is no answer to it. -/
private theorem plain_ignored {req : IoFrame} {ignored : List (Option IoFrame)}
    (h : ∀ parsed ∈ ignored, Handles (keyConfirmHandler req) parsed .ignore) :
    Plain req.src req.dst (ignoredEvents .keyConfirm ignored) := by
  intro e he
  obtain ⟨parsed, hparsed, rfl⟩ := List.mem_map.mp he
  refine ⟨?_, rfl⟩
  obtain ⟨captured, packet, hdisp⟩ := h parsed hparsed
  cases parsed with
  | none => rfl
  | some frame =>
    by_cases hmatch : frameMatchesExchangeEndpoints req frame = false
    · rw [frameMatchesExchangeEndpoints] at hmatch
      simp [isRefusal, hmatch]
    · simp only [keyConfirmHandler, if_neg hmatch] at hdisp
      split at hdisp <;> cases hdisp

/-- The wait for the confirmation starts no round; a refusal is the last thing it hears. -/
private theorem listen_keyConfirm_traces {req resp : IoFrame} {spec : ListenSpec} :
    Traces (listen engine.radio .keyConfirm spec (keyConfirmHandler req) resp ⟨⟩)
      fun listened es =>
        (listened.outcome = .aborted → Rounds req.src req.dst 0 false es) ∧
        (listened.outcome ≠ .aborted → Plain req.src req.dst es) ∧
        es.countP isKeyInit = 0 := by
  apply (listen_traces spec resp _).weaken
  intro listened es hes
  have hcount : es.countP isKeyInit = 0 := by
    rw [List.countP_eq_zero]
    intro e he
    obtain ⟨parsed, disposition, rfl⟩ := hes.heard e he
    simp [isKeyInit]
  refine ⟨?_, ?_, hcount⟩
  · intro haborted
    cases hes with
    | timedOut ignores => cases haborted
    | accepted ignores ends output => cases haborted
    | aborted ignores ends output =>
      exact Rounds.after_plain (plain_ignored ignores)
        (AtEach.singleton fun _ => .inl ⟨rfl, rfl, rfl⟩)
  · intro hne
    cases hes with
    | timedOut ignores => exact plain_ignored ignores
    | accepted ignores ends output =>
      obtain ⟨frame, rfl, -, -, hcmd⟩ := keyConfirmHandler_accepts ends
      refine (plain_ignored ignores).append (List.forall_mem_singleton.mpr ⟨?_, rfl⟩)
      simp [isRefusal, frameIsKeyConfirm, hcmd]
    | aborted ignores ends output => exact absurd rfl hne

/-- What a key transfer leaves: the same device and key-init, no round, and a refusal only at
the end of a failure. -/
structure Transfer (own : NodeId) (context : PairingContext) (r : Bool × PairingContext)
    (es : List RadioEvent) : Prop where
  found : r.2.found = context.found
  keyInit : r.2.keyInit = context.keyInit
  inits : es.countP isKeyInit = 0
  rounds : Rounds own context.nodeId 0 r.1 es

theorem Transfer.after {context context' : PairingContext} {r : Bool × PairingContext}
    (h : Transfer own context' r fs) (hes : Plain own context.nodeId es)
    (hfound : context'.found = context.found) (hinit : context'.keyInit = context.keyInit) :
    Transfer own context r (es ++ fs) := by
  have hnode : context'.nodeId = context.nodeId := by
    simp only [PairingContext.nodeId, hfound]
  refine ⟨h.found.trans hfound, h.keyInit.trans hinit, ?_, ?_⟩
  · rw [List.countP_append, hes.countP, h.inits]
  · rw [← hnode] at hes ⊢
    exact Rounds.after_plain hes h.rounds

private theorem waitForKeyConfirm_traces (tries : ℕ) (context : PairingContext)
    (hsrc : context.req.src = engine.nodeId) (hdst : context.req.dst = context.nodeId)
    (hcmd : context.req.cmd = cmdKeyTransfer) :
    Traces (waitForKeyConfirm engine tries context) (Transfer engine.nodeId context) := by
  induction tries generalizing context with
  | zero => exact Traces.pure ⟨rfl, rfl, rfl, AtEach.nil⟩
  | succ tries ih =>
    apply Traces.silent_bind (delayRetry_traces engine _)
    intro _
    apply Traces.bind (transmitFrame_traces _ _ _ _)
    intro sent es hes
    have hplain : Plain engine.nodeId context.nodeId es := by
      rcases hes with ⟨rfl, -⟩ | rfl
      · exact List.forall_mem_nil _
      · refine List.forall_mem_singleton.mpr ⟨rfl, ?_⟩
        simp [isKeyInit, hcmd, cmdKeyTransfer, cmdKeyInit]
    apply Traces.ite
    · intro _
      exact (ih context hsrc hdst hcmd).weaken fun r fs h => h.after hplain rfl rfl
    · intro _
      apply Traces.bind listen_keyConfirm_traces
      intro listened fs hfs
      rw [hsrc, hdst] at hfs
      obtain ⟨haborted, hplain', hcount⟩ := hfs
      cases houtcome : listened.outcome with
      | timedOut =>
        have hquiet := hplain.append (hplain' (by simp [houtcome]))
        apply (ih { context with resp := listened.frame } hsrc hdst hcmd).weaken
        intro r gs h
        rw [← List.append_assoc]
        exact h.after hquiet rfl rfl
      | accepted =>
        have hquiet := hplain.append (hplain' (by simp [houtcome]))
        apply Traces.pure
        rw [List.append_nil]
        exact ⟨rfl, rfl, hquiet.countP, Rounds.of_none fun e he => (hquiet e he).1⟩
      | aborted =>
        apply Traces.pure
        rw [List.append_nil]
        refine ⟨rfl, rfl, ?_, (haborted houtcome).after_plain hplain⟩
        rw [List.countP_append, hplain.countP, hcount]

private theorem transferKeyAndWaitConfirm_traces (context : PairingContext) :
    Traces (transferKeyAndWaitConfirm engine context) fun r es =>
      (engine.radio.hasFastTxRxTurnaround = false → Transfer engine.nodeId context r es) ∧
      (engine.radio.hasFastTxRxTurnaround = true →
        ∀ e ∈ es, isRefusal engine.nodeId context.nodeId e = false) := by
  unfold transferKeyAndWaitConfirm
  cases hreq : createKeyTransfer context.keyInit context.nodeId engine.nodeId engine.systemKey
      (payloadPrefix context.rx 6) with
  | none =>
    refine Traces.pure ⟨fun _ => ?_, fun _ => List.forall_mem_nil _⟩
    exact ⟨rfl, rfl, rfl, AtEach.nil⟩
  | some req =>
    obtain ⟨hdst, hsrc, hcmd, -⟩ := buildFrame_fields hreq
    apply Traces.ite
    · intro hfast
      apply Traces.bind (sendAndReceive_writes engine req context.resp _ _)
      intro result es hes
      apply Traces.pure
      rw [List.append_nil]
      refine ⟨fun hslow => absurd hslow (by simp [hfast]), fun _ e he => ?_⟩
      have hexchange := hes e he
      cases e with
      | sent site frame freq preamble ok => rfl
      | heard site frame disposition => cases site <;> first | rfl | cases hexchange
    · intro hslow
      apply (waitForKeyConfirm_traces _ { context with req := req } hsrc hdst hcmd).weaken
      intro r es h
      exact ⟨fun _ => ⟨h.found, h.keyInit, h.inits, h.rounds⟩, fun hfast => absurd hfast hslow⟩

/-- The repetitions left: a missing confirmation starts the next one, whatever made it missing. -/
private theorem retriggerKeyInit_traces (repetitions : ℕ) (keyOk : Bool)
    (context : PairingContext) {buf : List UInt8} (hbuf : serialize context.keyInit = some buf)
    (hcmd : context.keyInit.cmd = cmdKeyInit) (hslow : engine.radio.hasFastTxRxTurnaround = false) :
    Traces (retriggerKeyInit engine repetitions keyOk context) fun r es =>
      Rounds engine.nodeId context.nodeId repetitions r.1 es ∧
      (keyOk = false → repetitions = 0 ∧ es = [] ∧ r.1 = false ∨
        0 < repetitions ∧ ∃ e ∈ es, isKeyInit e = true) := by
  induction repetitions generalizing keyOk context with
  | zero =>
    exact Traces.pure ⟨AtEach.nil, fun h => .inl ⟨rfl, rfl, h⟩⟩
  | succ repetitions ih =>
    apply Traces.ite
    · intro hok
      refine Traces.pure ⟨AtEach.nil, fun h => ?_⟩
      exact absurd (hok.symm.trans h) (by decide)
    · intro _
      apply Traces.silent_bind (delayRetry_traces engine false)
      intro _
      apply Traces.bind (transmitFrame_sends .pairing freqCh2 longPreamble hbuf)
      rintro sent es rfl
      have hinit : isKeyInit (.sent .pairing context.keyInit freqCh2 longPreamble sent) = true := by
        simp [isKeyInit, hcmd]
      -- whatever follows the key-init, the round has started with it
      suffices hrest : Traces _ fun (r : Bool × PairingContext) fs =>
          Rounds engine.nodeId context.nodeId repetitions r.1 fs from
        hrest.weaken fun r fs h => ⟨Rounds.after_keyInit hinit h, fun _ =>
          .inr ⟨Nat.succ_pos _, _, List.mem_cons_self, hinit⟩⟩
      apply Traces.ite
      · intro _
        exact (ih false context hbuf hcmd).weaken fun r fs h => h.1
      · intro _
        apply Traces.bind (waitForKeyChallenge_traces _ _)
        intro challenged fs hfs
        apply Traces.ite
        · intro _
          exact (ih false { context with rx := challenged.2 } hbuf hcmd).weaken
            fun r gs h => h.1.after_plain hfs
        · intro _
          apply Traces.ite
          · intro _
            exact (ih true { context with rx := challenged.2 } hbuf hcmd).weaken
              fun r gs h => h.1.after_plain hfs
          · intro _
            apply Traces.bind (transferKeyAndWaitConfirm_traces _)
            intro transferred gs htransferred
            have htransfer := htransferred.1 hslow
            have hnode : transferred.2.nodeId = context.nodeId := by
              simp only [PairingContext.nodeId, htransfer.found]
            rw [← htransfer.keyInit] at hbuf hcmd
            apply (ih transferred.1 transferred.2 hbuf hcmd).weaken
            intro r hs h
            rw [hnode] at h
            exact Rounds.after_plain hfs
              (Rounds.after_transfer htransfer.inits htransfer.rounds h.2 h.1)

private theorem runKeyExchangePhase_traces (context : PairingContext) :
    Traces (runKeyExchangePhase engine context) fun r es =>
      Rounds engine.nodeId context.nodeId keyInitRounds r.1 es := by
  unfold runKeyExchangePhase
  cases hkeyInit : createKeyInit engine.nodeId context.nodeId with
  | none => exact Traces.pure AtEach.nil
  | some keyInit =>
    obtain ⟨-, -, hcmd, -⟩ := buildFrame_fields hkeyInit
    obtain ⟨buf, hbuf, -⟩ := buildFrame_on_air hkeyInit
    apply Traces.bind (transmitFrame_sends .pairing freqCh2 longPreamble hbuf)
    rintro sent es rfl
    have hinit : isKeyInit (.sent .pairing keyInit freqCh2 longPreamble sent) = true := by
      simp [isKeyInit, hcmd]
    suffices hrest : Traces _ fun (r : Bool × PairingContext) fs =>
        Rounds engine.nodeId context.nodeId 2 r.1 fs from
      hrest.weaken fun r fs h => Rounds.after_keyInit hinit h
    have hstopped : ∀ (ok : Bool) (context' : PairingContext),
        Traces (pure (ok, context') : RadioProg σ (Bool × PairingContext)) fun r fs =>
          Rounds engine.nodeId context.nodeId 2 r.1 fs :=
      fun _ _ => Traces.pure AtEach.nil
    apply Traces.ite
    · intro _
      exact hstopped _ _
    · intro _
      apply Traces.bind (waitForKeyChallenge_traces _ _)
      intro challenged fs hfs
      suffices hrest : Traces _ fun (r : Bool × PairingContext) gs =>
          Rounds engine.nodeId context.nodeId 2 r.1 gs from
        hrest.weaken fun r gs h => h.after_plain hfs
      apply Traces.ite
      · intro _
        exact hstopped _ _
      · intro _
        apply Traces.ite
        · intro _
          exact hstopped _ _
        · intro _
          apply Traces.bind (transferKeyAndWaitConfirm_traces _)
          intro transferred gs htransferred
          apply Traces.ite
          · intro hfast
            apply Traces.pure
            rw [List.append_nil]
            exact Rounds.of_none (htransferred.2 hfast)
          · intro hslow
            rw [Bool.not_eq_true] at hslow
            have htransfer := htransferred.1 hslow
            have hnode : transferred.2.nodeId = context.nodeId := by
              simp only [PairingContext.nodeId, htransfer.found]
            have hbuf' : serialize transferred.2.keyInit = some buf := by
              rw [htransfer.keyInit, hbuf]
            have hcmd' : transferred.2.keyInit.cmd = cmdKeyInit := by
              rw [htransfer.keyInit, hcmd]
            apply (retriggerKeyInit_traces 2 transferred.1 transferred.2 hbuf' hcmd' hslow).weaken
            intro r hs h
            rw [hnode] at h
            exact Rounds.after_transfer htransfer.inits htransfer.rounds h.2 h.1

/-- In every call a refusal ends the offering of the key, and the phase fails, exactly when the
device refuses in the last round only. -/
theorem refusal_final_iff {σ : Type} (engine : ExchangeEngine σ) (context : PairingContext)
    (w : World σ RadioEvent) :
    let run := runKeyExchangePhase engine context w
    ∃ es, run.2.log = w.log ++ es ∧
      (RefusalFinal engine.nodeId context.nodeId run.1.1 es ↔
        RefusedLast engine.nodeId context.nodeId es) := by
  obtain ⟨es, hlog, hrounds⟩ := runKeyExchangePhase_traces context w
  exact ⟨es, hlog, hrounds.final_iff⟩

/-- A device refuses the key transfer, yet it is asked again, and takes the key then. -/
theorem refused_transfer_repeated :
    let hub : NodeId := ⟨0xAA, 0, 1⟩
    let device : NodeId := ⟨0x12, 0x34, 0x56⟩
    let radio := { playbackRadio with hasFastTxRxTurnaround := false }
    let engine : ExchangeEngine _ := ⟨radio, {}, hub, Vector.replicate 16 0⟩
    let response : IoFrame := { initFrame true false false false with src := device }
    let context : PairingContext :=
      { emptyFrames with found := decodeDiscoveryResponse response }
    let challenge : List UInt8 := [0x0E, 0, 0xAA, 0, 1, 0x12, 0x34, 0x56, 0x3C, 1, 2, 3, 4, 5, 6]
    let refusal : List UInt8 := [0x09, 0, 0xAA, 0, 1, 0x12, 0x34, 0x56, 0xFE, 0x01]
    let confirm : List UInt8 := [0x08, 0, 0xAA, 0, 1, 0x12, 0x34, 0x56, 0x33]
    let run := runKeyExchangePhase engine context
      ⟨(0, [challenge, refusal, challenge, confirm]), []⟩
    run.1.1 = true ∧ run.2.log[3]?.map (isRefusal hub device) = some true ∧
      (run.2.log.drop 4).map offersKey = [true, false, true, false] ∧
      ¬ RefusalFinal hub device run.1.1 run.2.log := by
  intro hub device radio engine response context challenge refusal confirm run
  have hrun : run.1.1 = true ∧ run.2.log[3]?.map (isRefusal hub device) = some true ∧
      (run.2.log.drop 4).map offersKey = [true, false, true, false] := by
    decide +kernel
  obtain ⟨hok, hrefused, hoffers⟩ := hrun
  refine ⟨hok, hrefused, hoffers, fun hfinal => ?_⟩
  obtain ⟨e, hget, hrefusal⟩ := Option.map_eq_some_iff.mp hrefused
  obtain ⟨hlength, rfl⟩ := List.getElem?_eq_some_iff.mp hget
  obtain ⟨-, hfailed⟩ := hfinal.getElem 3 hlength hrefusal
  exact absurd (hok.symm.trans hfailed) (by decide)

end HomeIoControl.RefusedTransfers
