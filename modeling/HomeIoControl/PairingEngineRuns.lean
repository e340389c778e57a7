import HomeIoControl.PairingEngine
import HomeIoControl.ExchangeRuns

/-!
# What a pairing writes before it registers a device

Phase by phase, against any radio: the accepted discovery response, the key-init that went out
to that device, and the confirmation that came back from it.
-/

namespace HomeIoControl.PairingEngineRuns

open TracedPrograms ProtocolFrames ProtocolCommands DeviceRegistries RadioLinks Exchanges
  ExchangeRuns PairingEngine

/-- A discovery response of the device to this node was accepted. -/
def DiscoveredBy (own device : NodeId) (e : RadioEvent) : Prop :=
  ∃ frame, e = .heard .discovery (some frame) .accept ∧ frame.cmd = cmdDiscoverResp ∧
    frame.src = device ∧ frame.dst = own

/-- A discovery response to this node is among the accepted frames. -/
structure HeardResponse (own : NodeId) (response : IoFrame) (es : List RadioEvent) : Prop where
  accepted : .heard .discovery (some response) .accept ∈ es
  cmd : response.cmd = cmdDiscoverResp
  dst : response.dst = own

/-- The radio took a key-init to the device. -/
def KeyInitTo (device : NodeId) (e : RadioEvent) : Prop :=
  ∃ frame freq preamble, e = .sent .pairing frame freq preamble true ∧
    frame.cmd = cmdKeyInit ∧ frame.dst = device

/-- A key confirmation of the device to this node was received. -/
def KeyConfirmedBy (own device : NodeId) (e : RadioEvent) : Prop :=
  ∃ site frame, e = .heard site (some frame) .accept ∧ frame.cmd = cmdKeyConfirm ∧
    frame.src = device ∧ frame.dst = own

/-- What a step of the key exchange leaves: the same device, and when it succeeds its
confirmation among the events. -/
def Confirms (own : NodeId) (context : PairingContext) (r : Bool × PairingContext)
    (es : List RadioEvent) : Prop :=
  r.2.found = context.found ∧ (r.1 = true → ∃ e ∈ es, KeyConfirmedBy own context.nodeId e)

/-- The same for a whole key exchange, whose key-init precedes the confirmation. -/
def InitsAndConfirms (own : NodeId) (context : PairingContext) (r : Bool × PairingContext)
    (es : List RadioEvent) : Prop :=
  r.2.found = context.found ∧ (r.1 = true → ∃ keyInit confirm, [keyInit, confirm].Sublist es ∧
    KeyInitTo context.nodeId keyInit ∧ KeyConfirmedBy own context.nodeId confirm)

private theorem Confirms.refused {own : NodeId} {context : PairingContext}
    {es : List RadioEvent} {context' : PairingContext} (h : context'.found = context.found) :
    Confirms own context (false, context') es :=
  ⟨h, fun hfalse => absurd hfalse Bool.false_ne_true⟩

private theorem Confirms.after {own : NodeId} {context context' : PairingContext}
    {r : Bool × PairingContext} {before es : List RadioEvent}
    (h : Confirms own context' r es) (hfound : context'.found = context.found) :
    Confirms own context r (before ++ es) := by
  have hnode : context'.nodeId = context.nodeId := by rw [PairingContext.nodeId, hfound]; rfl
  refine ⟨h.1.trans hfound, fun hok => ?_⟩
  obtain ⟨e, he, hconfirm⟩ := h.2 hok
  rw [hnode] at hconfirm
  exact ⟨e, List.mem_append_right _ he, hconfirm⟩

variable {σ : Type} {engine : ExchangeEngine σ}

private theorem waitForDiscoveryResponse_traces (rx : IoFrame) :
    Traces (waitForDiscoveryResponse engine rx) fun r es =>
      r.1 = .accept → HeardResponse engine.nodeId r.2 es := by
  apply Traces.bind (listen_traces _ rx _)
  intro listened es hes
  apply Traces.ite
  · intro haccepted
    apply Traces.pure
    intro _
    obtain ⟨before, parsed, packet, ends, hmem, output⟩ := hes.accepts haccepted
    obtain ⟨frame, rfl, hcmd, hdst⟩ := discoveryHandler_accepts ends
    rw [List.append_nil, output frame rfl]
    exact ⟨hmem, hcmd, hdst⟩
  · intro _
    apply Traces.pure
    intro h
    cases hcaptured : listened.captured <;> simp [hcaptured] at h

private theorem waitForKeyChallenge_traces (rx : IoFrame) (device : NodeId) :
    Traces (waitForKeyChallenge engine rx device) fun r es =>
      r.1 = true → r.2.cmd = cmdKeyConfirm → ∃ e ∈ es, KeyConfirmedBy engine.nodeId device e := by
  apply Traces.bind (listen_traces _ rx _)
  intro listened es hes
  apply Traces.pure
  intro haccepted hcmd
  obtain ⟨before, parsed, packet, ends, hmem, output⟩ := hes.accepts (of_decide_eq_true haccepted)
  obtain ⟨frame, rfl, hsrc, hdst, -⟩ := keyChallengeHandler_accepts ends
  rw [output frame rfl] at hcmd
  rw [List.append_nil]
  exact ⟨_, hmem, _, frame, rfl, hcmd, hsrc, hdst⟩

private theorem initialDwell_traces : Traces (initialDwell engine) fun _ es => es = [] := by
  apply Traces.ite
  · intro _
    exact Traces.ask fun _ => rfl
  · intro _
    exact Traces.pure rfl

private theorem waitForKeyConfirm_traces (tries : ℕ) (context : PairingContext)
    (hdst : context.req.dst = context.nodeId) (hsrc : context.req.src = engine.nodeId) :
    Traces (waitForKeyConfirm engine tries context) (Confirms engine.nodeId context) := by
  induction tries generalizing context with
  | zero => exact Traces.pure (.refused rfl)
  | succ tries ih =>
    apply Traces.silent_bind (delayRetry_traces engine _)
    intro _
    apply Traces.bind (transmitFrame_traces _ _ _ _)
    intro sent es _
    apply Traces.ite
    · intro _
      exact (ih context hdst hsrc).weaken fun r es h => h.after rfl
    · intro _
      apply Traces.bind (listen_traces _ _ _)
      intro listened fs hfs
      cases houtcome : listened.outcome with
      | timedOut =>
        apply (ih { context with resp := listened.frame } hdst hsrc).weaken
        intro r gs h
        exact Confirms.after (Confirms.after h rfl) rfl
      | accepted =>
        obtain ⟨before, parsed, packet, ends, hmem, -⟩ := hfs.accepts houtcome
        obtain ⟨frame, rfl, hframesrc, hframedst, hcmd⟩ := keyConfirmHandler_accepts ends
        apply Traces.pure
        refine ⟨rfl, fun _ => ⟨.heard .keyConfirm (some frame) .accept, ?_, ?_⟩⟩
        · exact List.mem_append_right _ (List.mem_append_left _ hmem)
        · exact ⟨.keyConfirm, frame, rfl, hcmd, hframesrc.trans hdst, hframedst.trans hsrc⟩
      | aborted => exact Traces.pure (.refused rfl)

/-- What the discovery leaves: when it found a device, its accepted response. -/
private def Discovers (own : NodeId) (progress : DiscoveryProgress) (es : List RadioEvent) : Prop :=
  ∀ context, progress = .found context → ∃ response,
    context.found = decodeDiscoveryResponse response ∧ HeardResponse own response es

private theorem Discovers.append {own : NodeId} {progress : DiscoveryProgress}
    {before es : List RadioEvent} (h : Discovers own progress es) :
    Discovers own progress (before ++ es) := by
  intro context hcontext
  obtain ⟨response, hfound, hheard⟩ := h context hcontext
  exact ⟨response, hfound, List.mem_append_right _ hheard.accepted, hheard.cmd, hheard.dst⟩

private theorem discoveryRequest_traces (command : UInt8) :
    Traces (discoveryRequest engine command) fun _ es => es = [] := by
  apply Traces.ite
  · intro _
    apply Traces.ask_bind
    intro nonce
    exact Traces.pure rfl
  · intro _
    exact Traces.pure rfl

private theorem discoveryAttempts_traces (command : UInt8) (attempts : ℕ)
    (frames : PairingFrames) (sawInvalid : Bool) :
    Traces (discoveryAttempts engine command attempts frames sawInvalid)
      (Discovers engine.nodeId) := by
  induction attempts generalizing frames sawInvalid with
  | zero => exact Traces.pure fun context h => by cases h
  | succ attempts ih =>
    apply Traces.silent_bind (discoveryRequest_traces command)
    intro created
    cases created with
    | none => exact Traces.pure fun context h => by cases h
    | some req =>
      apply Traces.bind (transmitFrame_traces _ _ _ _)
      intro sent es _
      apply Traces.ite
      · intro _
        exact Traces.pure fun context h => by cases h
      · intro _
        apply Traces.bind (waitForDiscoveryResponse_traces _)
        intro result fs hfs
        cases hresult : result.1 with
        | accept =>
          apply Traces.pure
          intro context hcontext
          obtain ⟨haccepted, hcmd, hdst⟩ := hfs hresult
          cases hcontext
          exact ⟨result.2, rfl, List.mem_append_right _ (List.mem_append_left _ haccepted), hcmd,
            hdst⟩
        | invalid => exact (ih _ _).weaken fun _ _ h => h.append.append
        | noResponse => exact (ih _ _).weaken fun _ _ h => h.append.append

private theorem discoveryCommands_traces (commands : List UInt8) (frames : PairingFrames)
    (sawInvalid : Bool) :
    Traces (discoveryCommands engine commands frames sawInvalid) (Discovers engine.nodeId) := by
  induction commands generalizing frames sawInvalid with
  | nil => exact Traces.pure fun context h => by cases h
  | cons command commands ih =>
    apply Traces.bind (discoveryAttempts_traces command _ frames sawInvalid)
    intro progress es hes
    cases progress with
    | failed => exact Traces.pure fun context h => by cases h
    | unanswered frames sawInvalid => exact (ih frames sawInvalid).weaken fun _ _ h => h.append
    | found context =>
      apply Traces.pure
      rw [List.append_nil]
      exact hes

private theorem runDiscoveryPhase_traces (frames : PairingFrames) :
    Traces (runDiscoveryPhase engine frames) (Discovers engine.nodeId) := by
  apply Traces.silent_bind initialDwell_traces
  intro _
  exact discoveryCommands_traces _ frames false

private theorem transferKeyAndWaitConfirm_traces (context : PairingContext) :
    Traces (transferKeyAndWaitConfirm engine context) (Confirms engine.nodeId context) := by
  unfold transferKeyAndWaitConfirm
  cases hreq : createKeyTransfer context.keyInit context.nodeId engine.nodeId engine.systemKey
      (payloadPrefix context.rx 6) with
  | none => exact Traces.pure (.refused rfl)
  | some req =>
    obtain ⟨hdst, hsrc, -, -⟩ := buildFrame_fields hreq
    apply Traces.ite
    · intro _
      apply Traces.bind (sendAndReceive_traces engine req context.resp _ _)
      intro result es hes
      apply Traces.pure
      rw [List.append_nil]
      refine ⟨rfl, fun hok => ?_⟩
      obtain ⟨hsuccess, hconfirm⟩ := Bool.and_eq_true_iff.mp hok
      obtain ⟨site, hmem, hends⟩ := hes.reply (of_decide_eq_true hsuccess)
      simp only [frameMatchesExchangeEndpoints, frameMatchesNodes, hdst, hsrc,
        decide_eq_true_eq] at hends
      exact ⟨_, hmem, site, result.2, rfl, of_decide_eq_true hconfirm, hends⟩
    · intro _
      exact waitForKeyConfirm_traces _ { context with req := req } hdst hsrc

private theorem retriggerKeyInit_traces (repetitions : ℕ) (keyOk : Bool)
    (context : PairingContext) :
    Traces (retriggerKeyInit engine repetitions keyOk context) fun r es =>
      r.2.found = context.found ∧ (r.1 = true →
        keyOk = true ∨ ∃ e ∈ es, KeyConfirmedBy engine.nodeId context.nodeId e) := by
  induction repetitions generalizing keyOk context with
  | zero => exact Traces.pure ⟨rfl, fun h => .inl h⟩
  | succ repetitions ih =>
    -- the rest of the loop, from a context that is still about the same device
    have hrest : ∀ (before : List RadioEvent) (keyOk : Bool) (context' : PairingContext),
        context'.found = context.found →
        (keyOk = true → ∃ e ∈ before, KeyConfirmedBy engine.nodeId context.nodeId e) →
        Traces (retriggerKeyInit engine repetitions keyOk context') fun r es =>
          Confirms engine.nodeId context r (before ++ es) := by
      intro before keyOk context' hfound hbefore
      have hnode : context'.nodeId = context.nodeId := by rw [PairingContext.nodeId, hfound]; rfl
      apply (ih keyOk context').weaken
      intro r es h
      rw [hnode] at h
      refine ⟨h.1.trans hfound, fun hok => ?_⟩
      rcases h.2 hok with hkey | ⟨e, he, hconfirm⟩
      · obtain ⟨e, he, hconfirm⟩ := hbefore hkey
        exact ⟨e, List.mem_append_left _ he, hconfirm⟩
      · exact ⟨e, List.mem_append_right _ he, hconfirm⟩
    have hnone : ∀ before : List RadioEvent, false = true →
        ∃ e ∈ before, KeyConfirmedBy engine.nodeId context.nodeId e :=
      fun _ h => absurd h Bool.false_ne_true
    apply Traces.ite
    · intro hok
      exact Traces.pure ⟨rfl, fun _ => .inl hok⟩
    · intro hnot
      suffices hloop : Traces _ (Confirms engine.nodeId context) from
        hloop.weaken fun r es h => ⟨h.1, fun hok => .inr (h.2 hok)⟩
      apply Traces.silent_bind (delayRetry_traces engine false)
      intro _
      apply Traces.bind (transmitFrame_traces _ _ _ _)
      intro sent es _
      apply Traces.ite
      · intro _
        exact hrest es false context rfl (hnone es)
      · intro _
        apply Traces.bind (waitForKeyChallenge_traces _ _)
        intro challenged fs hchallenged
        simp only [← List.append_assoc]
        apply Traces.ite
        · intro _
          exact hrest (es ++ fs) false _ rfl (hnone _)
        · intro hok
          rw [Bool.not_eq_false] at hok
          apply Traces.ite
          · intro hcmd
            refine hrest (es ++ fs) true _ rfl fun _ => ?_
            obtain ⟨e, he, hconfirm⟩ := hchallenged hok hcmd
            exact ⟨e, List.mem_append_right _ he, hconfirm⟩
          · intro _
            apply Traces.bind (transferKeyAndWaitConfirm_traces _)
            intro transferred gs htransferred
            simp only [← List.append_assoc]
            refine hrest (es ++ fs ++ gs) transferred.1 transferred.2 htransferred.1 fun hkey => ?_
            obtain ⟨e, he, hconfirm⟩ := htransferred.2 hkey
            exact ⟨e, List.mem_append_right _ he, hconfirm⟩

/-- Events after the key-init that hold a confirmation. -/
private theorem sublist_of_confirm {own device : NodeId} {keyInit : RadioEvent}
    {es : List RadioEvent} (h : ∃ e ∈ es, KeyConfirmedBy own device e) :
    ∃ confirm, [keyInit, confirm].Sublist (keyInit :: es) ∧ KeyConfirmedBy own device confirm := by
  obtain ⟨confirm, hmem, hconfirm⟩ := h
  exact ⟨confirm, (List.singleton_sublist.mpr hmem).cons_cons keyInit, hconfirm⟩

private theorem runKeyExchangePhase_traces (context : PairingContext) :
    Traces (runKeyExchangePhase engine context) (InitsAndConfirms engine.nodeId context) := by
  unfold runKeyExchangePhase
  have hrefused : ∀ (context' : PairingContext) (es : List RadioEvent),
      context'.found = context.found →
      InitsAndConfirms engine.nodeId context (false, context') es :=
    fun _ _ hfound => ⟨hfound, fun h => absurd h Bool.false_ne_true⟩
  cases hkeyInit : createKeyInit engine.nodeId context.nodeId with
  | none => exact Traces.pure (hrefused _ _ rfl)
  | some keyInit =>
    obtain ⟨hdst, -, hcmd, -⟩ := buildFrame_fields hkeyInit
    apply Traces.bind (transmitFrame_traces _ _ _ _)
    intro sent es hes
    apply Traces.ite
    · intro _
      exact Traces.pure (hrefused _ _ rfl)
    · intro hsent
      rw [Bool.not_eq_false] at hsent
      have hes' : es = [.sent .pairing keyInit freqCh2 longPreamble true] := by
        rcases hes with ⟨-, hfalse⟩ | hes
        · exact absurd (hsent.symm.trans hfalse) (by decide)
        · rw [hes, hsent]
      subst hes'
      have hinit : KeyInitTo context.nodeId (.sent .pairing keyInit freqCh2 longPreamble true) :=
        ⟨keyInit, freqCh2, longPreamble, rfl, hcmd, hdst⟩
      have hconfirmed : ∀ (context' : PairingContext) (es : List RadioEvent) (ok : Bool),
          context'.found = context.found →
          (ok = true → ∃ e ∈ es, KeyConfirmedBy engine.nodeId context.nodeId e) →
          InitsAndConfirms engine.nodeId context (ok, context')
            (.sent .pairing keyInit freqCh2 longPreamble true :: es) := by
        intro context' es ok hfound hconfirm
        refine ⟨hfound, fun hok => ?_⟩
        obtain ⟨confirm, hsub, hby⟩ := sublist_of_confirm (hconfirm hok)
        exact ⟨_, confirm, hsub, hinit, hby⟩
      simp only [List.singleton_append]
      apply Traces.bind (waitForKeyChallenge_traces _ _)
      intro challenged fs hchallenged
      apply Traces.ite
      · intro _
        exact Traces.pure (hrefused _ _ rfl)
      · intro hok
        rw [Bool.not_eq_false] at hok
        apply Traces.ite
        · intro hcmd
          apply Traces.pure
          rw [List.append_nil]
          exact hconfirmed _ fs true rfl fun _ => hchallenged hok hcmd
        · intro _
          apply Traces.bind (transferKeyAndWaitConfirm_traces _)
          intro transferred gs htransferred
          have hright : ∀ hs, (∃ e ∈ hs, KeyConfirmedBy engine.nodeId context.nodeId e) →
              ∃ e ∈ fs ++ hs, KeyConfirmedBy engine.nodeId context.nodeId e := by
            rintro hs ⟨e, he, hconfirm⟩
            exact ⟨e, List.mem_append_right _ he, hconfirm⟩
          apply Traces.ite
          · intro _
            apply Traces.pure
            rw [List.append_nil]
            exact hconfirmed _ _ _ htransferred.1 fun hkey => hright gs (htransferred.2 hkey)
          · intro _
            have hnode : transferred.2.nodeId = context.nodeId := by
              rw [PairingContext.nodeId, htransferred.1]
              rfl
            apply (retriggerKeyInit_traces 2 transferred.1 transferred.2).weaken
            intro r hs h
            rw [hnode] at h
            refine hconfirmed r.2 _ r.1 (h.1.trans htransferred.1) fun hkey => hright _ ?_
            rcases h.2 hkey with hfirst | ⟨e, he, hconfirm⟩
            · obtain ⟨e, he, hconfirm⟩ := htransferred.2 hfirst
              exact ⟨e, List.mem_append_left _ he, hconfirm⟩
            · exact ⟨e, List.mem_append_right _ he, hconfirm⟩

private theorem keyExchangeAttempts_traces (attempts : ℕ) (first : Bool)
    (context : PairingContext) :
    Traces (keyExchangeAttempts engine attempts first context)
      (InitsAndConfirms engine.nodeId context) := by
  induction attempts generalizing first context with
  | zero => exact Traces.pure ⟨rfl, fun h => absurd h Bool.false_ne_true⟩
  | succ attempts ih =>
    apply Traces.silent_bind (delayRetry_traces engine first)
    intro _
    apply Traces.bind (runKeyExchangePhase_traces context)
    intro exchanged es hes
    apply Traces.ite
    · intro _
      apply Traces.pure
      rw [List.append_nil]
      exact hes
    · intro _
      have hnode : exchanged.2.nodeId = context.nodeId := by
        rw [PairingContext.nodeId, hes.1]
        rfl
      apply (ih false exchanged.2).weaken
      intro r fs h
      refine ⟨h.1.trans hes.1, fun hok => ?_⟩
      obtain ⟨keyInit, confirm, hsub, hinit, hconfirm⟩ := h.2 hok
      rw [hnode] at hinit hconfirm
      exact ⟨keyInit, confirm, hsub.trans (List.sublist_append_right _ _), hinit, hconfirm⟩

private theorem finalizePairingConfiguration_traces (context : PairingContext) :
    Traces (finalizePairingConfiguration engine context) fun r _ =>
      r.2.found = context.found := by
  unfold finalizePairingConfiguration
  cases createSetConfig1 engine.nodeId context.nodeId with
  | none => exact Traces.pure rfl
  | some req =>
    apply Traces.bind (sendAndReceive_traces engine req context.resp _ _)
    intro result es _
    exact Traces.pure rfl

/-- How a pairing ends: without a change, or with the sender of a discovery response registered,
to which a key-init went out after the response, and which confirmed the key after that. -/
def Registers (own : NodeId) (registry : DeviceRegistry) (r : Bool × DeviceRegistry)
    (es : List RadioEvent) : Prop :=
  (r.1 = false → r.2 = registry) ∧
  (r.1 = true → ∃ response found keyInit confirm, found = decodeDiscoveryResponse response ∧
    r.2 = registry.put found.deviceId found.device found.spelled ∧
    HeardResponse own response es ∧
    [.heard .discovery (some response) .accept, keyInit, confirm].Sublist es ∧
    KeyInitTo response.src keyInit ∧ KeyConfirmedBy own response.src confirm)

theorem discoverAndPair_traces (registry : DeviceRegistry) :
    Traces (discoverAndPair engine registry) (Registers engine.nodeId registry) := by
  have hunchanged : ∀ es, Registers engine.nodeId registry (false, registry) es :=
    fun _ => ⟨fun _ => rfl, fun h => absurd h Bool.false_ne_true⟩
  apply Traces.bind (runDiscoveryPhase_traces emptyFrames)
  intro progress es hes
  cases progress with
  | failed => exact Traces.pure (hunchanged _)
  | unanswered frames sawInvalid => exact Traces.pure (hunchanged _)
  | found context =>
    obtain ⟨response, hfound, hheard⟩ := hes context rfl
    apply Traces.bind (keyExchangeAttempts_traces _ true context)
    intro exchanged fs hexchanged
    apply Traces.ite
    · intro _
      exact Traces.pure (hunchanged _)
    · intro hok
      rw [Bool.not_eq_false] at hok
      obtain ⟨keyInit, confirm, hsub, hinit, hconfirm⟩ := hexchanged.2 hok
      have hnode : context.nodeId = response.src := by
        rw [PairingContext.nodeId, hfound, decodeDiscoveryResponse_nodeId]
      rw [hnode] at hinit hconfirm
      apply Traces.bind (finalizePairingConfiguration_traces exchanged.2)
      intro finalized gs hfinalized
      apply Traces.pure
      refine ⟨fun h => absurd h.symm Bool.false_ne_true, fun _ => ?_⟩
      refine ⟨response, finalized.2.found, keyInit, confirm, ?_, rfl, ?_, ?_, hinit, hconfirm⟩
      · exact (hfinalized.trans hexchanged.1).trans hfound
      · exact ⟨List.mem_append_left _ hheard.accepted, hheard.cmd, hheard.dst⟩
      · rw [List.append_nil, ← List.append_assoc]
        have hordered := (List.singleton_sublist.mpr hheard.accepted).append hsub
        exact hordered.trans (List.sublist_append_left _ _)

/-- A pairing changes the registry exactly when it succeeds, by registering one device: the
sender of an accepted discovery response, to which a key-init went out after that, and which
confirmed the key after that. -/
theorem pairing_registers_confirmed_device {σ : Type} (engine : ExchangeEngine σ)
    (registry : DeviceRegistry) (w : World σ RadioEvent) :
    let run := discoverAndPair engine registry w
    ∃ es, run.2.log = w.log ++ es ∧
      (run.1.1 = false → run.1.2 = registry) ∧
      (run.1.1 = true → ∃ found : DiscoveredDevice,
        run.1.2 = registry.put found.deviceId found.device found.spelled ∧
        ∃ discovered keyInit confirm, [discovered, keyInit, confirm].Sublist es ∧
          DiscoveredBy engine.nodeId found.device.nodeId discovered ∧
          KeyInitTo found.device.nodeId keyInit ∧
          KeyConfirmedBy engine.nodeId found.device.nodeId confirm) := by
  intro run
  have htraces : Traces (discoverAndPair engine registry) (Registers engine.nodeId registry) :=
    discoverAndPair_traces registry
  obtain ⟨es, hlog, hunchanged, hregistered⟩ := htraces w
  refine ⟨es, hlog, hunchanged, fun hok => ?_⟩
  obtain ⟨response, found, keyInit, confirm, rfl, hput, hheard, hsub, hinit, hconfirm⟩ :=
    hregistered hok
  have hnode := decodeDiscoveryResponse_nodeId response
  refine ⟨_, hput, _, keyInit, confirm, hsub, ⟨response, rfl, hheard.cmd, hnode.symm, hheard.dst⟩,
    ?_, ?_⟩
  · rw [hnode]
    exact hinit
  · rw [hnode]
    exact hconfirm

end HomeIoControl.PairingEngineRuns
