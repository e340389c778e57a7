import HomeIoControl.ProtocolCommands

/-!
# The key-extraction responder

The hub plays an unpaired device so that another hub pairs with it and hands over its system
key. First the pure decisions of the responder, then the handlers that answer frames.
-/

namespace HomeIoControl.PairingResponder

open ProtocolFrames ProtocolCrypto DeviceModels ProtocolCommands

inductive ResponderState where
  | disarmed
  | armedIdle
  | sentDiscoverResp
  | sentConfirmAck
  | sentChallenge
  | extracted
  | sentAddressResp
  deriving DecidableEq, Repr

/-- The context of one arm cycle. -/
structure ResponderContext where
  state : ResponderState := .disarmed
  throwawayId : NodeId := ⟨0, 0, 0⟩
  advertisedType : DeviceType := .unknown
  advertisedSubtype : UInt8 := 0
  challenge : Challenge := Vector.replicate 6 0
  hubNodeId : NodeId := ⟨0, 0, 0⟩
  recoveredKey : Block := Vector.replicate 16 0
  deriving DecidableEq

namespace ResponderContext

/-- The key has been recovered; a later address check does not undo that. -/
def HasKey (ctx : ResponderContext) : Prop :=
  ctx.state = .extracted ∨ ctx.state = .sentAddressResp

instance (ctx : ResponderContext) : Decidable ctx.HasKey := inferInstanceAs (Decidable (_ ∨ _))

theorem not_hasKey {ctx : ResponderContext} (state : ResponderState) (h : ctx.state = state)
    (hextracted : state ≠ .extracted) (haddress : state ≠ .sentAddressResp) : ¬ ctx.HasKey := by
  rintro (hkey | hkey)
  · exact hextracted (h.symm.trans hkey)
  · exact haddress (h.symm.trans hkey)

end ResponderContext

/-- `on_discover_request`: after an extraction, only the hub that was extracted restarts. Each
decision returns the next context when the caller is to reply. -/
def onDiscoverRequest (ctx : ResponderContext) (hubNodeId : NodeId) : Option ResponderContext :=
  if ctx.state = .armedIdle ∨ ctx.state = .sentDiscoverResp then
    some { ctx with state := .sentDiscoverResp }
  else if ctx.state = .extracted ∨ ctx.state = .sentAddressResp then
    if hubNodeId ≠ ctx.hubNodeId then none else some { ctx with state := .sentDiscoverResp }
  else none

def onDiscoverConfirm (ctx : ResponderContext) : Option ResponderContext :=
  if ctx.state ≠ .sentDiscoverResp ∧ ctx.state ≠ .sentConfirmAck then none
  else some { ctx with state := .sentConfirmAck }

/-- `on_key_init`: a retry keeps the stored challenge and hub. -/
def onKeyInit (ctx : ResponderContext) (challenge : Challenge) (hubNodeId : NodeId) :
    Option ResponderContext :=
  if ctx.state = .sentDiscoverResp ∨ ctx.state = .sentConfirmAck then
    some { ctx with challenge := challenge, hubNodeId := hubNodeId, state := .sentChallenge }
  else if ctx.state = .sentChallenge then some ctx else none

def onKeyTransfer (ctx : ResponderContext) (transferPayload : Block) : Option ResponderContext :=
  if ctx.state ≠ .sentChallenge then none
  else some { ctx with
    recoveredKey := recoverSystemKeyFromTransfer transferPayload ctx.challenge
    state := .extracted }

def onAddressReq (ctx : ResponderContext) : Option ResponderContext :=
  if ctx.state ≠ .extracted ∧ ctx.state ≠ .sentAddressResp then none
  else some { ctx with state := .sentAddressResp }

def onAddressChallenge (ctx : ResponderContext) : Bool := ctx.state = .sentAddressResp

def keyExtractionManufacturerId : UInt8 := manufacturerSomfy
def keyExtractionAdvertisedType : DeviceType := .rollerShutter
def keyExtractionAdvertisedSubtype : UInt8 := 0
def keyExtractionMidAttemptTimeoutMs : UInt32 := 5000
def keyExtractionPostExtractGraceMs : UInt32 := 60000

/-- Which preamble a reply gets: a frame a scanning peer has to catch cold, or one on a channel
the peer already holds. -/
inductive ReplyPreamble where
  | coldBroadcastReply
  | response
  deriving DecidableEq, Repr

/-- What a handler does besides updating the responder. -/
inductive ResponderEffect where
  | transmit (frame : IoFrame) (freq : UInt32) (preamble : ReplyPreamble)
  | logResult (hubNodeId : NodeId) (recoveredKey : Block)
  | scheduleGrace (delayMs : UInt32)
  deriving DecidableEq

/-- The hub's part of the responder: its context and the deadline of the channel hold. -/
structure KeyExtraction where
  ctx : ResponderContext := {}
  holdDeadlineMs : UInt32 := 0
  deriving DecidableEq

namespace KeyExtraction

/-- `set_key_extraction_armed(true)` with the generated throwaway address. -/
def arm (h : KeyExtraction) (throwawayId : NodeId) : KeyExtraction :=
  { h with ctx :=
    { state := .armedIdle
      throwawayId := throwawayId
      advertisedType := keyExtractionAdvertisedType
      advertisedSubtype := keyExtractionAdvertisedSubtype } }

end KeyExtraction

/-- `broadcast_key_extraction_reply_`: the channel the peer reacts on goes last. -/
def broadcastReply (frame : IoFrame) : List ResponderEffect :=
  let preamble := if isStart frame then ReplyPreamble.coldBroadcastReply else .response
  [.transmit frame freqCh1 preamble, .transmit frame freqCh3 preamble,
    .transmit frame freqCh2 preamble]

/-- The end of a mid-attempt handler: without a reply the hold deadline stays as it was. -/
def replyAndHold (now : UInt32) (h : KeyExtraction) (ctx : ResponderContext)
    (resp : Option IoFrame) : KeyExtraction × List ResponderEffect :=
  match resp with
  | none => ({ h with ctx := ctx }, [])
  | some resp =>
    (⟨ctx, now + keyExtractionMidAttemptTimeoutMs⟩, broadcastReply resp)

def handleKeyExtractionDiscover (now : UInt32) (h : KeyExtraction) (frame : IoFrame) :
    KeyExtraction × List ResponderEffect :=
  match onDiscoverRequest h.ctx frame.src with
  | none => (h, [])
  | some ctx => replyAndHold now h ctx (createDiscoverResp ctx.throwawayId frame.src
      ctx.advertisedType ctx.advertisedSubtype keyExtractionManufacturerId)

def handleKeyExtractionDiscoverConfirm (now : UInt32) (h : KeyExtraction) (frame : IoFrame) :
    KeyExtraction × List ResponderEffect :=
  match onDiscoverConfirm h.ctx with
  | none => (h, [])
  | some ctx => replyAndHold now h ctx (createDiscoverConfirmAck ctx.throwawayId frame.src)

def handleKeyExtractionKeyInit (now : UInt32) (candidateChallenge : Challenge)
    (h : KeyExtraction) (frame : IoFrame) : KeyExtraction × List ResponderEffect :=
  match onKeyInit h.ctx candidateChallenge frame.src with
  | none => (h, [])
  | some ctx =>
    replyAndHold now h ctx (createChallengeReqDeviceRole frame.src ctx.throwawayId ctx.challenge)

/-- `arm_post_extraction_grace_`. -/
def armPostExtractionGrace (now : UInt32) (ctx : ResponderContext)
    (before : List ResponderEffect) : KeyExtraction × List ResponderEffect :=
  (⟨ctx, now + keyExtractionPostExtractGraceMs⟩,
    before ++ [.scheduleGrace keyExtractionPostExtractGraceMs])

def handleKeyExtractionKeyTransfer (now : UInt32) (h : KeyExtraction) (frame : IoFrame) :
    KeyExtraction × List ResponderEffect :=
  if frame.dataLen < aesKeySize then (h, [])
  else match onKeyTransfer h.ctx (payloadPrefix frame 16) with
    | none => (h, [])
    | some ctx =>
      armPostExtractionGrace now ctx
        (((createKeyConfirm ctx.throwawayId frame.src).elim [] broadcastReply) ++
          [.logResult ctx.hubNodeId ctx.recoveredKey])

/-- The end of an address handler: progress of the hub pushes the disarm back out. -/
def replyAndGrace (now : UInt32) (h : KeyExtraction) (ctx : ResponderContext)
    (resp : Option IoFrame) : KeyExtraction × List ResponderEffect :=
  match resp with
  | none => ({ h with ctx := ctx }, [])
  | some resp => armPostExtractionGrace now ctx (broadcastReply resp)

def handleKeyExtractionAddressReq (now : UInt32) (h : KeyExtraction) (frame : IoFrame) :
    KeyExtraction × List ResponderEffect :=
  if frame.src ≠ h.ctx.hubNodeId then (h, [])
  else match onAddressReq h.ctx with
    | none => (h, [])
    | some ctx =>
      replyAndGrace now h ctx (createAddressRespDeviceRole ctx.throwawayId frame.src)

/-- The address response is rebuilt: it is what the hub's challenge authenticates. -/
def addressChallengeAnswer (ctx : ResponderContext) (frame : IoFrame) : Option IoFrame :=
  (createAddressRespDeviceRole ctx.throwawayId frame.src).bind fun ourAddressResp =>
    createChallengeRespDeviceRole frame.src ctx.throwawayId (payloadPrefix frame 6)
      ourAddressResp ctx.recoveredKey

def handleKeyExtractionAddressChallenge (now : UInt32) (h : KeyExtraction) (frame : IoFrame) :
    KeyExtraction × List ResponderEffect :=
  if frame.src ≠ h.ctx.hubNodeId then (h, [])
  else if frame.dataLen < hmacSize then (h, [])
  else if onAddressChallenge h.ctx = false then (h, [])
  else replyAndGrace now h h.ctx (addressChallengeAnswer h.ctx frame)

/-- `try_handle_key_extraction_frame_`: `none` leaves the frame to the rest of the receive
path. A discovery request is answered before the address filter. -/
def tryHandleKeyExtractionFrame (now : UInt32) (candidateChallenge : Challenge)
    (h : KeyExtraction) (frame : IoFrame) : Option (KeyExtraction × List ResponderEffect) :=
  if h.ctx.state = .disarmed then none
  else if frame.cmd = cmdDiscoverReq then some (handleKeyExtractionDiscover now h frame)
  else if frame.dst ≠ h.ctx.throwawayId then none
  else if frame.cmd = cmdDiscoverConfirm then
    some (handleKeyExtractionDiscoverConfirm now h frame)
  else if frame.cmd = cmdKeyInit then
    some (handleKeyExtractionKeyInit now candidateChallenge h frame)
  else if frame.cmd = cmdKeyTransfer then some (handleKeyExtractionKeyTransfer now h frame)
  else if frame.cmd = cmdAddressReq then some (handleKeyExtractionAddressReq now h frame)
  else if frame.cmd = cmdChallengeReq then
    some (handleKeyExtractionAddressChallenge now h frame)
  else none

/-- The frames a list of effects transmits. -/
def sentFrames (effects : List ResponderEffect) : List IoFrame :=
  effects.filterMap fun
    | .transmit frame _ _ => some frame
    | _ => none

/-- The results a list of effects prints. -/
def loggedResults (effects : List ResponderEffect) : List (NodeId × Block) :=
  effects.filterMap fun
    | .logResult hubNodeId recoveredKey => some (hubNodeId, recoveredKey)
    | _ => none

/-- A reply goes out once a channel. -/
def onEachChannel (resp : Option IoFrame) : List IoFrame := resp.elim [] fun r => [r, r, r]

@[simp] theorem sentFrames_broadcastReply (frame : IoFrame) :
    sentFrames (broadcastReply frame) = [frame, frame, frame] := rfl

@[simp] theorem loggedResults_broadcastReply (frame : IoFrame) :
    loggedResults (broadcastReply frame) = [] := rfl

/-- The frame is a key transfer that the responder takes the key from. -/
def TakesKey (ctx : ResponderContext) (frame : IoFrame) : Prop :=
  ctx.state = .sentChallenge ∧ frame.cmd = cmdKeyTransfer ∧ frame.dst = ctx.throwawayId ∧
    aesKeySize ≤ frame.dataLen

instance (ctx : ResponderContext) (frame : IoFrame) : Decidable (TakesKey ctx frame) :=
  inferInstanceAs (Decidable (_ ∧ _ ∧ _ ∧ _))

/-- The context after the key was taken from a transfer. -/
def withKey (ctx : ResponderContext) (frame : IoFrame) : ResponderContext :=
  { ctx with
    recoveredKey := recoverSystemKeyFromTransfer (payloadPrefix frame 16) ctx.challenge
    state := .extracted }

/-- Every way to answer one frame: the next context, the frames sent and the results printed. -/
inductive ResponderStep (candidateChallenge : Challenge) (frame : IoFrame)
    (ctx : ResponderContext) : ResponderContext → List IoFrame → List (NodeId × Block) → Prop where
  | silent : ResponderStep candidateChallenge frame ctx ctx [] []
  | discover (cmd : frame.cmd = cmdDiscoverReq)
      (state : ctx.state = .armedIdle ∨ ctx.state = .sentDiscoverResp ∨
        ctx.HasKey ∧ frame.src = ctx.hubNodeId) :
      ResponderStep candidateChallenge frame ctx { ctx with state := .sentDiscoverResp }
        (onEachChannel (createDiscoverResp ctx.throwawayId frame.src ctx.advertisedType
          ctx.advertisedSubtype keyExtractionManufacturerId)) []
  | confirm (cmd : frame.cmd = cmdDiscoverConfirm) (dst : frame.dst = ctx.throwawayId)
      (state : ctx.state = .sentDiscoverResp ∨ ctx.state = .sentConfirmAck) :
      ResponderStep candidateChallenge frame ctx { ctx with state := .sentConfirmAck }
        (onEachChannel (createDiscoverConfirmAck ctx.throwawayId frame.src)) []
  | keyInit (cmd : frame.cmd = cmdKeyInit) (dst : frame.dst = ctx.throwawayId)
      (state : ctx.state = .sentDiscoverResp ∨ ctx.state = .sentConfirmAck) :
      ResponderStep candidateChallenge frame ctx
        { ctx with
          challenge := candidateChallenge
          hubNodeId := frame.src
          state := .sentChallenge }
        (onEachChannel (createChallengeReqDeviceRole frame.src ctx.throwawayId
          candidateChallenge)) []
  | keyInitRetry (cmd : frame.cmd = cmdKeyInit) (dst : frame.dst = ctx.throwawayId)
      (state : ctx.state = .sentChallenge) :
      ResponderStep candidateChallenge frame ctx ctx
        (onEachChannel (createChallengeReqDeviceRole frame.src ctx.throwawayId ctx.challenge)) []
  | keyTransfer (takes : TakesKey ctx frame) :
      ResponderStep candidateChallenge frame ctx (withKey ctx frame)
        (onEachChannel (createKeyConfirm ctx.throwawayId frame.src))
        [(ctx.hubNodeId, (withKey ctx frame).recoveredKey)]
  | address (cmd : frame.cmd = cmdAddressReq) (dst : frame.dst = ctx.throwawayId)
      (state : ctx.HasKey) (src : frame.src = ctx.hubNodeId) :
      ResponderStep candidateChallenge frame ctx { ctx with state := .sentAddressResp }
        (onEachChannel (createAddressRespDeviceRole ctx.throwawayId frame.src)) []
  | addressChallenge (cmd : frame.cmd = cmdChallengeReq) (dst : frame.dst = ctx.throwawayId)
      (state : ctx.state = .sentAddressResp) (src : frame.src = ctx.hubNodeId) :
      ResponderStep candidateChallenge frame ctx ctx
        (onEachChannel (addressChallengeAnswer ctx frame)) []

section

variable {now : UInt32} {candidateChallenge : Challenge} {h : KeyExtraction} {frame : IoFrame}

/-- The step taken by a handler that returned the given state and effects. -/
private abbrev StepOf (candidateChallenge : Challenge) (h : KeyExtraction) (frame : IoFrame)
    (r : KeyExtraction × List ResponderEffect) : Prop :=
  ResponderStep candidateChallenge frame h.ctx r.1.ctx (sentFrames r.2) (loggedResults r.2)

private theorem replyAndHold_step {ctx : ResponderContext} {resp : Option IoFrame}
    (step : ResponderStep candidateChallenge frame h.ctx ctx (onEachChannel resp) []) :
    StepOf candidateChallenge h frame (replyAndHold now h ctx resp) := by
  cases resp with
  | none => exact step
  | some r => exact step

private theorem replyAndGrace_step {ctx : ResponderContext} {resp : Option IoFrame}
    (step : ResponderStep candidateChallenge frame h.ctx ctx (onEachChannel resp) []) :
    StepOf candidateChallenge h frame (replyAndGrace now h ctx resp) := by
  cases resp with
  | none => exact step
  | some r => exact step

private theorem discover_step (cmd : frame.cmd = cmdDiscoverReq) :
    StepOf candidateChallenge h frame (handleKeyExtractionDiscover now h frame) := by
  unfold handleKeyExtractionDiscover onDiscoverRequest
  split_ifs with hfresh hkey hother
  · apply replyAndHold_step
    apply ResponderStep.discover cmd
    rcases hfresh with hidle | hsent
    · exact .inl hidle
    · exact .inr (.inl hsent)
  · exact .silent
  · apply replyAndHold_step
    apply ResponderStep.discover cmd
    exact .inr (.inr ⟨hkey, not_not.mp hother⟩)
  · exact .silent

private theorem confirm_step (cmd : frame.cmd = cmdDiscoverConfirm)
    (dst : frame.dst = h.ctx.throwawayId) :
    StepOf candidateChallenge h frame (handleKeyExtractionDiscoverConfirm now h frame) := by
  unfold handleKeyExtractionDiscoverConfirm onDiscoverConfirm
  split_ifs with hstate
  · exact .silent
  · have hstate' : h.ctx.state = .sentDiscoverResp ∨ h.ctx.state = .sentConfirmAck := by
      by_contra hnot
      exact hstate (not_or.mp hnot)
    exact replyAndHold_step (.confirm cmd dst hstate')

private theorem keyInit_step (cmd : frame.cmd = cmdKeyInit)
    (dst : frame.dst = h.ctx.throwawayId) :
    StepOf candidateChallenge h frame
      (handleKeyExtractionKeyInit now candidateChallenge h frame) := by
  unfold handleKeyExtractionKeyInit onKeyInit
  split_ifs with hfirst hretry
  · exact replyAndHold_step (.keyInit cmd dst hfirst)
  · exact replyAndHold_step (.keyInitRetry cmd dst hretry)
  · exact .silent

private theorem sentFrames_confirmAndLog (resp : Option IoFrame) (hub : NodeId) (key : Block) :
    sentFrames (resp.elim [] broadcastReply ++ [.logResult hub key] ++
      [.scheduleGrace keyExtractionPostExtractGraceMs]) = onEachChannel resp := by
  cases resp with
  | none => rfl
  | some r => rfl

private theorem loggedResults_confirmAndLog (resp : Option IoFrame) (hub : NodeId)
    (key : Block) :
    loggedResults (resp.elim [] broadcastReply ++ [.logResult hub key] ++
      [.scheduleGrace keyExtractionPostExtractGraceMs]) = [(hub, key)] := by
  cases resp with
  | none => rfl
  | some r => rfl

private theorem keyTransfer_step (cmd : frame.cmd = cmdKeyTransfer)
    (dst : frame.dst = h.ctx.throwawayId) :
    StepOf candidateChallenge h frame (handleKeyExtractionKeyTransfer now h frame) := by
  unfold handleKeyExtractionKeyTransfer onKeyTransfer
  split_ifs with hshort hstate
  · exact .silent
  · exact .silent
  · have htakes : TakesKey h.ctx frame :=
      ⟨not_not.mp hstate, cmd, dst, Nat.le_of_not_lt hshort⟩
    have hstep : ResponderStep candidateChallenge frame h.ctx (withKey h.ctx frame)
        (onEachChannel (createKeyConfirm h.ctx.throwawayId frame.src))
        [(h.ctx.hubNodeId, (withKey h.ctx frame).recoveredKey)] := .keyTransfer htakes
    rw [← sentFrames_confirmAndLog, ← loggedResults_confirmAndLog] at hstep
    exact hstep

private theorem addressReq_step (cmd : frame.cmd = cmdAddressReq)
    (dst : frame.dst = h.ctx.throwawayId) :
    StepOf candidateChallenge h frame (handleKeyExtractionAddressReq now h frame) := by
  unfold handleKeyExtractionAddressReq onAddressReq
  split_ifs with hsrc hstate
  · exact .silent
  · exact .silent
  · have hkey : h.ctx.HasKey := by
      by_contra hnot
      exact hstate (not_or.mp hnot)
    exact replyAndGrace_step (.address cmd dst hkey (not_not.mp hsrc))

private theorem addressChallenge_step (cmd : frame.cmd = cmdChallengeReq)
    (dst : frame.dst = h.ctx.throwawayId) :
    StepOf candidateChallenge h frame (handleKeyExtractionAddressChallenge now h frame) := by
  unfold handleKeyExtractionAddressChallenge
  split_ifs with hsrc hshort hstate
  · exact .silent
  · exact .silent
  · exact .silent
  · have hsent : h.ctx.state = .sentAddressResp := by
      simpa [onAddressChallenge] using hstate
    exact replyAndGrace_step (.addressChallenge cmd dst hsent (not_not.mp hsrc))

/-- Whether a frame is the responder's does not depend on the clock or the drawn challenge. -/
theorem tryHandleKeyExtractionFrame_isNone (now now' : UInt32)
    (candidateChallenge candidateChallenge' : Challenge) (h : KeyExtraction) (frame : IoFrame) :
    (tryHandleKeyExtractionFrame now candidateChallenge h frame).isNone =
      (tryHandleKeyExtractionFrame now' candidateChallenge' h frame).isNone := by
  simp only [tryHandleKeyExtractionFrame, apply_ite Option.isNone, Option.isNone_none,
    Option.isNone_some]

/-- Every frame the responder handles is one of the steps. -/
theorem tryHandleKeyExtractionFrame_step {r : KeyExtraction × List ResponderEffect}
    (hr : tryHandleKeyExtractionFrame now candidateChallenge h frame = some r) :
    ResponderStep candidateChallenge frame h.ctx r.1.ctx (sentFrames r.2)
      (loggedResults r.2) := by
  unfold tryHandleKeyExtractionFrame at hr
  split_ifs at hr with _ hdiscover hdst hconfirm hinit htransfer haddress hchallenge
  · cases hr
    exact discover_step hdiscover
  · cases hr
    exact confirm_step hconfirm (not_not.mp hdst)
  · cases hr
    exact keyInit_step hinit (not_not.mp hdst)
  · cases hr
    exact keyTransfer_step htransfer (not_not.mp hdst)
  · cases hr
    exact addressReq_step haddress (not_not.mp hdst)
  · cases hr
    exact addressChallenge_step hchallenge (not_not.mp hdst)

/-- A frame that carries the key is answered, printed, and starts the grace window. -/
theorem tryHandleKeyExtractionFrame_of_takesKey (takes : TakesKey h.ctx frame) :
    tryHandleKeyExtractionFrame now candidateChallenge h frame =
      some (armPostExtractionGrace now (withKey h.ctx frame)
        (((createKeyConfirm h.ctx.throwawayId frame.src).elim [] broadcastReply) ++
          [.logResult h.ctx.hubNodeId (withKey h.ctx frame).recoveredKey])) := by
  obtain ⟨hstate, hcmd, hdst, hlen⟩ := takes
  have hr : tryHandleKeyExtractionFrame now candidateChallenge h frame =
      some (handleKeyExtractionKeyTransfer now h frame) := by
    simp [tryHandleKeyExtractionFrame, hstate, hcmd, hdst, cmdKeyTransfer, cmdDiscoverReq,
      cmdDiscoverConfirm, cmdKeyInit]
  have htaken : onKeyTransfer h.ctx (payloadPrefix frame 16) = some (withKey h.ctx frame) := by
    simp [onKeyTransfer, hstate, withKey]
  rw [hr, handleKeyExtractionKeyTransfer, if_neg (Nat.not_lt.mpr hlen), htaken]
  rfl

end

end HomeIoControl.PairingResponder
