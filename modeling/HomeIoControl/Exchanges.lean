import HomeIoControl.RadioLinks

/-!
# Authenticated exchanges

A request is sent until it is answered, at most a few times. The first answer may be a
challenge; the request is then authenticated and a final answer awaited. In the other
direction the hub challenges a device that speaks unprompted.
-/

namespace HomeIoControl.Exchanges

open TracedPrograms ProtocolFrames ProtocolCrypto ProtocolCommands RadioLinks

def exchangeRetryCount : ℕ := 3
def exchangeRetryDelayMs : UInt32 := 250
def scheduledPollMaxTries : ℕ := 1

inductive ExchangeFirstResponseDisposition where
  | ignoreUnrelated
  | completeDirect
  | requireAuth
  deriving DecidableEq, Repr

inductive ExchangeFinalResponseDisposition where
  | ignoreUnrelated
  | accept
  deriving DecidableEq, Repr

def frameMatchesNodes (frame : IoFrame) (expectedSrc expectedDst : NodeId) : Bool :=
  frame.src = expectedSrc ∧ frame.dst = expectedDst

/-- The answer goes between the endpoints of the request, the other way. -/
def frameMatchesExchangeEndpoints (request candidate : IoFrame) : Bool :=
  frameMatchesNodes candidate request.dst request.src

def classifyExchangeFirstResponse (request candidate : IoFrame) :
    ExchangeFirstResponseDisposition :=
  if frameMatchesExchangeEndpoints request candidate = false then .ignoreUnrelated
  else if candidate.cmd = cmdChallengeReq then .requireAuth
  else .completeDirect

def classifyExchangeFinalResponse (request candidate : IoFrame) :
    ExchangeFinalResponseDisposition :=
  if frameMatchesExchangeEndpoints request candidate then .accept else .ignoreUnrelated

/-- `retry_after_unconfirmed_accept_is_safe`: an execute moves something. -/
def retryAfterUnconfirmedAcceptIsSafe (cmd : UInt8) : Bool := cmd ≠ cmdExecute

/-- The exchange engine: the radio, the tunable parameters, and the hub's address and key. -/
structure ExchangeEngine (σ : Type) where
  radio : Radio σ
  tuning : TuningConfig
  nodeId : NodeId
  systemKey : Block

inductive ExchangeOutcome where
  | failed
  | successWithResponse
  | successUnconfirmed
  deriving DecidableEq, Repr

variable {σ : Type} (engine : ExchangeEngine σ)

/-- `request_preamble_for_`: only a start frame to a duty-cycled receiver needs the long one. -/
def requestPreambleFor (request : IoFrame) : UInt16 :=
  if isStart request = false then engine.radio.responsePreamble
  else if request.ctrl1 &&& ctrl1LowPower ≠ 0 then longPreamble
  else engine.tuning.normalStartPreamble

def firstResponseHandler (request : IoFrame) :
    ReplyHandler ExchangeFirstResponseDisposition :=
  fun disp parsed _ =>
    match parsed with
    | none => (disp, .ignore)
    | some frame =>
      let disp := classifyExchangeFirstResponse request frame
      (disp, if disp = .ignoreUnrelated then .ignore else .accept)

/-- `wait_for_first_response_`: the disposition and `ctx.rx`. -/
def waitForFirstResponse (request : IoFrame) (waitMs : UInt32) (rx : IoFrame) :
    RadioProg σ (ExchangeFirstResponseDisposition × IoFrame) := do
  let spec : ListenSpec := { windowMs := waitMs, policy := .holdRequestChannel }
  let listened ← listen engine.radio .firstResponse spec (firstResponseHandler request) rx
    .ignoreUnrelated
  if listened.outcome = .accepted then pure (listened.captured, listened.frame)
  else pure (.ignoreUnrelated, listened.frame)

/-- `handle_authentication_`: answer the challenge in `ctx.rx`. -/
def handleAuthentication (request : IoFrame) (freq : UInt32) (rx : IoFrame) :
    RadioProg σ Bool :=
  match createChallengeResp request.dst engine.nodeId (payloadPrefix rx 6) request
      engine.systemKey with
  | none => pure false
  | some authResp => transmitFrame engine.radio engine.tuning .exchangeAuth authResp freq
      engine.radio.responsePreamble

def finalResponseHandler (request : IoFrame) : ReplyHandler PUnit :=
  fun _ parsed _ =>
    match parsed with
    | none => (⟨⟩, .ignore)
    | some frame =>
      (⟨⟩, if classifyExchangeFinalResponse request frame = .accept then .accept else .ignore)

/-- `wait_for_final_response_`: the disposition and `ctx.rx`. -/
def waitForFinalResponse (request rx : IoFrame) :
    RadioProg σ (ExchangeFinalResponseDisposition × IoFrame) := do
  let spec : ListenSpec :=
    { windowMs := engine.tuning.exchangeResponseWaitMs.toUInt32, policy := .holdRequestChannel }
  let listened ← listen engine.radio .finalResponse spec (finalResponseHandler request) rx ⟨⟩
  if listened.outcome = .accepted then pure (.accept, listened.frame)
  else pure (.ignoreUnrelated, listened.frame)

/-- How one try ended: without an answer, with one, or authenticated but unanswered. -/
inductive TryResult where
  | notAnswered
  | answered (rx : IoFrame)
  | unconfirmed
  deriving DecidableEq

/-- One try of `send_and_receive`, from transmitting the request on. -/
def exchangeTry (request : IoFrame) (freq : UInt32) : RadioProg σ TryResult := do
  let waitMs := if isStart request then engine.tuning.exchangeStartResponseWaitMs
    else engine.tuning.exchangeResponseWaitMs
  let sent ← transmitFrame engine.radio engine.tuning .exchangeRequest request freq
    (requestPreambleFor engine request)
  if sent = false then pure .notAnswered
  else do
    let first ← waitForFirstResponse engine request waitMs.toUInt32
      (initFrame true false false false)
    match first.1 with
    | .ignoreUnrelated => pure .notAnswered
    | .completeDirect => pure (.answered first.2)
    | .requireAuth => do
      let authenticated ← handleAuthentication engine request freq first.2
      if authenticated = false then pure .notAnswered
      else do
        let final ← waitForFinalResponse engine request first.2
        if final.1 = .accept then pure (.answered final.2) else pure .unconfirmed

/-- What an exchange returns when no try was answered. -/
def unansweredOutcome (acceptedWithoutReply : Bool) : ExchangeOutcome :=
  if acceptedWithoutReply then .successUnconfirmed else .failed

/-- Before a retry: `false` when the exchange has no budget left for it. -/
def mayStartTry (exchangeBeginMs : UInt32) (tries : ℕ) : RadioProg σ Bool :=
  if tries = 0 then pure true
  else do
    let now ← ask engine.radio.millis
    if now - exchangeBeginMs ≥ engine.tuning.exchangeTotalBudgetMs.toUInt32 then pure false
    else do
      ask fun s => (PUnit.unit, engine.radio.delay exchangeRetryDelayMs s)
      pure true

/-- The retry loop of `send_and_receive`, with the tries left and the tries made. -/
def retryLoop (request : IoFrame) (freq exchangeBeginMs : UInt32) (response : IoFrame) :
    ℕ → ℕ → Bool → RadioProg σ (ExchangeOutcome × IoFrame)
  | 0, _, acceptedWithoutReply => pure (unansweredOutcome acceptedWithoutReply, response)
  | remaining + 1, tries, acceptedWithoutReply => do
    let started ← mayStartTry engine exchangeBeginMs tries
    if started = false then pure (unansweredOutcome acceptedWithoutReply, response)
    else do
      let result ← exchangeTry engine request freq
      match result with
      | .notAnswered =>
        retryLoop request freq exchangeBeginMs response remaining (tries + 1)
          acceptedWithoutReply
      | .answered rx => pure (.successWithResponse, rx)
      | .unconfirmed =>
        if retryAfterUnconfirmedAcceptIsSafe request.cmd then
          retryLoop request freq exchangeBeginMs response remaining (tries + 1) true
        else pure (.successUnconfirmed, response)

/-- The tries `send_and_receive` makes for a requested maximum. -/
def triesAllowed (maxTries : UInt8) : ℕ := max 1 (min maxTries.toNat exchangeRetryCount)

/-- `send_and_receive`: the outcome and the response out-parameter. -/
def sendAndReceive (request response : IoFrame) (freq : UInt32) (maxTries : UInt8) :
    RadioProg σ (ExchangeOutcome × IoFrame) := do
  let exchangeBeginMs ← ask engine.radio.millis
  retryLoop engine request freq exchangeBeginMs response (triesAllowed maxTries) 0 false

/-- `authenticate_request`: challenge the sender of a received frame. -/
def authenticateRequest (request : IoFrame) (freq : UInt32) : RadioProg σ Bool := do
  let challenge ← ask engine.radio.generateChallenge
  match createChallengeReq request.src engine.nodeId challenge with
  | none => pure false
  | some challengeFrame => do
    let sent ← transmitFrame engine.radio engine.tuning .inboundChallenge challengeFrame freq
      shortPreamble
    if sent = false then pure false
    else do
      let received ← ask
        (engine.radio.waitForPacket engine.tuning.exchangeResponseWaitMs.toUInt32)
      match received with
      | none => pure false
      | some packet =>
        match parse packet.data with
        | none => pure false
        | some rx =>
          pure (rx.cmd = cmdChallengeResp &&
            verifyHmac (request.cmd :: request.data) (payloadPrefix rx 6)
              (payloadPrefix challengeFrame 6) engine.systemKey)

end HomeIoControl.Exchanges
