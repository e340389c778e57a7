import HomeIoControl.HubRules

/-!
# What the hub's programs leave alone

Receiving and carrying out operations changes devices, polls and the responder. The queue and
the hub's standing stay as they are, and only one-way traffic moves what is remembered of it.
-/

namespace HomeIoControl.HubFrames

open TracedPrograms ProtocolFrames ProtocolCodecs DeviceModels DeviceRegistries DeviceRequests
  PendingOperations StatusPolls PairingResponder RadioLinks Exchanges HubStatus HubOperations
  HubLoop HubRules

/-- The second hub differs at most in its devices, polls and responder. -/
structure Untouched (hub hub' : Hub) : Prop where
  nodeId : hub'.nodeId = hub.nodeId
  initialized : hub'.initialized = hub.initialized
  radioTestMode : hub'.radioTestMode = hub.radioTestMode
  opQueue : hub'.opQueue = hub.opQueue
  oneWay : hub'.oneWay = hub.oneWay

namespace Untouched

variable {hub hub₁ hub₂ : Hub}

theorem refl (hub : Hub) : Untouched hub hub := ⟨rfl, rfl, rfl, rfl, rfl⟩

theorem trans (h : Untouched hub hub₁) (h' : Untouched hub₁ hub₂) : Untouched hub hub₂ where
  nodeId := h'.nodeId.trans h.nodeId
  initialized := h'.initialized.trans h.initialized
  radioTestMode := h'.radioTestMode.trans h.radioTestMode
  opQueue := h'.opQueue.trans h.opQueue
  oneWay := h'.oneWay.trans h.oneWay

end Untouched

section

variable {σ ε : Type}

section

variable (ports : ReceivePorts σ ε)

/-- The key under which a one-way frame heard at a time counts as a repeat. -/
def dedupState (frame : IoFrame) (now : UInt32) : OneWayDedupState :=
  let info := decode1wFrame frame
  ⟨nodeIdToString frame.src, frame.cmd, info.hasIntent, info.main0, info.main1, now⟩

/-- The frame repeats the last processed one-way frame. -/
def isRepeat (hub : Hub) (frame : IoFrame) (now : UInt32) : Bool :=
  isDuplicate1wFrame hub.oneWay.last1wLogged (dedupState frame now) onewayDedupWindowMs

/-- The bookkeeping that every one-way frame causes, repeat or not. -/
def noteOneWay (frame : IoFrame) (now : UInt32) (hub : Hub) : Hub :=
  ((hub.record1wActivity now).recordOnewayObservedClass (decode1wFrame frame)).tryAdoptOnewayKey
    frame

/-- What is remembered of one-way traffic after a one-way frame. -/
def overhear (frame : IoFrame) (now : UInt32) (hub : Hub) : Hub :=
  let noted := noteOneWay frame now hub
  if isRepeat hub frame now then noted
  else { noted with oneWay := { noted.oneWay with last1wLogged := dedupState frame now } }

/-- The second hub remembers of one-way traffic what the first does, but for key adoption. -/
structure SameTraffic (hub hub' : Hub) : Prop where
  first1wActivityMs : hub'.oneWay.first1wActivityMs = hub.oneWay.first1wActivityMs
  last1wActivityMs : hub'.oneWay.last1wActivityMs = hub.oneWay.last1wActivityMs
  last1wLogged : hub'.oneWay.last1wLogged = hub.oneWay.last1wLogged

theorem noteOneWay_sameTraffic (frame : IoFrame) (now : UInt32) (hub : Hub) :
    SameTraffic (hub.record1wActivity now) (noteOneWay frame now hub) := by
  unfold noteOneWay Hub.recordOnewayObservedClass Hub.tryAdoptOnewayKey
  split_ifs
  · exact ⟨rfl, rfl, rfl⟩
  · split <;> exact ⟨rfl, rfl, rfl⟩
  · exact ⟨rfl, rfl, rfl⟩
  · split <;> exact ⟨rfl, rfl, rfl⟩

theorem noteOneWay_eq (frame : IoFrame) (now : UInt32) (hub : Hub) :
    noteOneWay frame now hub = { hub with oneWay := (noteOneWay frame now hub).oneWay } := by
  unfold noteOneWay Hub.recordOnewayObservedClass Hub.tryAdoptOnewayKey
  split_ifs
  · rfl
  · split <;> rfl
  · rfl
  · split <;> rfl

theorem overhear_eq (frame : IoFrame) (now : UInt32) (hub : Hub) :
    overhear frame now hub = { hub with oneWay := (overhear frame now hub).oneWay } := by
  have hnoted := noteOneWay_eq frame now hub
  unfold overhear
  split_ifs
  · exact hnoted
  · rw [hnoted]

theorem overhear_first1w (frame : IoFrame) (now : UInt32) (hub : Hub) :
    (overhear frame now hub).oneWay.first1wActivityMs =
      if onewayBurstStartedFresh hub.oneWay.last1wActivityMs now onewayQuietPeriodMs then now
      else hub.oneWay.first1wActivityMs := by
  have hnoted := (noteOneWay_sameTraffic frame now hub).first1wActivityMs
  by_cases hrepeat : isRepeat hub frame now = true
  · rw [overhear, if_pos hrepeat]
    exact hnoted
  · rw [overhear, if_neg hrepeat]
    exact hnoted

theorem overhear_last1wLogged (frame : IoFrame) (now : UInt32) (hub : Hub) :
    (overhear frame now hub).oneWay.last1wLogged =
      if isRepeat hub frame now then hub.oneWay.last1wLogged else dedupState frame now := by
  unfold overhear
  split_ifs
  · exact (noteOneWay_sameTraffic frame now hub).last1wLogged
  · rfl

/-- A repeat is noted and goes no further. -/
theorem processOneWayFrame_eq (frame : IoFrame) (hub : Hub) :
    processOneWayFrame ports frame hub = ports.millis >>= fun now =>
      if isRepeat hub frame now then pure (overhear frame now hub)
      else followOneWayFrame ports (decode1wFrame frame) (nodeIdToString frame.src)
        (overhear frame now hub) := by
  unfold processOneWayFrame
  refine congrArg (ports.millis >>= ·) (funext fun now => ?_)
  have hlogged := (noteOneWay_sameTraffic frame now hub).last1wLogged
  change (if isDuplicate1wFrame (noteOneWay frame now hub).oneWay.last1wLogged
      (dedupState frame now) onewayDedupWindowMs then pure (noteOneWay frame now hub) else _) = _
  rw [hlogged]
  by_cases hrepeat : isRepeat hub frame now = true
  · rw [if_pos hrepeat, overhear, if_pos hrepeat]
    exact if_pos hrepeat
  · rw [if_neg hrepeat, overhear, if_neg hrepeat]
    exact if_neg hrepeat

/-- The frame of a packet, if it goes the way of the one-way frames. -/
def oneWayFrame (hub : Hub) (packet : RadioRxPacket) : Option IoFrame :=
  (parse packet.data).filter fun frame =>
    !isForResponder hub frame && !HubStatus.isExchangeInternalCommand frame.cmd && is1w frame

theorem processReceivedPacket_oneWay {packet : RadioRxPacket} {hub : Hub} {frame : IoFrame}
    (h : oneWayFrame hub packet = some frame) (w : World σ ε) :
    processReceivedPacket ports packet hub w = processOneWayFrame ports frame hub w := by
  obtain ⟨hparse, hkind⟩ := Option.filter_eq_some_iff.mp h
  simp only [Bool.and_eq_true, Bool.not_eq_true'] at hkind
  obtain ⟨⟨hresponder, hinternal⟩, honeway⟩ := hkind
  unfold processReceivedPacket
  rw [hparse]
  dsimp only
  rw [bind_apply, tryHandleKeyExtraction_other ports hresponder]
  change processFrame ports frame packet.freqHz hub w = _
  unfold processFrame
  rw [if_neg (by simp [hinternal]), if_pos honeway]

end

section

variable {ports : ReceivePorts σ ε} {inv : World σ ε → Prop} (kept : PortsKeep inv ports)

include kept

theorem updateDeviceStatus_untouched (frame : IoFrame) (trustPosition : Bool) (hub : Hub) :
    Keeps inv (updateDeviceStatus ports frame trustPosition hub) (Untouched hub) := by
  unfold updateDeviceStatus
  dsimp only
  split
  · exact Keeps.pure (Untouched.refl hub)
  · refine kept.millis.skip fun now => kept.lastRssi.skip fun rssi => ?_
    refine Keeps.ite (fun _ => Keeps.ite (fun _ => ?_) fun _ => ?_) fun _ => ?_
    · exact Keeps.pure ⟨rfl, rfl, rfl, rfl, rfl⟩
    · exact kept.millis.skip fun now => Keeps.pure ⟨rfl, rfl, rfl, rfl, rfl⟩
    refine Keeps.ite (fun _ => Keeps.ite (fun _ => ?_) fun _ => ?_) fun _ => ?_
    · exact Keeps.pure ⟨rfl, rfl, rfl, rfl, rfl⟩
    · exact kept.millis.skip fun now => Keeps.pure ⟨rfl, rfl, rfl, rfl, rfl⟩
    refine Keeps.ite (fun _ => Keeps.pure ⟨rfl, rfl, rfl, rfl, rfl⟩) fun _ => ?_
    refine Keeps.ite (fun _ => Keeps.pure ⟨rfl, rfl, rfl, rfl, rfl⟩) fun _ => ?_
    refine Keeps.ite (fun _ => kept.millis.skip fun now => ?_) fun _ => ?_
    · exact Keeps.pure ⟨rfl, rfl, rfl, rfl, rfl⟩
    · exact Keeps.pure ⟨rfl, rfl, rfl, rfl, rfl⟩

theorem beginStatusPollTracking_untouched (deviceId : String) (initialDelayMs : UInt32)
    (hub : Hub) :
    Keeps inv (beginStatusPollTracking ports deviceId initialDelayMs hub) (Untouched hub) := by
  unfold beginStatusPollTracking
  refine Keeps.ite (fun _ => Keeps.pure (Untouched.refl hub)) fun _ => ?_
  exact kept.millis.skip fun now => Keeps.pure ⟨rfl, rfl, rfl, rfl, rfl⟩

theorem scheduleDevicePolls_untouched (delayMs : UInt32) (deviceIds : List String) (hub : Hub) :
    Keeps inv (scheduleDevicePolls ports delayMs deviceIds hub) (Untouched hub) := by
  refine scheduleDevicePolls_rule (fun hub₁ deviceId h₁ => ?_) deviceIds (Untouched.refl hub)
  refine (beginStatusPollTracking_untouched kept deviceId 0 hub₁).weaken fun hub₂ h₂ => ?_
  exact (h₁.trans h₂).trans ⟨rfl, rfl, rfl, rfl, rfl⟩

/-- A frame that is no one-way frame leaves the hub's standing alone. -/
theorem processFrame_untouched {frame : IoFrame} (h : is1w frame = false) (freqHz : UInt32)
    (hub : Hub) : Keeps inv (processFrame ports frame freqHz hub) (Untouched hub) := by
  refine processFrame_rule kept frame freqHz (Untouched.refl hub) (fun honeway => ?_)
    (updateDeviceStatus_untouched kept frame true hub)
    fun _ _ => scheduleDevicePolls_untouched kept _ _ hub
  rw [h] at honeway
  cases honeway

theorem processReceivedPacket_other {packet : RadioRxPacket} {hub : Hub}
    (h : oneWayFrame hub packet = none) :
    Keeps inv (processReceivedPacket ports packet hub) (Untouched hub) := by
  refine processReceivedPacket_rule kept packet (Untouched.refl hub)
    (fun _ _ => ⟨rfl, rfl, rfl, rfl, rfl⟩) fun frame hparse hresponder => ?_
  by_cases hinternal : HubStatus.isExchangeInternalCommand frame.cmd = true
  · unfold processFrame
    rw [if_pos hinternal]
    exact Keeps.pure (Untouched.refl hub)
  · have htwoWay : is1w frame = false := by
      have hkind := Option.filter_eq_none_iff.mp h frame hparse
      simpa [hresponder, hinternal] using hkind
    exact processFrame_untouched kept htwoWay packet.freqHz hub

end

theorem followOneWayFrame_untouched {ports : ReceivePorts σ ε} {inv : World σ ε → Prop}
    (kept : PortsReport inv ports) (info : OneWayFrameInfo) (srcId : String) (hub : Hub) :
    Keeps inv (followOneWayFrame ports info srcId hub) (Untouched hub) := by
  refine followOneWayFrame_rule kept info srcId fun delayMs => ?_
  exact (scheduleDevicePolls_untouched kept.toPortsKeep delayMs _ _).weaken fun _ h =>
    ⟨h.nodeId, h.initialized, h.radioTestMode, h.opQueue, h.oneWay⟩

theorem processOneWayFrame_overhears (ports : ReceivePorts σ ε) (frame : IoFrame) (hub : Hub)
    (w : World σ ε) :
    Untouched (overhear frame (ports.millis w).1 hub) (processOneWayFrame ports frame hub w).1 := by
  rw [processOneWayFrame_eq, bind_apply]
  by_cases hrepeat : isRepeat hub frame (ports.millis w).1 = true
  · rw [if_pos hrepeat]
    exact Untouched.refl _
  · rw [if_neg hrepeat]
    exact (followOneWayFrame_untouched (portsReport_true ports) _ _ _ _ trivial).1

theorem processOneWayFrame_keeps {ports : ReceivePorts σ ε} {inv : World σ ε → Prop}
    (kept : PortsReport inv ports) (frame : IoFrame) (hub : Hub) :
    Keeps inv (processOneWayFrame ports frame hub) fun _ => True := by
  rw [processOneWayFrame_eq]
  refine kept.millis.skip fun now => Keeps.ite (fun _ => Keeps.pure trivial) fun _ => ?_
  exact (followOneWayFrame_untouched kept _ _ _).weaken fun _ _ => trivial

/-- Receiving keeps what asking the ports keeps. -/
theorem processReceivedPacket_keeps {ports : ReceivePorts σ ε} {inv : World σ ε → Prop}
    (kept : PortsReport inv ports) (packet : RadioRxPacket) (hub : Hub) :
    Keeps inv (processReceivedPacket ports packet hub) fun _ => True := by
  have hupdate := updateDeviceStatus_untouched kept.toPortsKeep
  have hpolls := scheduleDevicePolls_untouched kept.toPortsKeep
  refine processReceivedPacket_rule kept.toPortsKeep packet trivial (fun _ _ => trivial)
    fun frame _ _ => ?_
  exact processFrame_rule kept.toPortsKeep frame packet.freqHz trivial
    (fun _ => processOneWayFrame_keeps kept frame hub)
    ((hupdate frame true hub).weaken fun _ _ => trivial)
    fun delayMs deviceIds => (hpolls delayMs deviceIds hub).weaken fun _ _ => trivial

/-- The gate only reads the clock. -/
theorem deferBackgroundPoll_keeps {ports : HubPorts σ ε} {inv : World σ ε → Prop}
    (kept : PortsKeep inv ports.toReceivePorts) (hub : Hub) :
    Keeps inv (deferBackgroundPoll ports hub) fun _ => True := by
  have hresponder : Keeps inv (responderHoldsPoll ports hub) fun _ => True := by
    refine Keeps.ite (fun _ => ?_) fun _ => Keeps.pure trivial
    refine Keeps.ite (fun _ => Keeps.pure trivial) fun _ => ?_
    exact kept.millis.skip fun now => Keeps.pure trivial
  unfold deferBackgroundPoll
  refine hresponder.skip fun held => ?_
  refine Keeps.ite (fun _ => Keeps.pure trivial) fun _ => ?_
  exact kept.millis.skip fun now => Keeps.pure trivial

section

variable {ports : HubPorts σ ε} {inv : World σ ε → Prop}
  (kept : PortsKeep inv ports.toReceivePorts)

theorem clearStreaksIfScheduled_untouched (retryAfterFailMs : UInt32) (deviceId : String)
    (hub : Hub) : Untouched hub (clearStreaksIfScheduled retryAfterFailMs deviceId hub) := by
  unfold clearStreaksIfScheduled
  split_ifs <;> exact ⟨rfl, rfl, rfl, rfl, rfl⟩

include kept

theorem scheduleBackgroundPollBackoff_untouched (deviceId : String) (authLike : Bool)
    (hub : Hub) :
    Keeps inv (scheduleBackgroundPollBackoff ports deviceId authLike hub) (Untouched hub) :=
  kept.millis.skip fun _ => Keeps.pure ⟨rfl, rfl, rfl, rfl, rfl⟩

theorem backOffIfScheduled_untouched (retryAfterFailMs : UInt32) (deviceId : String)
    (authLike : Bool) (hub : Hub) :
    Keeps inv (backOffIfScheduled ports retryAfterFailMs deviceId authLike hub)
      (Untouched hub) := by
  refine Keeps.ite (fun _ => ?_) fun _ => Keeps.pure (Untouched.refl hub)
  exact scheduleBackgroundPollBackoff_untouched kept deviceId authLike hub

theorem stampLinkHealth_untouched (deviceId : String) (hub : Hub) :
    Keeps inv (stampLinkHealth ports deviceId hub) (Untouched hub) := by
  refine Keeps.ite (fun _ => Keeps.pure (Untouched.refl hub)) fun _ => ?_
  exact kept.millis.skip fun _ => kept.lastRssi.skip fun _ =>
    Keeps.pure ⟨rfl, rfl, rfl, rfl, rfl⟩

theorem recordRefusal_untouched (deviceId : String) (response : IoFrame) (hub : Hub) :
    Keeps inv (recordRefusal ports deviceId response hub) (Untouched hub) := by
  refine Keeps.ite (fun _ => Keeps.pure (Untouched.refl hub)) fun _ => ?_
  exact kept.millis.skip fun _ => Keeps.pure ⟨rfl, rfl, rfl, rfl, rfl⟩

private theorem requestFailed_untouched (deviceId : String) (retryAfterFailMs : UInt32)
    (report : ExchangeReport) (hub : Hub) :
    Keeps inv (requestFailed ports deviceId retryAfterFailMs report hub) fun result =>
      Untouched hub result.hub := by
  refine Keeps.bind (backOffIfScheduled_untouched kept retryAfterFailMs deviceId
    report.sawChallenge _) fun hub₁ h => Keeps.pure ?_
  exact ⟨h.nodeId, h.initialized, h.radioTestMode, h.opQueue, h.oneWay⟩

private theorem requestUnconfirmed_untouched (deviceId : String) (retryAfterFailMs : UInt32)
    (report : ExchangeReport) (hub : Hub) :
    Keeps inv (requestUnconfirmed ports deviceId retryAfterFailMs report hub) fun result =>
      Untouched hub result.hub := by
  refine Keeps.bind (stampLinkHealth_untouched kept deviceId _) fun hub₁ h => Keeps.pure ?_
  exact (clearStreaksIfScheduled_untouched retryAfterFailMs deviceId hub).trans h

private theorem handleErrorResponse_untouched (deviceId : String) (retryAfterFailMs : UInt32)
    (report : ExchangeReport) (hub : Hub) :
    Keeps inv (handleErrorResponse ports deviceId retryAfterFailMs report hub) fun result =>
      Untouched hub result.hub := by
  refine Keeps.bind (stampLinkHealth_untouched kept deviceId hub) fun hub₁ h₁ => ?_
  refine Keeps.bind (recordRefusal_untouched kept deviceId report.response hub₁)
    fun hub₂ h₂ => ?_
  refine Keeps.bind (backOffIfScheduled_untouched kept retryAfterFailMs deviceId
    report.sawChallenge hub₂) fun hub₃ h₃ => Keeps.pure ?_
  exact (h₁.trans h₂).trans h₃

private theorem requestAnswered_untouched (deviceId : String) (request : IoFrame)
    (retryAfterFailMs : UInt32) (report : ExchangeReport) (hub : Hub) :
    Keeps inv (requestAnswered ports deviceId request retryAfterFailMs report hub) fun result =>
      Untouched hub result.hub := by
  refine Keeps.bind (updateDeviceStatus_untouched kept report.response _ _)
    fun hub₁ h => Keeps.pure ?_
  exact (clearStreaksIfScheduled_untouched retryAfterFailMs deviceId hub).trans h

/-- What a request does with the report of its exchange. -/
def finishRequest (ports : HubPorts σ ε) (deviceId : String) (request : IoFrame)
    (retryAfterFailMs : UInt32) (report : ExchangeReport) (hub : Hub) :
    Prog σ ε RequestResult :=
  match report.outcome with
  | .failed => requestFailed ports deviceId retryAfterFailMs report hub
  | .successUnconfirmed =>
    if request.cmd = cmdExecute then
      requestUnconfirmed ports deviceId retryAfterFailMs report hub
    else requestFailed ports deviceId retryAfterFailMs report hub
  | .successWithResponse =>
    if report.response.cmd = cmdErrorResp then
      handleErrorResponse ports deviceId retryAfterFailMs report hub
    else requestAnswered ports deviceId request retryAfterFailMs report hub

omit kept in
theorem executeRequestAndUpdate_eq (ports : HubPorts σ ε) (deviceId : String) (request : IoFrame)
    (retryAfterFailMs : UInt32) (maxTries : UInt8) (hub : Hub) :
    executeRequestAndUpdate ports deviceId request retryAfterFailMs maxTries hub =
      ports.sendAndReceive request freqCh2 maxTries >>= fun report =>
        finishRequest ports deviceId request retryAfterFailMs report hub := rfl

theorem finishRequest_untouched (deviceId : String) (request : IoFrame)
    (retryAfterFailMs : UInt32) (report : ExchangeReport) (hub : Hub) :
    Keeps inv (finishRequest ports deviceId request retryAfterFailMs report hub)
      fun result => Untouched hub result.hub := by
  unfold finishRequest
  cases report.outcome with
  | failed => exact requestFailed_untouched kept deviceId retryAfterFailMs report hub
  | successUnconfirmed =>
    refine Keeps.ite (fun _ => ?_) fun _ => ?_
    · exact requestUnconfirmed_untouched kept deviceId retryAfterFailMs report hub
    · exact requestFailed_untouched kept deviceId retryAfterFailMs report hub
  | successWithResponse =>
    refine Keeps.ite (fun _ => ?_) fun _ => ?_
    · exact handleErrorResponse_untouched kept deviceId retryAfterFailMs report hub
    · exact requestAnswered_untouched kept deviceId request retryAfterFailMs report hub

theorem armExecuteConfirmationPoll_untouched (deviceId : String) (forStop : Bool) (hub : Hub) :
    Keeps inv (armExecuteConfirmationPoll ports deviceId forStop hub) (Untouched hub) := by
  refine Keeps.bind (beginStatusPollTracking_untouched kept deviceId _ hub) fun hub₁ h => ?_
  refine Keeps.ite (fun _ => Keeps.pure h) fun _ => kept.millis.skip fun now => ?_
  apply Keeps.pure
  split_ifs
  · exact h.trans ⟨rfl, rfl, rfl, rfl, rfl⟩
  · exact h

/-- What a command does with the result of its request. -/
def finishCommand (ports : HubPorts σ ε) (deviceId : String) (settleAsStop : Bool)
    (result : RequestResult) : Prog σ ε (Bool × Hub) :=
  if result.accepted then do
    let hub ← armExecuteConfirmationPoll ports deviceId settleAsStop result.hub
    pure (true, hub)
  else do
    let hub ← scheduleBackgroundPollBackoff ports deviceId result.sawChallenge result.hub
    pure (false, hub)

omit kept in
theorem sendCommand_eq (ports : HubPorts σ ε) (deviceId : String) (settleAsStop : Bool)
    (request : IoFrame) (hub : Hub) :
    sendCommand ports deviceId settleAsStop request hub =
      executeRequestAndUpdate ports deviceId request 0 (UInt8.ofNat exchangeRetryCount) hub >>=
        finishCommand ports deviceId settleAsStop := rfl

theorem finishCommand_untouched (deviceId : String) (settleAsStop : Bool)
    (result : RequestResult) :
    Keeps inv (finishCommand ports deviceId settleAsStop result) fun result' =>
      Untouched result.hub result'.2 := by
  refine Keeps.ite (fun _ => ?_) fun _ => ?_
  · exact Keeps.bind (armExecuteConfirmationPoll_untouched kept deviceId settleAsStop _)
      fun hub₁ h => Keeps.pure h
  · exact Keeps.bind (scheduleBackgroundPollBackoff_untouched kept deviceId _ _)
      fun hub₁ h => Keeps.pure h

end

variable (ports : HubPorts σ ε)

theorem executeRequestAndUpdate_untouched (deviceId : String) (request : IoFrame)
    (retryAfterFailMs : UInt32) (maxTries : UInt8) (hub : Hub) :
    Returns (executeRequestAndUpdate ports deviceId request retryAfterFailMs maxTries hub)
      fun result => Untouched hub result.hub := by
  rw [executeRequestAndUpdate_eq]
  refine Returns.skip fun report => ?_
  exact (finishRequest_untouched (portsKeep_true _) deviceId request retryAfterFailMs report
    hub).returns

private theorem sendCommand_untouched (deviceId : String) (settleAsStop : Bool)
    (request : IoFrame) (hub : Hub) :
    Returns (sendCommand ports deviceId settleAsStop request hub) fun result =>
      Untouched hub result.2 := by
  rw [sendCommand_eq]
  refine Returns.bind (executeRequestAndUpdate_untouched ports deviceId request 0 _ hub)
    fun result h => ?_
  exact (finishCommand_untouched (portsKeep_true _) deviceId settleAsStop result).returns.weaken
    fun _ h' => h.trans h'

theorem tryExecuteOperation_untouched (deviceId : String) (spec : ExecuteSpec) (hub : Hub) :
    Returns (tryExecuteOperation ports deviceId spec hub) fun result =>
      Untouched hub result.2 := by
  unfold tryExecuteOperation
  split
  · exact Returns.pure (Untouched.refl hub)
  · refine Returns.ite (fun _ => Returns.pure (Untouched.refl hub)) fun _ => ?_
    refine Returns.bind
      (beginStatusPollTracking_untouched (portsKeep_true _) deviceId _ hub).returns
      fun hub₁ h => ?_
    split
    · exact Returns.pure (h.trans ⟨rfl, rfl, rfl, rfl, rfl⟩)
    · exact (sendCommand_untouched ports deviceId _ _ hub₁).weaken fun _ h' => h.trans h'

theorem runExecuteOperation_untouched (deviceId : String) (spec : ExecuteSpec) (hub : Hub) :
    Returns (runExecuteOperation ports deviceId spec hub) fun result =>
      Untouched hub result.2 := by
  refine Returns.bind (tryExecuteOperation_untouched ports deviceId spec hub)
    fun result h => Returns.pure ?_
  split_ifs
  · exact h
  · exact h.trans ⟨rfl, rfl, rfl, rfl, rfl⟩

theorem setDevicePosition_untouched (deviceId : String) (position : UInt8) (hub : Hub) :
    Returns (setDevicePosition ports deviceId position hub) fun result =>
      Untouched hub result.2 := by
  refine Returns.ite (fun _ => Returns.pure (Untouched.refl hub)) fun _ => ?_
  exact runExecuteOperation_untouched ports deviceId (positionSpec position) hub

theorem setEntityPosition_untouched (expected : DeviceCapabilityClass) (deviceId : String)
    (position : UInt8) (hub : Hub) :
    Returns (setEntityPosition ports expected deviceId position hub) fun result =>
      Untouched hub result.2 := by
  unfold setEntityPosition
  split
  · exact Returns.pure (Untouched.refl hub)
  · refine Returns.ite (fun _ => Returns.pure (Untouched.refl hub)) fun _ => ?_
    exact setDevicePosition_untouched ports deviceId position hub

theorem requestDeviceStatus_untouched (deviceId : String) (hub : Hub) :
    Returns (requestDeviceStatus ports deviceId hub) fun result => Untouched hub result.2 := by
  refine (requestDeviceStatus_rule (portsKeep_true _) deviceId (Untouched.refl hub) ?_).returns
  intro request retryAfterFailMs maxTries
  exact .of_returns (executeRequestAndUpdate_untouched ports deviceId request _ _ hub)

theorem requestDeviceName_untouched (deviceId : String) (hub : Hub) :
    Returns (requestDeviceName ports deviceId hub) fun result => Untouched hub result.2 := by
  have hkeeps : Keeps (fun _ => True) (requestDeviceName ports deviceId hub)
      fun result => Untouched hub result.2 :=
    requestDeviceName_rule deviceId (Untouched.refl hub) fun request _ _ =>
      .of_returns (executeRequestAndUpdate_untouched ports deviceId request _ _ hub)
  exact hkeeps.returns

theorem discoverAndPair_untouched (hub : Hub) :
    Returns (discoverAndPair ports hub) fun result => Untouched hub result.2 := by
  refine Returns.ite (fun _ => Returns.pure (Untouched.refl hub)) fun _ => ?_
  exact Returns.skip fun result => Returns.pure ⟨rfl, rfl, rfl, rfl, rfl⟩

private theorem ignoreResult_untouched {p : Prog σ ε (Bool × Hub)} {hub : Hub}
    (h : Returns p fun result => Untouched hub result.2) :
    Returns (ignoreResult p) (Untouched hub) :=
  Returns.bind h fun _ h' => Returns.pure h'

/-- An operation on the hub's own one-way controllers. -/
def isOneway : PendingOperationType → Bool
  | .onewayCommand => true
  | .onewayPosition => true
  | .onewayEnroll => true
  | .onewayUnenroll => true
  | _ => false

/-- A two-way operation leaves what is remembered of one-way traffic. -/
theorem dispatchOperation_untouched {op : PendingOperation} (h : isOneway op.type = false)
    (hub : Hub) : Returns (dispatchOperation ports op hub) (Untouched hub) := by
  unfold dispatchOperation
  cases htype : op.type with
  | setPosition => exact ignoreResult_untouched (setDevicePosition_untouched ports _ _ hub)
  | setTilt => exact ignoreResult_untouched (runExecuteOperation_untouched ports _ _ hub)
  | setPositionAndTilt =>
    exact ignoreResult_untouched (runExecuteOperation_untouched ports _ _ hub)
  | deviceCommand => exact ignoreResult_untouched (runExecuteOperation_untouched ports _ _ hub)
  | setLightState =>
    exact ignoreResult_untouched (setEntityPosition_untouched ports _ _ _ hub)
  | setLockState => exact ignoreResult_untouched (setEntityPosition_untouched ports _ _ _ hub)
  | setSwitchState =>
    exact ignoreResult_untouched (setEntityPosition_untouched ports _ _ _ hub)
  | onewayCommand => rw [htype] at h; cases h
  | onewayPosition => rw [htype] at h; cases h
  | onewayEnroll => rw [htype] at h; cases h
  | onewayUnenroll => rw [htype] at h; cases h
  | requestStatus => exact ignoreResult_untouched (requestDeviceStatus_untouched ports _ hub)
  | requestName => exact ignoreResult_untouched (requestDeviceName_untouched ports _ hub)
  | discoverAndPair => exact ignoreResult_untouched (discoverAndPair_untouched ports hub)

/-- The hub's own transmission counts as one-way activity, and is no press. -/
theorem executeOneway_returns (op : PendingOperation) (hub : Hub) :
    Returns (executeOneway ports op hub) fun hub' => ∃ now, hub' = hub.record1wActivity now :=
  Returns.skip fun _ => Returns.skip fun now => Returns.pure ⟨now, rfl⟩

/-- The second hub stands as the first does and remembers the same processed frame. -/
structure SameFooting (hub hub' : Hub) : Prop where
  initialized : hub'.initialized = hub.initialized
  radioTestMode : hub'.radioTestMode = hub.radioTestMode
  last1wLogged : hub'.oneWay.last1wLogged = hub.oneWay.last1wLogged

theorem SameFooting.trans {hub hub₁ hub₂ : Hub} (h : SameFooting hub hub₁)
    (h' : SameFooting hub₁ hub₂) : SameFooting hub hub₂ :=
  ⟨h'.initialized.trans h.initialized, h'.radioTestMode.trans h.radioTestMode,
    h'.last1wLogged.trans h.last1wLogged⟩

theorem Untouched.sameFooting {hub hub' : Hub} (h : Untouched hub hub') : SameFooting hub hub' :=
  ⟨h.initialized, h.radioTestMode, congrArg OneWayListening.last1wLogged h.oneWay⟩

theorem dispatchOperation_sameFooting (op : PendingOperation) (hub : Hub) :
    Returns (dispatchOperation ports op hub) (SameFooting hub) := by
  have hown : Returns (executeOneway ports op hub) (SameFooting hub) := by
    refine (executeOneway_returns ports op hub).weaken ?_
    rintro _ ⟨now, rfl⟩
    exact ⟨rfl, rfl, rfl⟩
  cases honeway : isOneway op.type with
  | false =>
    exact (dispatchOperation_untouched ports honeway hub).weaken fun _ h => h.sameFooting
  | true =>
    unfold dispatchOperation
    cases htype : op.type <;> first | exact hown | (rw [htype] at honeway; cases honeway)

theorem dispatch_sameFooting (hub : Hub) : Returns (dispatch ports hub) (SameFooting hub) := by
  refine Returns.skip fun deferred => ?_
  refine Returns.ite (fun _ => Returns.pure ⟨rfl, rfl, rfl⟩) fun _ => ?_
  unfold processPendingOperation
  split
  · exact Returns.pure ⟨rfl, rfl, rfl⟩
  · next opQueue op _ =>
    exact (dispatchOperation_sameFooting ports op { hub with opQueue }).weaken fun _ h =>
      ⟨h.initialized, h.radioTestMode, h.last1wLogged⟩

/-- A background poll at the front of the queue is no transmission of the hub's own. -/
theorem dispatch_oneWay {hub : Hub} (h : nextOpIsBackground hub = true) :
    Returns (dispatch ports hub) fun hub' => hub'.oneWay = hub.oneWay := by
  refine Returns.skip fun deferred => ?_
  refine Returns.ite (fun _ => Returns.pure rfl) fun _ => ?_
  unfold processPendingOperation
  split
  · exact Returns.pure rfl
  · next opQueue op hpop =>
    have hhead : hub.opQueue.ops.head? = some op := congrArg Prod.snd hpop
    have hbackground : op.isBackground = true := by
      rw [nextOpIsBackground, hhead] at h
      exact h
    have honeway : isOneway op.type = false := by
      unfold PendingOperation.isBackground at hbackground
      cases htype : op.type <;> rw [htype] at hbackground <;> first | rfl | cases hbackground
    exact (dispatchOperation_untouched ports honeway { hub with opQueue }).weaken fun _ h =>
      h.oneWay

/-- Queueing a due poll touches the queue and the schedule. -/
theorem queueDuePoll_eq (due : StatusPollPolicy UInt32 × Option String) (hub : Hub) :
    ∃ opQueue, queueDuePoll due hub = { hub with pollPolicy := due.1, opQueue := opQueue } := by
  unfold queueDuePoll
  split
  · exact ⟨hub.opQueue, rfl⟩
  · unfold queueRequestDeviceStatus queueGuarded
    split_ifs <;> exact ⟨_, rfl⟩

theorem pollDue_oneWay (hub : Hub) :
    Returns (pollDue ports hub) fun hub' => hub'.oneWay = hub.oneWay := by
  refine Returns.skip fun now => Returns.pure ?_
  obtain ⟨opQueue, h⟩ := queueDuePoll_eq (hub.pollPolicy.popDueDevice now) hub
  rw [h]

theorem pollDue_sameFooting (hub : Hub) : Returns (pollDue ports hub) (SameFooting hub) := by
  refine Returns.skip fun now => Returns.pure ?_
  obtain ⟨opQueue, h⟩ := queueDuePoll_eq (hub.pollPolicy.popDueDevice now) hub
  rw [h]
  exact ⟨rfl, rfl, rfl⟩

end

/-- The one-way frame that a pass would take to the repeat filter, and when. -/
def overheard (hub : Hub) (s : Surroundings) : Option (IoFrame × ℕ) :=
  (s.next.1.packet.bind (oneWayFrame hub)).map fun frame => (frame, s.next.2.next.2.time)

/-- What is remembered of one-way traffic after the first part of a pass. -/
def afterHearing (hub : Hub) (s : Surroundings) : Hub :=
  match overheard hub s with
  | none => hub
  | some (frame, time) => overhear frame (clockAt time) hub

theorem afterHearing_eq (hub : Hub) (s : Surroundings) :
    afterHearing hub s = { hub with oneWay := (afterHearing hub s).oneWay } := by
  unfold afterHearing
  cases overheard hub s with
  | none => rfl
  | some r => exact overhear_eq r.1 _ hub

theorem receive_silent {hub : Hub} {w : World Surroundings HubReport}
    (h : w.env.next.1.packet = none) :
    receive surroundingPorts hub w = (hub, ⟨w.env.next.2, w.log⟩) := by
  have hcheck : surroundingPorts.checkForPacket w = (none, ⟨w.env.next.2, w.log⟩) :=
    congrArg (·, _) h
  rw [receive, bind_apply, hcheck]
  rfl

theorem receive_packet {hub : Hub} {w : World Surroundings HubReport} {packet : RadioRxPacket}
    (h : w.env.next.1.packet = some packet) :
    receive surroundingPorts hub w =
      processReceivedPacket surroundingPorts.toReceivePorts packet hub
        ⟨w.env.next.2, w.log⟩ := by
  have hcheck : surroundingPorts.checkForPacket w =
      (some packet, ⟨w.env.next.2, w.log⟩) := congrArg (·, _) h
  rw [receive, bind_apply, hcheck]

/-- The hub after the first part of a pass, up to its devices, polls and responder. -/
theorem receive_afterHearing (hub : Hub) (w : World Surroundings HubReport) :
    Untouched (afterHearing hub w.env) (receive surroundingPorts hub w).1 := by
  unfold afterHearing overheard
  cases hpacket : w.env.next.1.packet with
  | none =>
    rw [receive_silent hpacket]
    exact Untouched.refl hub
  | some packet =>
    rw [receive_packet hpacket]
    dsimp only [Option.bind_some]
    cases hframe : oneWayFrame hub packet with
    | none =>
      exact (processReceivedPacket_other (portsKeep_true surroundingPorts.toReceivePorts)
        hframe).returns ⟨w.env.next.2, w.log⟩
    | some frame =>
      rw [processReceivedPacket_oneWay _ hframe]
      exact processOneWayFrame_overhears surroundingPorts.toReceivePorts frame hub
        ⟨w.env.next.2, w.log⟩

/-- Asking the surroundings keeps what the next answer keeps. -/
theorem consult_keeps {ε α : Type} {inv : World Surroundings ε → Prop}
    (next : ∀ w, inv w → inv ⟨w.env.next.2, w.log⟩) (f : Answer → ℕ → α) :
    Keeps inv (consult f : Prog Surroundings ε α) fun _ => True :=
  Keeps.ask next

/-- What the next answer keeps is kept but for what is reported. -/
theorem surroundings_keep {inv : World Surroundings HubReport → Prop}
    (next : ∀ w, inv w → inv ⟨w.env.next.2, w.log⟩) :
    PortsKeep inv surroundingPorts.toReceivePorts where
  millis := consult_keeps next _
  generateChallenge := consult_keeps next _
  lastRssi := consult_keeps next _
  transmitFrame _ _ _ _ := consult_keeps next _
  authenticateRequest _ _ := consult_keeps next _
  isConnected := consult_keeps next _

/-- A report leaves the surroundings alone. -/
theorem report_keeps {inv : Surroundings → Prop} (output : HubOutput) :
    Keeps (fun w => inv w.env) (report output) fun _ => True :=
  fun _ hw => ⟨trivial, hw⟩

theorem surroundings_report {inv : Surroundings → Prop} (next : ∀ s, inv s → inv s.next.2) :
    PortsReport (fun w => inv w.env) surroundingPorts.toReceivePorts where
  toPortsKeep := surroundings_keep fun w => next w.env
  log1wRemoteFrame _ _ := report_keeps _
  fireSenderEvent _ _ := report_keeps _

/-- Time only goes forward. -/
theorem after_next {start : ℕ} (s : Surroundings) (h : start ≤ s.time) : start ≤ s.next.2.time :=
  Nat.le_trans h s.time_le_next

theorem receive_forward (hub : Hub) (w : World Surroundings HubReport) :
    w.env.time ≤ (receive surroundingPorts hub w).2.env.time := by
  have hcheck : Keeps (fun w' => w.env.time ≤ w'.env.time) surroundingPorts.checkForPacket
      fun _ => True := consult_keeps (fun w' => after_next w'.env) _
  have hreceive : Keeps (fun w' => w.env.time ≤ w'.env.time) (receive surroundingPorts hub)
      fun _ => True := by
    unfold receive
    refine hcheck.skip fun packet => ?_
    cases packet with
    | none => exact Keeps.pure trivial
    | some packet => exact processReceivedPacket_keeps (surroundings_report after_next) packet hub
  exact (hreceive w (Nat.le_refl _)).2

/-- The hub runs: a pass of its loop does something. -/
def Running (hub : Hub) : Prop := hub.initialized = true ∧ hub.radioTestMode = false

instance (hub : Hub) : Decidable (Running hub) := inferInstanceAs (Decidable (_ ∧ _))

theorem loop_running {σ ε : Type} (ports : HubPorts σ ε) {hub : Hub} (h : Running hub) :
    loop ports hub = receive ports hub >>= fun hub => dispatch ports hub >>= pollDue ports := by
  unfold loop
  rw [if_neg (by simp [h.1, h.2])]

theorem loop_idle {σ ε : Type} (ports : HubPorts σ ε) {hub : Hub} (h : ¬ Running hub) :
    loop ports hub = pure hub := by
  unfold loop
  rw [if_pos]
  unfold Running at h
  cases hinit : hub.initialized <;> simp_all

/-- The one-way frame that an event takes to the repeat filter, and when. -/
def heard (s : HubState) (e : HubEvent) : Option (IoFrame × ℕ) :=
  match e.action with
  | .pass => if Running s.hub then overheard s.hub (e.surroundings s).env else none
  | .command _ => none
  | .remotePollFires _ => none

/-- A command may touch devices, the queue, the responder and key adoption. -/
structure Commanded (hub hub' : Hub) : Prop where
  initialized : hub'.initialized = hub.initialized
  radioTestMode : hub'.radioTestMode = hub.radioTestMode
  traffic : SameTraffic hub hub'

namespace Commanded

theorem refl (hub : Hub) : Commanded hub hub := ⟨rfl, rfl, ⟨rfl, rfl, rfl⟩⟩

/-- Changes of devices, of the queue and of pending timeouts disturb nothing. -/
theorem of_eq {hub hub' : Hub} (registry : DeviceRegistry) (opQueue : OperationQueue)
    (remotePolls : OrderedMaps.OrderedMap String UInt32)
    (h : hub' = { hub with registry, opQueue, remotePolls }) : Commanded hub hub' := by
  rw [h]
  exact ⟨rfl, rfl, ⟨rfl, rfl, rfl⟩⟩

end Commanded

theorem queueGuarded_eq (accepts : IoDevice → Bool) (deviceId : String)
    (enqueue : OperationQueue → OperationQueue) (hub : Hub) :
    ∃ opQueue, queueGuarded accepts deviceId enqueue hub = { hub with opQueue := opQueue } := by
  unfold queueGuarded
  split_ifs
  · exact ⟨hub.opQueue, rfl⟩
  · exact ⟨_, rfl⟩

theorem queueMovement_eq (accepts : IoDevice → Bool) (deviceId : String)
    (enqueue : OperationQueue → OperationQueue) (hub : Hub) :
    ∃ registry opQueue, queueMovement accepts deviceId enqueue hub =
      { hub with registry := registry, opQueue := opQueue } := by
  unfold queueMovement
  split_ifs
  · exact ⟨_, hub.opQueue, rfl⟩
  · exact ⟨hub.registry, _, rfl⟩

theorem queueDeviceCommand_eq (deviceId : String) (cmd : CoverCommand) (hub : Hub) :
    ∃ registry opQueue, queueDeviceCommand deviceId cmd hub =
      { hub with registry := registry, opQueue := opQueue } := by
  unfold queueDeviceCommand
  split_ifs
  · exact ⟨_, hub.opQueue, rfl⟩
  · exact ⟨hub.registry, _, rfl⟩

private theorem commanded_of_guarded (accepts : IoDevice → Bool) (deviceId : String)
    (enqueue : OperationQueue → OperationQueue) (hub : Hub) :
    Commanded hub (queueGuarded accepts deviceId enqueue hub) := by
  obtain ⟨opQueue, h⟩ := queueGuarded_eq accepts deviceId enqueue hub
  exact .of_eq hub.registry opQueue hub.remotePolls h

private theorem commanded_of_movement (accepts : IoDevice → Bool) (deviceId : String)
    (enqueue : OperationQueue → OperationQueue) (hub : Hub) (predicted : DeviceRegistry) :
    Commanded hub
      (queueMovement accepts deviceId enqueue { hub with registry := predicted }) := by
  obtain ⟨registry, opQueue, h⟩ := queueMovement_eq accepts deviceId enqueue
    { hub with registry := predicted }
  exact .of_eq registry opQueue hub.remotePolls h

/-- No command is one-way activity. -/
theorem obey_commanded (hub : Hub) (cmd : EntityCommand) : Commanded hub (obey hub cmd) := by
  cases cmd with
  | coverStop deviceId =>
    obtain ⟨registry, opQueue, h⟩ := queueDeviceCommand_eq deviceId .stop
      { hub with registry := (hub.registry.applyOptimisticStop deviceId).1 }
    exact .of_eq registry opQueue hub.remotePolls h
  | coverPosition deviceId position =>
    dsimp only [obey, queueSetDevicePosition]
    exact commanded_of_movement _ deviceId _ hub _
  | coverTilt deviceId tiltPercent =>
    dsimp only [obey, queueSetDeviceTilt]
    exact commanded_of_movement _ deviceId _ hub _
  | coverPositionAndTilt deviceId position tiltPercent =>
    dsimp only [obey, queueSetDevicePositionAndTilt]
    exact commanded_of_movement _ deviceId _ hub _
  | device deviceId cmd =>
    obtain ⟨registry, opQueue, h⟩ := queueDeviceCommand_eq deviceId cmd hub
    exact .of_eq registry opQueue hub.remotePolls h
  | lightPosition deviceId position =>
    dsimp only [obey, queueSetLightPosition]
    exact commanded_of_guarded _ deviceId _ hub
  | lightState deviceId on =>
    dsimp only [obey, queueSetLightState, queueSetLightPosition]
    exact commanded_of_guarded _ deviceId _ hub
  | lockState deviceId locked =>
    dsimp only [obey, queueSetLockState]
    exact commanded_of_guarded _ deviceId _ hub
  | switchState deviceId on =>
    dsimp only [obey, queueSetSwitchState]
    exact commanded_of_guarded _ deviceId _ hub
  | requestStatus deviceId =>
    dsimp only [obey, queueRequestDeviceStatus]
    exact commanded_of_guarded _ deviceId _ hub
  | requestName deviceId =>
    change Commanded hub (queueRequestDeviceName deviceId hub)
    unfold queueRequestDeviceName
    split_ifs <;> exact ⟨rfl, rfl, ⟨rfl, rfl, rfl⟩⟩
  | onewayCommand controllerId cmd => exact ⟨rfl, rfl, ⟨rfl, rfl, rfl⟩⟩
  | onewayPosition controllerId position => exact ⟨rfl, rfl, ⟨rfl, rfl, rfl⟩⟩
  | onewayEnroll controllerId => exact ⟨rfl, rfl, ⟨rfl, rfl, rfl⟩⟩
  | onewayUnenroll controllerId => exact ⟨rfl, rfl, ⟨rfl, rfl, rfl⟩⟩
  | discoverAndPair => exact ⟨rfl, rfl, ⟨rfl, rfl, rfl⟩⟩
  | armKeyExtraction throwawayId => exact ⟨rfl, rfl, ⟨rfl, rfl, rfl⟩⟩
  | disarmKeyExtraction => exact ⟨rfl, rfl, ⟨rfl, rfl, rfl⟩⟩
  | armOnewayKeyAdoption armed => exact ⟨rfl, rfl, ⟨rfl, rfl, rfl⟩⟩

theorem remotePollFires_commanded (deviceId : String) (hub : Hub) :
    Commanded hub (remotePollFires deviceId hub) := by
  unfold remotePollFires
  split_ifs
  · exact .refl hub
  · obtain ⟨opQueue, h⟩ := queueGuarded_eq knownDeviceSupportsStatusRequests deviceId
      (fun q => (q.enqueueRequestStatus deviceId).1)
      { hub with remotePolls := hub.remotePolls.erase deviceId }
    exact .of_eq hub.registry opQueue (hub.remotePolls.erase deviceId) h

/-- The hub and its surroundings at the gate of a pass. -/
def atGate (s : HubState) (e : HubEvent) : Hub × World Surroundings HubReport :=
  receive surroundingPorts s.hub (e.surroundings s)

/-- The rest of a pass leaves the hub's footing. -/
theorem hubStep_gate {s : HubState} {e : HubEvent} (hpass : e.action = .pass)
    (hrunning : Running s.hub) : SameFooting (atGate s e).1 (hubStep s e).hub := by
  have hrest : Returns (dispatch surroundingPorts (atGate s e).1 >>=
      pollDue surroundingPorts) (SameFooting (atGate s e).1) := by
    refine Returns.bind (dispatch_sameFooting _ _) fun hub₁ h₁ => ?_
    exact (pollDue_sameFooting _ hub₁).weaken fun _ h₂ => h₁.trans h₂
  unfold hubStep
  rw [hpass]
  dsimp only [act]
  rw [loop_running _ hrunning]
  exact hrest _

/-- Whether the hub runs does not change. -/
theorem hubStep_running (s : HubState) (e : HubEvent) (hrunning : Running s.hub) :
    Running (hubStep s e).hub := by
  cases haction : e.action with
  | command cmd =>
    have h := obey_commanded s.hub cmd
    unfold hubStep
    rw [haction]
    exact ⟨h.initialized.trans hrunning.1, h.radioTestMode.trans hrunning.2⟩
  | remotePollFires deviceId =>
    have h := remotePollFires_commanded deviceId s.hub
    unfold hubStep
    rw [haction]
    exact ⟨h.initialized.trans hrunning.1, h.radioTestMode.trans hrunning.2⟩
  | pass =>
    have hrest := hubStep_gate haction hrunning
    have hheard := receive_afterHearing s.hub (e.surroundings s)
    rw [afterHearing_eq] at hheard
    exact ⟨(hrest.initialized.trans hheard.initialized).trans hrunning.1,
      (hrest.radioTestMode.trans hheard.radioTestMode).trans hrunning.2⟩

/-- Whether the gate of a pass holds the front of the queue back. -/
def heldBack (s : HubState) (e : HubEvent) : Bool :=
  (deferBackgroundPoll surroundingPorts (atGate s e).1 (atGate s e).2).1

/-- A frame as the radio hands it over. -/
def onAir (frame : IoFrame) : RadioRxPacket :=
  ⟨freqCh2, ((serialize frame).getD []).take radioPacketBufferSize, List.length_take_le _ _⟩

/-- The frame of a one-way remote for all devices, with its main byte, the sequence number and
the authenticator left zero. -/
def remoteFrame (src : NodeId) (main : UInt8) : IoFrame :=
  let bare := initFrame false true true false
  (setCmd (setSrc (setDst bare ⟨0x00, 0x00, 0x3F⟩) src) cmdExecute
    ([0x01, 0x43, main] ++ List.replicate 11 0)).getD bare

/-- A pass that hears a remote. -/
def hearing (wait : ℕ) (src : NodeId) (main : UInt8) : HubEvent where
  wait := wait
  action := .pass
  answers := [{ packet := some (onAir (remoteFrame src main)) }]

end HomeIoControl.HubFrames
