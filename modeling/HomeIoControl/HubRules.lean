import HomeIoControl.HubLoop

/-!
# One rule for each program of the hub

What a program of the hub leaves, given what its parts leave. The rules hold for every property
of the hub and every invariant of the environment that asking the ports keeps, so that each
property is carried through the programs without another look into them.
-/

namespace HomeIoControl.HubRules

open TracedPrograms ProtocolFrames ProtocolCommands ProtocolCodecs DeviceModels DeviceRegistries
  DeviceRequests PairingResponder RadioLinks Exchanges HubStatus HubOperations

variable {σ ε : Type}

/-- Asking the ports keeps an invariant of the world. -/
structure PortsKeep (inv : World σ ε → Prop) (ports : ReceivePorts σ ε) : Prop where
  millis : Keeps inv ports.millis fun _ => True
  generateChallenge : Keeps inv ports.generateChallenge fun _ => True
  lastRssi : Keeps inv ports.lastRssi fun _ => True
  transmitFrame : ∀ site frame freq preamble,
    Keeps inv (ports.transmitFrame site frame freq preamble) fun _ => True
  authenticateRequest : ∀ frame freq,
    Keeps inv (ports.authenticateRequest frame freq) fun _ => True
  isConnected : Keeps inv ports.isConnected fun _ => True

/-- And so does what is logged and fired of a one-way sender. -/
structure PortsReport (inv : World σ ε → Prop) (ports : ReceivePorts σ ε) : Prop
    extends PortsKeep inv ports where
  log1wRemoteFrame : ∀ info linked, Keeps inv (ports.log1wRemoteFrame info linked) fun _ => True
  fireSenderEvent : ∀ info linked, Keeps inv (ports.fireSenderEvent info linked) fun _ => True

theorem portsReport_true (ports : ReceivePorts σ ε) : PortsReport (fun _ => True) ports where
  millis _ _ := ⟨trivial, trivial⟩
  generateChallenge _ _ := ⟨trivial, trivial⟩
  lastRssi _ _ := ⟨trivial, trivial⟩
  transmitFrame _ _ _ _ _ _ := ⟨trivial, trivial⟩
  authenticateRequest _ _ _ _ := ⟨trivial, trivial⟩
  isConnected _ _ := ⟨trivial, trivial⟩
  log1wRemoteFrame _ _ _ _ := ⟨trivial, trivial⟩
  fireSenderEvent _ _ _ _ := ⟨trivial, trivial⟩

theorem portsKeep_true (ports : ReceivePorts σ ε) : PortsKeep (fun _ => True) ports :=
  (portsReport_true ports).toPortsKeep

/-- Whether a frame is the responder's. -/
def isForResponder (hub : Hub) (frame : IoFrame) : Bool :=
  (tryHandleKeyExtractionFrame 0 (Vector.replicate 6 0) hub.keyExtraction frame).isSome

/-- A frame that is not the responder's is left alone, before anything is asked. -/
theorem tryHandleKeyExtraction_other (ports : ReceivePorts σ ε) {frame : IoFrame} {hub : Hub}
    (h : isForResponder hub frame = false) (w : World σ ε) :
    tryHandleKeyExtraction ports frame hub w = (none, w) := by
  unfold isForResponder at h
  unfold tryHandleKeyExtraction
  rw [if_pos (by simpa using h)]
  rfl

section

variable {ports : ReceivePorts σ ε} {inv : World σ ε → Prop} (kept : PortsKeep inv ports)

include kept

/-- The responder's effects leave at most its timer. -/
theorem performResponderEffects_returns (effects : List ResponderEffect) (hub : Hub) :
    Keeps inv (performResponderEffects ports effects hub) fun hub' =>
      ∃ grace, hub' = { hub with postExtractGrace := grace } := by
  induction effects generalizing hub with
  | nil => exact Keeps.pure ⟨hub.postExtractGrace, rfl⟩
  | cons effect effects ih =>
    cases effect with
    | transmit frame freq preamble => exact (kept.transmitFrame _ _ _ _).skip fun _ => ih hub
    | logResult hubNodeId recoveredKey => exact ih hub
    | scheduleGrace delayMs => exact ih { hub with postExtractGrace := some delayMs }

/-- A frame of the responder moves the responder alone. -/
theorem tryHandleKeyExtraction_own {frame : IoFrame} {hub : Hub}
    (h : isForResponder hub frame = true) :
    Keeps inv (tryHandleKeyExtraction ports frame hub) fun handled =>
      ∃ keyExtraction grace, handled =
        some { hub with keyExtraction := keyExtraction, postExtractGrace := grace } := by
  unfold isForResponder at h
  have hsome : (tryHandleKeyExtractionFrame 0 (Vector.replicate 6 0) hub.keyExtraction
      frame).isNone = false := by simpa using h
  unfold tryHandleKeyExtraction
  rw [if_neg (by simp [hsome])]
  refine kept.generateChallenge.skip fun candidateChallenge => kept.millis.skip fun now => ?_
  cases htry : tryHandleKeyExtractionFrame now candidateChallenge hub.keyExtraction frame with
  | none =>
    rw [tryHandleKeyExtractionFrame_isNone _ now _ candidateChallenge, htry] at hsome
    cases hsome
  | some r =>
    refine (performResponderEffects_returns kept r.2 _).bind ?_
    rintro hub' ⟨grace, rfl⟩
    exact Keeps.pure ⟨r.1, grace, rfl⟩

end

section

variable {ports : ReceivePorts σ ε} {inv : World σ ε → Prop} {post : Hub → Prop} {hub : Hub}

theorem scheduleDevicePolls_rule {delayMs : UInt32}
    (polls : ∀ hub deviceId, post hub →
      Keeps inv (beginStatusPollTracking ports deviceId 0 hub) fun hub' =>
        post (hub'.scheduleStatusPoll deviceId delayMs))
    (deviceIds : List String) (same : post hub) :
    Keeps inv (scheduleDevicePolls ports delayMs deviceIds hub) post := by
  induction deviceIds generalizing hub with
  | nil => exact Keeps.pure same
  | cons deviceId deviceIds ih => exact (polls hub deviceId same).bind fun hub₁ h => ih h

theorem processRemoteActivity_rule (frame : IoFrame) (same : post hub)
    (polls : ∀ delayMs deviceIds, Keeps inv (scheduleDevicePolls ports delayMs deviceIds hub) post) :
    Keeps inv (processRemoteActivity ports frame hub) post := by
  refine Keeps.ite (fun _ => polls _ _) fun _ => ?_
  unfold scheduleLinkedRemotePolls
  cases hub.registry.linkedDevices (nodeIdToString frame.src) with
  | none => exact Keeps.pure same
  | some linked => exact polls _ linked

variable (kept : PortsKeep inv ports)

include kept

theorem processStatusUpdate_rule (frame : IoFrame) (freqHz : UInt32) (same : post hub)
    (update : Keeps inv (updateDeviceStatus ports frame true hub) post) :
    Keeps inv (processStatusUpdate ports frame freqHz hub) post := by
  refine (kept.authenticateRequest frame freqHz).skip fun authenticated => ?_
  refine Keeps.ite (fun _ => Keeps.pure same) fun _ => ?_
  cases createStatusUpdateResp hub.nodeId frame.src with
  | none => exact Keeps.pure same
  | some resp =>
    refine (kept.transmitFrame _ _ _ _).skip fun _ => ?_
    refine (kept.transmitFrame _ _ _ _).skip fun _ => ?_
    exact (kept.transmitFrame _ _ _ _).skip fun _ => update

theorem processFrame_rule (frame : IoFrame) (freqHz : UInt32) (same : post hub)
    (oneWay : is1w frame = true → Keeps inv (processOneWayFrame ports frame hub) post)
    (update : Keeps inv (updateDeviceStatus ports frame true hub) post)
    (polls : ∀ delayMs deviceIds, Keeps inv (scheduleDevicePolls ports delayMs deviceIds hub) post) :
    Keeps inv (processFrame ports frame freqHz hub) post := by
  refine Keeps.ite (fun _ => Keeps.pure same) fun _ => ?_
  refine Keeps.ite oneWay fun _ => ?_
  refine Keeps.ite (fun _ => processStatusUpdate_rule kept frame freqHz same update) fun _ => ?_
  refine Keeps.ite (fun _ => Keeps.pure same) fun _ => ?_
  exact processRemoteActivity_rule frame same polls

/-- A packet is no frame, or the responder's, or on its way to the hub. -/
theorem processReceivedPacket_rule (packet : RadioRxPacket) (same : post hub)
    (responder : ∀ keyExtraction grace,
      post { hub with keyExtraction := keyExtraction, postExtractGrace := grace })
    (process : ∀ frame, parse packet.data = some frame → isForResponder hub frame = false →
      Keeps inv (processFrame ports frame packet.freqHz hub) post) :
    Keeps inv (processReceivedPacket ports packet hub) post := by
  unfold processReceivedPacket
  cases hparse : parse packet.data with
  | none => exact Keeps.pure same
  | some frame =>
    cases hresponder : isForResponder hub frame with
    | true =>
      refine (tryHandleKeyExtraction_own kept hresponder).bind ?_
      rintro _ ⟨keyExtraction, grace, rfl⟩
      exact Keeps.pure (responder keyExtraction grace)
    | false =>
      intro w hw
      dsimp only
      rw [bind_apply, tryHandleKeyExtraction_other ports hresponder]
      exact process frame hparse hresponder w hw

end

section

variable {ports : ReceivePorts σ ε} {inv : World σ ε → Prop} {post : Hub → Prop} {hub : Hub}
  (kept : PortsReport inv ports)

include kept

theorem maybeFireSenderEvent_keeps (info : OneWayFrameInfo) (linked : Bool) (srcId : String)
    (hub : Hub) : Keeps inv (maybeFireSenderEvent ports info linked srcId hub) fun _ => True := by
  refine Keeps.ite (fun _ => Keeps.pure trivial) fun _ => kept.isConnected.skip fun connected => ?_
  refine Keeps.ite (fun _ => Keeps.pure trivial) fun _ => ?_
  exact Keeps.ite (fun _ => Keeps.pure trivial) fun _ => kept.fireSenderEvent _ _

theorem followOneWayFrame_rule (info : OneWayFrameInfo) (srcId : String)
    (polls : ∀ delayMs,
      let targets := hub.resolve1wTargetDevices info srcId
      Keeps inv (scheduleDevicePolls ports delayMs targets
        { hub with registry := (applyOptimisticLinkedState info targets hub.registry).1 }) post) :
    Keeps inv (followOneWayFrame ports info srcId hub) post :=
  (kept.log1wRemoteFrame _ _).skip fun _ =>
    (maybeFireSenderEvent_keeps kept _ _ _ hub).skip fun _ => polls _

end

section

variable {ports : HubPorts σ ε} {inv : World σ ε → Prop} {post : Hub → Prop} {hub : Hub}

theorem requestDeviceStatus_rule (kept : PortsKeep inv ports.toReceivePorts) (deviceId : String)
    (same : post hub)
    (executes : ∀ request retryAfterFailMs maxTries,
      Keeps inv (executeRequestAndUpdate ports deviceId request retryAfterFailMs maxTries hub)
        fun result => post result.hub) :
    Keeps inv (requestDeviceStatus ports deviceId hub) fun result => post result.2 := by
  unfold requestDeviceStatus
  cases hub.registry.get deviceId with
  | none => exact Keeps.pure same
  | some dev =>
    refine Keeps.ite (fun _ => Keeps.pure same) fun _ => ?_
    cases statusRequest hub.nodeId dev with
    | none => exact Keeps.pure same
    | some request =>
      refine kept.millis.skip fun now => ?_
      exact (executes request _ _).bind fun _ h => Keeps.pure h

theorem requestDeviceName_rule (deviceId : String) (same : post hub)
    (executes : ∀ request retryAfterFailMs maxTries,
      Keeps inv (executeRequestAndUpdate ports deviceId request retryAfterFailMs maxTries hub)
        fun result => post result.hub) :
    Keeps inv (requestDeviceName ports deviceId hub) fun result => post result.2 := by
  unfold requestDeviceName
  cases hub.registry.get deviceId with
  | none => exact Keeps.pure same
  | some dev =>
    refine Keeps.ite (fun _ => Keeps.pure same) fun _ => ?_
    cases createGetName hub.nodeId dev.nodeId dev.lowPower with
    | none => exact Keeps.pure same
    | some request => exact (executes request _ _).bind fun _ h => Keeps.pure h

end

end HomeIoControl.HubRules
