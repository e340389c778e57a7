import HomeIoControl.HubRules

/-!
# What a received frame can make the hub believe

A frame that is merely overheard proves nothing about its sender. It may move predictions and
schedule polls; only an authenticated status update changes what a device is known to have
reported, and only for the device that sent it.
-/

namespace HomeIoControl.PassiveFrames

open TracedPrograms ProtocolFrames ProtocolCommands ProtocolCodecs DeviceModels DeviceRegistries
  PairingResponder RadioLinks Exchanges HubStatus HubRules

/-- What a device reported, without what the hub predicts. -/
def observed (dev : IoDevice) : IoDevice := { dev with optimistic := {} }

/-- The same devices with the same reports. -/
abbrev SameReports (reg reg' : DeviceRegistry) : Prop := SameShown observed reg reg'

/-- From one hub to the other no device changed but in its prediction, and no operation was
queued or dropped. -/
structure OnlyPredicts (hub hub' : Hub) : Prop where
  reports : SameReports hub.registry hub'.registry
  queue : hub'.opQueue = hub.opQueue

/-- The registries agree on every device but those with the address. -/
def SameBut (nodeId : NodeId) (reg reg' : DeviceRegistry) : Prop :=
  ∀ id, (∀ dev, reg.get id = some dev → dev.nodeId ≠ nodeId) → reg'.get id = reg.get id

namespace SameReports

theorem applyOptimisticTarget (reg : DeviceRegistry) (id : String) (target : Position) :
    SameReports reg (reg.applyOptimisticTarget id target).1 := by
  unfold DeviceRegistry.applyOptimisticTarget
  split_ifs
  · apply SameShown.update <;> exact fun _ => rfl
  · exact .refl reg

theorem applyOptimisticStop (reg : DeviceRegistry) (id : String) :
    SameReports reg (reg.applyOptimisticStop id).1 := by
  unfold DeviceRegistry.applyOptimisticStop
  split_ifs
  · apply SameShown.update <;> exact fun _ => rfl
  · exact .refl reg

private theorem linkedDevice (info : OneWayFrameInfo) (reg : DeviceRegistry) (id : String) :
    SameReports reg (applyOptimisticLinkedDevice info reg id) := by
  unfold applyOptimisticLinkedDevice
  split_ifs
  · exact .refl reg
  · exact applyOptimisticStop reg id
  · cases onewayIntentToTarget info.main0 with
    | none => exact .refl reg
    | some target => exact applyOptimisticTarget reg id target

theorem applyOptimisticLinkedState (info : OneWayFrameInfo) (deviceIds : List String)
    (reg : DeviceRegistry) :
    SameReports reg (HubStatus.applyOptimisticLinkedState info deviceIds reg).1 := by
  unfold HubStatus.applyOptimisticLinkedState
  split_ifs
  · exact .refl reg
  · dsimp only
    induction deviceIds generalizing reg with
    | nil => exact .refl reg
    | cons id deviceIds ih => exact (linkedDevice info reg id).trans (ih _)

end SameReports

namespace OnlyPredicts

theorem refl (hub : Hub) : OnlyPredicts hub hub := ⟨.refl _, rfl⟩

theorem trans {a b c : Hub} (h : OnlyPredicts a b) (h' : OnlyPredicts b c) : OnlyPredicts a c :=
  ⟨h.reports.trans h'.reports, h'.queue.trans h.queue⟩

/-- Bookkeeping beside the devices and the queue. -/
theorem of_eq {hub hub' : Hub} (registry : hub'.registry = hub.registry)
    (queue : hub'.opQueue = hub.opQueue) : OnlyPredicts hub hub' :=
  ⟨registry ▸ .refl _, queue⟩

end OnlyPredicts

section

variable {σ ε : Type} (ports : ReceivePorts σ ε)

theorem beginStatusPollTracking_returns (deviceId : String) (initialDelayMs : UInt32)
    (hub : Hub) :
    Returns (beginStatusPollTracking ports deviceId initialDelayMs hub) (OnlyPredicts hub) := by
  unfold beginStatusPollTracking
  apply Returns.ite
  · intro _
    exact Returns.pure (.refl hub)
  · intro _
    apply Returns.skip
    intro now
    exact Returns.pure (.of_eq rfl rfl)

theorem scheduleDevicePolls_returns (delayMs : UInt32) (deviceIds : List String) (hub : Hub) :
    Returns (scheduleDevicePolls ports delayMs deviceIds hub) (OnlyPredicts hub) := by
  have hkeeps : Keeps (fun _ => True) (scheduleDevicePolls ports delayMs deviceIds hub)
      (OnlyPredicts hub) := by
    refine scheduleDevicePolls_rule (fun hub₁ deviceId h₁ => ?_) deviceIds (.refl hub)
    refine .of_returns ((beginStatusPollTracking_returns ports deviceId 0 hub₁).weaken ?_)
    intro hub₂ hbegun
    exact h₁.trans (hbegun.trans (.of_eq rfl rfl))
  exact hkeeps.returns

theorem processRemoteActivity_returns (frame : IoFrame) (hub : Hub) :
    Returns (processRemoteActivity ports frame hub) (OnlyPredicts hub) := by
  have hkeeps : Keeps (fun _ => True) (processRemoteActivity ports frame hub) (OnlyPredicts hub) :=
    processRemoteActivity_rule frame (.refl hub) fun _ _ =>
      .of_returns (scheduleDevicePolls_returns ports _ _ hub)
  exact hkeeps.returns

private theorem recordOnewayObservedClass_onlyPredicts (info : OneWayFrameInfo) (hub : Hub) :
    OnlyPredicts hub (hub.recordOnewayObservedClass info) := by
  unfold Hub.recordOnewayObservedClass
  split_ifs
  · exact .refl hub
  · exact .of_eq rfl rfl

private theorem tryAdoptOnewayKey_onlyPredicts (frame : IoFrame) (hub : Hub) :
    OnlyPredicts hub (hub.tryAdoptOnewayKey frame) := by
  unfold Hub.tryAdoptOnewayKey
  split_ifs
  · exact .refl hub
  · cases decode1wAddController frame with
    | error _ => exact .refl hub
    | ok _ => exact .of_eq rfl rfl

theorem processOneWayFrame_returns (frame : IoFrame) (hub : Hub) :
    Returns (processOneWayFrame ports frame hub) (OnlyPredicts hub) := by
  unfold processOneWayFrame
  apply Returns.skip
  intro now
  have hactivity : OnlyPredicts hub (hub.record1wActivity now) := .of_eq rfl rfl
  have hlistened := (hactivity.trans (recordOnewayObservedClass_onlyPredicts
    (decode1wFrame frame) _)).trans (tryAdoptOnewayKey_onlyPredicts frame _)
  apply Returns.ite
  · intro _
    exact Returns.pure hlistened
  · intro _
    refine Returns.skip fun _ => Returns.skip fun _ => ?_
    refine (scheduleDevicePolls_returns ports _ _ _).weaken ?_
    intro hub' hpolls
    refine hlistened.trans ⟨?_, hpolls.queue⟩
    exact (SameReports.applyOptimisticLinkedState _ _ _).trans hpolls.reports

/-- A frame that is not the responder's is left alone. -/
theorem tryHandleKeyExtraction_cases (frame : IoFrame) (hub : Hub) (w : World σ ε) :
    tryHandleKeyExtraction ports frame hub w = (none, w) ∨
      ∃ hub', (tryHandleKeyExtraction ports frame hub w).1 = some hub' ∧
        OnlyPredicts hub hub' := by
  cases hown : isForResponder hub frame with
  | false => exact .inl (tryHandleKeyExtraction_other ports hown w)
  | true =>
    right
    obtain ⟨keyExtraction, grace, hhandled⟩ :=
      (tryHandleKeyExtraction_own (portsKeep_true ports) hown).returns w
    exact ⟨_, hhandled, .of_eq rfl rfl⟩

private theorem updateDevice_get {hub : Hub} {id id' : String} (u : DeviceUpdate) (h : id' ≠ id) :
    (hub.updateDevice id u).registry.get id' = hub.registry.get id' := by
  unfold Hub.updateDevice
  rw [DeviceRegistry.get_update, if_neg h]

/-- The record under the identifier of an address has that address. -/
theorem get_nodeIdToString {reg : DeviceRegistry} {nodeId : NodeId} {dev : IoDevice}
    (h : reg.get (nodeIdToString nodeId) = some dev) : dev.nodeId = nodeId := by
  have hspelled := reg.spelled _ dev h
  rw [hexToNodeId_nodeIdToString] at hspelled
  exact (Option.some.inj hspelled).symm

/-- A status changes at most the record of its sender. -/
theorem updateDeviceStatus_returns (frame : IoFrame) (trustPosition : Bool) (hub : Hub) :
    Returns (updateDeviceStatus ports frame trustPosition hub) fun hub' =>
      SameBut frame.src hub.registry hub'.registry := by
  unfold updateDeviceStatus
  dsimp only
  cases hdev : hub.registry.get (nodeIdToString frame.src) with
  | none => exact Returns.pure fun _ _ => rfl
  | some dev =>
    apply Returns.skip
    intro now
    apply Returns.skip
    intro rssi
    have hupdate : ∀ u policy, Returns
        (pure { hub.updateDevice (nodeIdToString frame.src) u with pollPolicy := policy } :
          Prog σ ε Hub) fun hub' => SameBut frame.src hub.registry hub'.registry := by
      intro u policy
      apply Returns.pure
      intro id hother
      refine updateDevice_get u ?_
      rintro rfl
      exact hother dev hdev (get_nodeIdToString hdev)
    have hplain := fun u => hupdate u hub.pollPolicy
    refine Returns.ite (fun _ => ?privateResponse) fun _ => Returns.ite (fun _ => ?statusUpdate)
      fun _ => Returns.ite (fun _ => hplain _) fun _ => Returns.ite (fun _ => hplain _)
        fun _ => Returns.ite (fun _ => ?error) fun _ => hplain _
    case privateResponse =>
      apply Returns.ite
      · intro _
        exact hplain _
      · intro _
        exact Returns.skip fun now => hupdate _ _
    case statusUpdate =>
      apply Returns.ite
      · intro _
        exact hplain _
      · intro _
        exact Returns.skip fun now => hupdate _ _
    case error => exact Returns.skip fun now => hplain _

theorem processStatusUpdate_returns (frame : IoFrame) (freqHz : UInt32) (hub : Hub) :
    Returns (processStatusUpdate ports frame freqHz hub) fun hub' =>
      SameBut frame.src hub.registry hub'.registry :=
  (processStatusUpdate_rule (portsKeep_true ports) frame freqHz (fun _ _ => rfl)
    (.of_returns (updateDeviceStatus_returns ports frame true hub))).returns

/-- A frame that is not the responder's only moves predictions, unless it is a status update
whose authentication succeeds. -/
theorem processFrame_cases (frame : IoFrame) (freqHz : UInt32) (hub : Hub) (w : World σ ε) :
    OnlyPredicts hub (processFrame ports frame freqHz hub w).1 ∨
      (is1w frame = false ∧ frame.cmd = cmdStatusUpdate ∧ frame.dst = hub.nodeId ∧
        (ports.authenticateRequest frame freqHz w).1 = true) ∧
        SameBut frame.src hub.registry (processFrame ports frame freqHz hub w).1.registry := by
  unfold processFrame
  split_ifs with hinternal honeway hupdate hstatus
  · exact .inl (.refl hub)
  · exact .inl (processOneWayFrame_returns ports frame hub w)
  · cases hauth : (ports.authenticateRequest frame freqHz w).1 with
    | false =>
      left
      rw [processStatusUpdate, bind_apply, hauth]
      exact .refl hub
    | true =>
      right
      exact ⟨⟨by simpa using honeway, hupdate.1, hupdate.2, rfl⟩,
        processStatusUpdate_returns ports frame freqHz hub w⟩
  · exact .inl (.refl hub)
  · exact .inl (processRemoteActivity_returns ports frame hub w)

end

/-- The packet is a status update for this hub whose sender authenticated. -/
def AuthenticatedUpdate {σ : Type} (engine : ExchangeEngine σ) (hub : Hub)
    (packet : RadioRxPacket) (frame : IoFrame) (w : World σ RadioEvent) : Prop :=
  parse packet.data = some frame ∧ is1w frame = false ∧ frame.cmd = cmdStatusUpdate ∧
    frame.dst = hub.nodeId ∧ (authenticateRequest engine frame packet.freqHz w).1 = true

/-- Receiving a packet changes no report of any device, unless the packet is an authenticated
status update, which changes at most the record of its sender. -/
theorem received_packet_keeps_reports {σ : Type} (engine : ExchangeEngine σ)
    (packet : RadioRxPacket) (hub : Hub) (w : World σ RadioEvent) :
    OnlyPredicts hub (processReceivedPacket (enginePorts engine) packet hub w).1 ∨
      ∃ frame, AuthenticatedUpdate engine hub packet frame w ∧
        SameBut frame.src hub.registry
          (processReceivedPacket (enginePorts engine) packet hub w).1.registry := by
  unfold processReceivedPacket
  cases hparse : parse packet.data with
  | none => exact .inl (.refl hub)
  | some frame =>
    dsimp only
    rw [bind_apply]
    rcases tryHandleKeyExtraction_cases (enginePorts engine) frame hub w with
      hother | ⟨hub', hhandled, honly⟩
    · rw [hother]
      rcases processFrame_cases (enginePorts engine) frame packet.freqHz hub w with
        honly | ⟨⟨htwoWay, hcmd, hdst, hauth⟩, hsame⟩
      · exact .inl honly
      · exact .inr ⟨frame, ⟨hparse, htwoWay, hcmd, hdst, hauth⟩, hsame⟩
    · rw [hhandled]
      exact .inl honly

end HomeIoControl.PassiveFrames
