import HomeIoControl.MachineRuns
import HomeIoControl.PairingEngine
import HomeIoControl.HubOperations
import Mathlib.Algebra.GroupWithZero.Nat

/-!
# The hub's loop

A pass of the loop takes one received packet, dispatches at most one operation unless the gate
holds it back, and queues at most one due poll. Between passes entities and timeouts queue
operations. The hub is then run as a machine in surroundings that answer whatever it asks.
-/

namespace HomeIoControl.HubLoop

open MachineRuns TracedPrograms OrderedMaps ProtocolFrames ProtocolCrypto ProtocolCodecs
  DeviceModels DeviceRegistries PendingOperations StatusPolls PairingResponder RadioLinks
  Exchanges PairingEngine HubStatus HubOperations

/-- Whether the front of the queue is a background poll. -/
def nextOpIsBackground (hub : Hub) : Bool :=
  hub.opQueue.ops.head?.any PendingOperation.isBackground

/-- `defer_background_poll_for_1w_activity`. -/
def deferBackgroundPollFor1wActivity (nextOpIsBackground : Bool)
    (first1wActivityMs last1wActivityMs now quietMs maxDeferMs : UInt32) : Bool :=
  if nextOpIsBackground = false ∨ last1wActivityMs = 0 then false
  else if now - first1wActivityMs ≥ maxDeferMs then false
  else now - last1wActivityMs < quietMs

section

variable {σ ε : Type} (ports : HubPorts σ ε)

/-- `key_extraction_awaiting_reply_`. -/
def keyExtractionAwaitingReply (hub : Hub) : Prog σ ε Bool :=
  if hub.keyExtraction.ctx.state = .disarmed ∨ hub.keyExtraction.ctx.state = .armedIdle then
    pure false
  else do
    let now ← ports.millis
    pure (now < hub.keyExtraction.holdDeadlineMs)

/-- The responder's part of `defer_background_poll_`. -/
def responderHoldsPoll (hub : Hub) : Prog σ ε Bool :=
  if nextOpIsBackground hub then keyExtractionAwaitingReply ports hub else pure false

/-- `defer_background_poll_`. -/
def deferBackgroundPoll (hub : Hub) : Prog σ ε Bool := do
  let held ← responderHoldsPoll ports hub
  if held then pure true
  else do
    let now ← ports.millis
    pure (deferBackgroundPollFor1wActivity (nextOpIsBackground hub) hub.oneWay.first1wActivityMs
      hub.oneWay.last1wActivityMs now onewayQuietPeriodMs onewayPollDeferCapMs)

/-- The first part of a pass: a received packet. -/
def receive (hub : Hub) : Prog σ ε Hub := do
  let packet ← ports.checkForPacket
  match packet with
  | none => pure hub
  | some packet => processReceivedPacket ports.toReceivePorts packet hub

/-- The second part of a pass: an operation, unless it is to yield. -/
def dispatch (hub : Hub) : Prog σ ε Hub := do
  let deferred ← deferBackgroundPoll ports hub
  if deferred then pure hub else processPendingOperation ports hub

/-- A due device is polled through the queue. -/
def queueDuePoll (due : StatusPollPolicy UInt32 × Option String) (hub : Hub) : Hub :=
  match due.2 with
  | none => { hub with pollPolicy := due.1 }
  | some deviceId => queueRequestDeviceStatus deviceId { hub with pollPolicy := due.1 }

/-- The last part of a pass: periodic status polling. -/
def pollDue (hub : Hub) : Prog σ ε Hub := do
  let now ← ports.millis
  pure (queueDuePoll (hub.pollPolicy.popDueDevice now) hub)

/-- `loop`, without its channel hops. -/
def loop (hub : Hub) : Prog σ ε Hub :=
  if hub.initialized = false ∨ hub.radioTestMode then pure hub
  else do
    let hub ← receive ports hub
    let hub ← dispatch ports hub
    pollDue ports hub

end

/-- What the entities ask of the hub. -/
inductive EntityCommand where
  | coverStop (deviceId : String)
  | coverPosition (deviceId : String) (position : UInt8)
  | coverTilt (deviceId : String) (tiltPercent : UInt8)
  | coverPositionAndTilt (deviceId : String) (position tiltPercent : UInt8)
  | device (deviceId : String) (cmd : CoverCommand)
  | lightPosition (deviceId : String) (position : UInt8)
  | lightState (deviceId : String) (on : Bool)
  | lockState (deviceId : String) (locked : Bool)
  | switchState (deviceId : String) (on : Bool)
  | requestStatus (deviceId : String)
  | requestName (deviceId : String)
  | onewayCommand (controllerId : String) (cmd : CoverCommand)
  | onewayPosition (controllerId : String) (position : UInt8)
  | onewayEnroll (controllerId : String)
  | onewayUnenroll (controllerId : String)
  | discoverAndPair
  | armKeyExtraction (throwawayId : NodeId)
  | disarmKeyExtraction
  | armOnewayKeyAdoption (armed : Bool)

/-- The hub after a command. A cover predicts the movement it asks for. -/
def obey (hub : Hub) : EntityCommand → Hub
  | .coverStop deviceId =>
    queueDeviceCommand deviceId .stop
      { hub with registry := (hub.registry.applyOptimisticStop deviceId).1 }
  | .coverPosition deviceId position =>
    queueSetDevicePosition deviceId position
      { hub with
        registry := (hub.registry.applyOptimisticTarget deviceId (percent position.toNat)).1 }
  | .coverTilt deviceId tiltPercent =>
    queueSetDeviceTilt deviceId tiltPercent
      { hub with
        registry := (hub.registry.applyOptimisticTilt deviceId (percent tiltPercent.toNat)).1 }
  | .coverPositionAndTilt deviceId position tiltPercent =>
    queueSetDevicePositionAndTilt deviceId position tiltPercent
      { hub with
        registry := ((hub.registry.applyOptimisticTarget deviceId
          (percent position.toNat)).1.applyOptimisticTilt deviceId
            (percent tiltPercent.toNat)).1 }
  | .device deviceId cmd => queueDeviceCommand deviceId cmd hub
  | .lightPosition deviceId position => queueSetLightPosition deviceId position hub
  | .lightState deviceId on => queueSetLightState deviceId on hub
  | .lockState deviceId locked => queueSetLockState deviceId locked hub
  | .switchState deviceId on => queueSetSwitchState deviceId on hub
  | .requestStatus deviceId => queueRequestDeviceStatus deviceId hub
  | .requestName deviceId => queueRequestDeviceName deviceId hub
  | .onewayCommand controllerId cmd =>
    { hub with opQueue := hub.opQueue.enqueueOnewayCommand controllerId cmd }
  | .onewayPosition controllerId position =>
    { hub with opQueue := hub.opQueue.enqueueOnewayPosition controllerId position }
  | .onewayEnroll controllerId =>
    { hub with opQueue := hub.opQueue.enqueueOnewayEnroll controllerId }
  | .onewayUnenroll controllerId =>
    { hub with opQueue := hub.opQueue.enqueueOnewayUnenroll controllerId }
  | .discoverAndPair => queueDiscoverAndPair hub
  | .armKeyExtraction throwawayId =>
    { hub with keyExtraction := hub.keyExtraction.arm throwawayId }
  | .disarmKeyExtraction =>
    { hub with keyExtraction := { hub.keyExtraction with ctx := {} } }
  | .armOnewayKeyAdoption armed =>
    { hub with oneWay := { hub.oneWay with keyAdoptionArmed := armed } }

/-- The timeout `remote_poll_<id>` ends. -/
def remotePollFires (deviceId : String) (hub : Hub) : Hub :=
  if (hub.remotePolls.find deviceId).isNone then hub
  else queueRequestDeviceStatus deviceId
    { hub with remotePolls := hub.remotePolls.erase deviceId }

/-- What the surroundings say to one question; a question reads its own field, and each takes
its time. -/
structure Answer where
  elapsed : ℕ := 0
  challenge : Challenge := Vector.replicate 6 0
  rssi : Option Int16 := none
  transmitted : Bool := true
  authenticated : Bool := false
  connected : Bool := false
  packet : Option RadioRxPacket := none
  outcome : ExchangeOutcome := .failed
  reply : IoFrame := initFrame true false false false
  sawChallenge : Bool := false
  tries : UInt8 := 1
  paired : Option IoFrame := none

/-- The time in unbounded milliseconds since boot, and the answers to come. -/
structure Surroundings where
  time : ℕ
  answers : List Answer

/-- `millis()` at a time. -/
def clockAt (time : ℕ) : UInt32 := UInt32.ofNat time

/-- The milliseconds after which `millis()` starts over. -/
def clockPeriod : ℕ := 2 ^ 32

theorem clockAt_toNat (time : ℕ) : (clockAt time).toNat = time % clockPeriod :=
  UInt32.toNat_ofNat'

/-- The clock tells the time that has passed up to its period. -/
theorem clockAt_sub {time earlier : ℕ} (h : earlier ≤ time) :
    (clockAt time - clockAt earlier).toNat = (time - earlier) % clockPeriod := by
  rw [UInt32.toNat_sub, clockAt_toNat, clockAt_toNat, clockPeriod]
  omega

namespace Surroundings

/-- The next answer, and what is left; surroundings without answers are silent. -/
def next (s : Surroundings) : Answer × Surroundings :=
  match s.answers with
  | [] => ({}, s)
  | a :: rest => (a, ⟨s.time + a.elapsed, rest⟩)

/-- The time when all answers to come have been given. -/
def endTime (s : Surroundings) : ℕ := s.time + (s.answers.map Answer.elapsed).sum

@[simp] theorem next_endTime (s : Surroundings) : s.next.2.endTime = s.endTime := by
  obtain ⟨time, answers⟩ := s
  cases answers with
  | nil => rfl
  | cons a rest => simp [next, endTime, Nat.add_assoc]

theorem time_le_endTime (s : Surroundings) : s.time ≤ s.endTime := Nat.le_add_right _ _

theorem time_le_next (s : Surroundings) : s.time ≤ s.next.2.time := by
  obtain ⟨time, answers⟩ := s
  cases answers with
  | nil => exact Nat.le_refl _
  | cons a rest => exact Nat.le_add_right _ _

end Surroundings

/-- Ask the surroundings: the answer may depend on the time at which it is given. -/
def consult {ε α : Type} (f : Answer → ℕ → α) : Prog Surroundings ε α :=
  ask fun s => (f s.next.1 s.next.2.time, s.next.2)

/-- The reply of an exchange comes from the device that was asked. -/
def exchangeReport (request : IoFrame) (a : Answer) : ExchangeReport where
  outcome := a.outcome
  response := { a.reply with src := request.dst, dst := request.src }
  sawChallenge := a.sawChallenge
  tries := a.tries

/-- What pairing registers: the device of the discovery response. -/
def registerPaired (registry : DeviceRegistry) (paired : Option IoFrame) :
    Bool × DeviceRegistry :=
  match paired with
  | none => (false, registry)
  | some frame =>
    let found := decodeDiscoveryResponse frame
    (true, registry.put found.deviceId found.device found.spelled)

/-- What the hub tells its surroundings: the log of a one-way sender and its event, and what it
starts to carry out an operation. -/
inductive HubOutput where
  | remoteFrame (info : OneWayFrameInfo) (linked : Option (List String))
  | senderEvent (info : OneWayFrameInfo) (linked : Bool)
  | exchange (request : IoFrame)
  | pairing
  | oneWay (op : PendingOperation)

/-- An output, with the time at which it is made. -/
structure HubReport where
  time : ℕ
  output : HubOutput

/-- Tell the surroundings. -/
def report (output : HubOutput) : Prog Surroundings HubReport Unit := fun w =>
  ((), ⟨w.env, w.log ++ [⟨w.env.time, output⟩]⟩)

/-- The ports of a hub in its surroundings. -/
def surroundingPorts : HubPorts Surroundings HubReport where
  millis := consult fun _ time => clockAt time
  generateChallenge := consult fun a _ => a.challenge
  lastRssi := consult fun a _ => a.rssi
  transmitFrame _ _ _ _ := consult fun a _ => a.transmitted
  authenticateRequest _ _ := consult fun a _ => a.authenticated
  log1wRemoteFrame info linked := report (.remoteFrame info linked)
  isConnected := consult fun a _ => a.connected
  fireSenderEvent info linked := report (.senderEvent info linked)
  responsePreamble := shortPreamble
  coldBroadcastReplyPreamble := longPreamble
  checkForPacket := consult fun a _ => a.packet
  sendAndReceive request _ _ := do
    report (.exchange request)
    consult fun a _ => exchangeReport request a
  discoverAndPair registry := do
    report .pairing
    consult fun a _ => registerPaired registry a.paired
  sendOneWay op := do
    report (.oneWay op)
    consult fun _ _ => ()

/-- The hub and the time. -/
structure HubState where
  hub : Hub
  time : ℕ

inductive HubAction where
  | pass
  | command (cmd : EntityCommand)
  | remotePollFires (deviceId : String)

def HubAction.isPass : HubAction → Bool
  | .pass => true
  | .command _ => false
  | .remotePollFires _ => false

theorem HubAction.eq_pass_of_isPass {action : HubAction} (h : action.isPass = true) :
    action = .pass := by
  cases action with
  | pass => rfl
  | command cmd => exact absurd h Bool.false_ne_true
  | remotePollFires deviceId => exact absurd h Bool.false_ne_true

/-- The command asks for a pairing. -/
def asksPairing : HubAction → Bool
  | .command .discoverAndPair => true
  | _ => false

/-- An action of the hub, the time until it happens, and what its surroundings answer. -/
structure HubEvent where
  wait : ℕ := 0
  action : HubAction
  answers : List Answer := []

/-- The surroundings in which an event happens. -/
def HubEvent.surroundings (e : HubEvent) (s : HubState) : World Surroundings HubReport :=
  ⟨⟨s.time + e.wait, e.answers⟩, []⟩

/-- The program that an action runs. -/
def act (hub : Hub) : HubAction → Prog Surroundings HubReport Hub
  | .pass => loop surroundingPorts hub
  | .command cmd => pure (obey hub cmd)
  | .remotePollFires deviceId => pure (remotePollFires deviceId hub)

/-- An event lasts as long as its answers take. -/
def hubStep (s : HubState) (e : HubEvent) : HubState :=
  ⟨(act s.hub e.action (e.surroundings s)).1, (e.surroundings s).env.endTime⟩

theorem time_le_hubStep (s : HubState) (e : HubEvent) : s.time ≤ (hubStep s e).time :=
  Nat.le_trans (Nat.le_add_right _ e.wait) (e.surroundings s).env.time_le_endTime

/-- What the hub reports during an event. -/
def reports (s : HubState) (e : HubEvent) : List HubReport :=
  (act s.hub e.action (e.surroundings s)).2.log

def hubMachine : Machine HubState HubEvent HubReport where
  step s e := (hubStep s e, reports s e)

end HomeIoControl.HubLoop
