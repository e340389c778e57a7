import HomeIoControl.PairingEngine
import HomeIoControl.PairingResponder
import HomeIoControl.RadioInvariants
import HomeIoControl.MachineRuns

/-!
# Agreement between a pairing controller and the armed responder

The two roles are composed over the air: one frame is in flight each way, and until its sender
transmits again it may be delivered any number of times. Under every such schedule the key that
the responder ends up with is the controller's.
-/

namespace HomeIoControl.PairingAgreement

open TracedPrograms MachineRuns ProtocolFrames ProtocolCrypto ProtocolCommands DeviceRegistries
  RadioLinks RadioInvariants Exchanges PairingEngine PairingResponder

/-- The responder, the frame in flight each way, and the contexts the responder has been in. -/
structure Link where
  responder : KeyExtraction
  toDevice : Option (List UInt8)
  toHub : Option (List UInt8)
  history : List ResponderContext

namespace Link

/-- The frame in flight after some transmissions: the last one that goes on air. -/
def lastOnAir (frames : List IoFrame) (before : Option (List UInt8)) : Option (List UInt8) :=
  (frames.filterMap serialize).getLast?.or before

/-- The responder receives a frame. One that it leaves to the rest of the receive path is not
answered there. -/
def receive (l : Link) (now : UInt32) (challenge : Challenge) (frame : IoFrame) : Link :=
  match tryHandleKeyExtractionFrame now challenge l.responder frame with
  | none => l
  | some (responder, effects) =>
    { l with
      responder := responder
      toHub := lastOnAir (sentFrames effects) l.toHub
      history := l.history ++ [responder.ctx] }

/-- The frame in flight to the responder is delivered, at its time and with the challenge it
would draw. -/
def deliver (l : Link) (arrival : UInt32 × Challenge) : Link :=
  match l.toDevice.bind parse with
  | none => l
  | some frame => l.receive arrival.1 arrival.2 frame

/-- The link when the responder is armed. -/
def armed (throwawayId : NodeId) : Link :=
  let responder := KeyExtraction.arm {} throwawayId
  ⟨responder, none, none, [responder.ctx]⟩

end Link

/-- What happens when the controller consults its radio: deliveries to the responder first, then
the answer of the radio, whichever was asked for. -/
structure Turn where
  deliveries : List (UInt32 × Challenge) := []
  now : UInt32 := 0
  rssi : Int16 := -120
  taken : Bool := true
  handsOver : Bool := true
  preamble : Bool := false
  sync : Bool := false
  freq : UInt32 := freqCh2
  challenge : Challenge := Vector.replicate 6 0

/-- A link under a schedule of turns. -/
structure Air where
  link : Link
  turns : ℕ → Turn
  turn : ℕ := 0

namespace Air

def current (a : Air) : Turn := a.turns a.turn

/-- The deliveries of the current turn happen. -/
def pass (a : Air) : Air :=
  { a with link := a.current.deliveries.foldl Link.deliver a.link, turn := a.turn + 1 }

/-- A transmission of the controller replaces its frame in flight. -/
def transmit (a : Air) (buf : List UInt8) : Air :=
  { a with link := { a.link with toDevice := some buf } }

def packet (a : Air) (freq : UInt32) : Option RadioRxPacket :=
  a.link.toHub.bind fun data =>
    if h : data.length ≤ radioPacketBufferSize then some ⟨freq, data, h⟩ else none

end Air

/-- The properties of the controller's radio chip. -/
structure RadioChip where
  responsePreamble : UInt16 := shortPreamble
  hopDwellMs : UInt32 := 10
  hasFastTxRxTurnaround : Bool := true
  maxWaits : UInt32 → ℕ := fun _ => 4

/-- The controller's radio: it takes or refuses a transmission, and hands the frame in flight
over or does not, as the schedule says. -/
def airRadio (chip : RadioChip) : Radio Air where
  millis a := (a.current.now, a.pass)
  delay _ a := a.pass
  readRssi a := (a.current.rssi, a.pass)
  sendPacket buf _ _ a :=
    (a.current.taken, if a.current.taken then a.pass.transmit buf else a.pass)
  waitForPacket _ a :=
    (if a.current.handsOver then a.pass.packet a.current.freq else none, a.pass)
  isPreambleDetected a := (a.current.preamble, a.pass)
  isSyncDetected a := (a.current.sync, a.pass)
  currentFreq a := a.current.freq
  changeFrequency _ a := a.pass
  generateChallenge a := (a.current.challenge, a.pass)
  responsePreamble := chip.responsePreamble
  hopDwellMs := chip.hopDwellMs
  hasFastTxRxTurnaround := chip.hasFastTxRxTurnaround
  maxWaits := chip.maxWaits

/-- The controller that pairs. -/
structure Controller where
  chip : RadioChip := {}
  nodeId : NodeId
  systemKey : Block

namespace Controller

variable (hub : Controller)

def engine (tuning : TuningConfig) : ExchangeEngine Air :=
  ⟨airRadio hub.chip, tuning, hub.nodeId, hub.systemKey⟩

end Controller

/-- Between pairings, time may pass. -/
inductive SessionStep where
  | pair (tuning : TuningConfig) (registry : DeviceRegistry)
  | wait

/-- Pairing after pairing with one responder; a pairing reports its result. -/
def session (hub : Controller) : Machine Air SessionStep Bool where
  step a
    | .pair tuning registry =>
      let run := discoverAndPair (hub.engine tuning) registry ⟨a, []⟩
      (run.2.env, [run.1.1])
    | .wait => (a.pass, [])

/-- The agreement on the responder's context, by what is in flight. A key transfer in flight is
under the challenge that the responder holds, if it still waits for one; a challenge in flight
is the one it holds; a confirmation in flight was sent on extracting. -/
structure Agreed (hub : Controller) (throwawayId : NodeId) (ctx : ResponderContext)
    (toDevice toHub : Option (List UInt8)) : Prop where
  key : ctx.HasKey → ctx.recoveredKey = hub.systemKey ∧ ctx.hubNodeId = hub.nodeId
  throwaway : ctx.throwawayId = throwawayId
  opened : ctx.state = .sentChallenge → ctx.hubNodeId = hub.nodeId
  asked : ∀ frame, toDevice.bind parse = some frame →
    frame.src = hub.nodeId ∧ frame.cmd ≠ cmdAddressReq ∧
      (frame.cmd = cmdKeyTransfer → ctx.state = .sentChallenge →
        recoverSystemKeyFromTransfer (payloadPrefix frame 16) ctx.challenge = hub.systemKey)
  replied : ∀ frame, toHub.bind parse = some frame →
    frame.src = throwawayId ∧
      (frame.cmd = cmdChallengeReq →
        ctx.state = .sentChallenge ∧ ctx.challenge = payloadPrefix frame 6) ∧
      (frame.cmd = cmdKeyConfirm → ctx.state = .extracted)

/-- The agreement now, and on every context the responder has been in. -/
structure Agreement (hub : Controller) (throwawayId : NodeId) (l : Link) : Prop where
  past : ∀ ctx ∈ l.history, ctx.HasKey →
    ctx.recoveredKey = hub.systemKey ∧ ctx.hubNodeId = hub.nodeId
  now : Agreed hub throwawayId l.responder.ctx l.toDevice l.toHub

variable {hub : Controller} {throwawayId : NodeId}

theorem armed_agreement : Agreement hub throwawayId (Link.armed throwawayId) := by
  have hstate : ¬ (KeyExtraction.arm {} throwawayId).ctx.HasKey := by
    simp [KeyExtraction.arm, ResponderContext.HasKey]
  have hnone : ∀ frame, (none : Option (List UInt8)).bind parse ≠ some frame :=
    fun _ h => by cases h
  constructor
  · intro ctx hctx hkey
    rw [List.mem_singleton.mp hctx] at hkey
    exact absurd hkey hstate
  · exact ⟨fun hkey => absurd hkey hstate, rfl, fun h => (by cases h),
      fun frame h => absurd h (hnone frame), fun frame h => absurd h (hnone frame)⟩

/-- What is in flight after a built reply went out on each channel. -/
private theorem reply_on_air {start «end» lowPower : Bool} {dst src : NodeId} {cmd : UInt8}
    {params : List UInt8} {before : Option (List UInt8)} {frame : IoFrame}
    (hlen : params.length ≤ frameMaxDataSize)
    (h : (Link.lastOnAir (onEachChannel
      (buildFrame start «end» lowPower dst src cmd params)) before).bind parse = some frame) :
    frame.src = src ∧ frame.cmd = cmd ∧ frame.data = params := by
  obtain ⟨built, hbuilt⟩ := Option.isSome_iff_exists.mp (buildFrame_isSome hlen)
  rw [hbuilt] at h
  obtain ⟨buf, hbuf, hparse⟩ := buildFrame_on_air hbuilt
  have heq : built = frame := by
    simpa [Link.lastOnAir, onEachChannel, hbuf, hparse] using h
  obtain ⟨-, hsrc, hcmd, hdata⟩ := buildFrame_fields hbuilt
  rw [← heq]
  exact ⟨hsrc, hcmd, hdata⟩

namespace Agreed

variable {ctx ctx' : ResponderContext} {toDevice toHub : Option (List UInt8)}

/-- A reply that is neither a challenge nor a confirmation claims nothing. -/
private theorem plain_reply {frame : IoFrame} {src : NodeId} {cmd : UInt8} {data : List UInt8}
    (h : frame.src = src ∧ frame.cmd = cmd ∧ frame.data = data) (hsrc : src = throwawayId)
    (hchallenge : cmd ≠ cmdChallengeReq) (hconfirm : cmd ≠ cmdKeyConfirm) :
    frame.src = throwawayId ∧
      (frame.cmd = cmdChallengeReq →
        ctx.state = .sentChallenge ∧ ctx.challenge = payloadPrefix frame 6) ∧
      (frame.cmd = cmdKeyConfirm → ctx.state = .extracted) := by
  refine ⟨h.1.trans hsrc, fun hcmd => absurd (h.2.1.symm.trans hcmd) hchallenge,
    fun hcmd => absurd (h.2.1.symm.trans hcmd) hconfirm⟩

/-- The responder keeps the agreement when it handles the frame in flight to it. -/
theorem step (h : Agreed hub throwawayId ctx toDevice toHub) {challenge : Challenge}
    {frame : IoFrame} (hframe : toDevice.bind parse = some frame) {sent : List IoFrame}
    {logged : List (NodeId × Block)}
    (hstep : ResponderStep challenge frame ctx ctx' sent logged) :
    Agreed hub throwawayId ctx' toDevice (Link.lastOnAir sent toHub) := by
  have hsame : ∀ frame', toDevice.bind parse = some frame' → frame' = frame := by
    intro frame' h'
    exact Option.some.inj (h'.symm.trans hframe)
  obtain ⟨hsrc, haddress, htransfer⟩ := h.asked frame hframe
  -- a step on another command leaves no key transfer in flight
  have hasked : frame.cmd ≠ cmdKeyTransfer → ∀ frame', toDevice.bind parse = some frame' →
      frame'.src = hub.nodeId ∧ frame'.cmd ≠ cmdAddressReq ∧
        (frame'.cmd = cmdKeyTransfer → ctx'.state = .sentChallenge →
          recoverSystemKeyFromTransfer (payloadPrefix frame' 16) ctx'.challenge =
            hub.systemKey) := by
    intro hcmd frame' h'
    rw [hsame frame' h']
    exact ⟨hsrc, haddress, fun heq => absurd heq hcmd⟩
  cases hstep with
  | silent => exact h
  | discover cmd state =>
    refine ⟨fun hkey => ?_, h.throwaway, fun hs => (by cases hs), hasked (by rw [cmd]; decide), ?_⟩
    · rcases hkey with hs | hs <;> cases hs
    · intro frame' h'
      exact plain_reply (reply_on_air (by simp [frameMaxDataSize]) h') h.throwaway (by decide)
        (by decide)
  | confirm cmd dst state =>
    refine ⟨fun hkey => ?_, h.throwaway, fun hs => (by cases hs), hasked (by rw [cmd]; decide), ?_⟩
    · rcases hkey with hs | hs <;> cases hs
    · intro frame' h'
      simp only [createDiscoverConfirmAck, createDeviceTerminalAck] at h'
      exact plain_reply (reply_on_air (by simp [frameMaxDataSize]) h') h.throwaway (by decide)
        (by decide)
  | keyInit cmd dst state =>
    refine ⟨fun hkey => ?_, h.throwaway, fun _ => hsrc, hasked (by rw [cmd]; decide), ?_⟩
    · rcases hkey with hs | hs <;> cases hs
    · intro frame' h'
      obtain ⟨hsrc', hcmd', hdata'⟩ := reply_on_air (by simp [frameMaxDataSize]) h'
      refine ⟨hsrc'.trans h.throwaway, fun _ => ⟨rfl, ?_⟩, fun hconfirm => ?_⟩
      · exact (payloadPrefix_of_data hdata').symm
      · exact absurd (hcmd'.symm.trans hconfirm) (by decide)
  | keyInitRetry cmd dst state =>
    refine ⟨h.key, h.throwaway, h.opened, hasked (by rw [cmd]; decide), ?_⟩
    intro frame' h'
    obtain ⟨hsrc', hcmd', hdata'⟩ := reply_on_air (by simp [frameMaxDataSize]) h'
    refine ⟨hsrc'.trans h.throwaway, fun _ => ⟨state, ?_⟩, fun hconfirm => ?_⟩
    · exact (payloadPrefix_of_data hdata').symm
    · exact absurd (hcmd'.symm.trans hconfirm) (by decide)
  | keyTransfer takes =>
    obtain ⟨hstate, hcmd, -, -⟩ := takes
    refine ⟨fun _ => ⟨htransfer hcmd hstate, h.opened hstate⟩, h.throwaway, fun hs => (by cases hs),
      ?_, ?_⟩
    · intro frame' h'
      rw [hsame frame' h']
      exact ⟨hsrc, haddress, fun _ hs => by cases hs⟩
    · intro frame' h'
      simp only [createKeyConfirm, createDeviceTerminalAck] at h'
      obtain ⟨hsrc', hcmd', -⟩ := reply_on_air (by simp [frameMaxDataSize]) h'
      refine ⟨hsrc'.trans h.throwaway, fun hchallenge => ?_, fun _ => rfl⟩
      exact absurd (hcmd'.symm.trans hchallenge) (by decide)
  | address cmd dst state src => exact absurd cmd haddress
  | addressChallenge cmd dst state src =>
    refine ⟨h.key, h.throwaway, h.opened, hasked (by rw [cmd]; decide), ?_⟩
    intro frame' h'
    cases hours : createAddressRespDeviceRole ctx.throwawayId frame.src with
    | none =>
      simp only [addressChallengeAnswer, hours, Option.bind_none] at h'
      exact h.replied frame' h'
    | some ours =>
      simp only [addressChallengeAnswer, hours, Option.bind_some] at h'
      exact plain_reply (reply_on_air (by simp [frameMaxDataSize]) h') h.throwaway (by decide)
        (by decide)

end Agreed

namespace Agreement

variable {l : Link}

theorem receive (h : Agreement hub throwawayId l) {now : UInt32} {challenge : Challenge}
    {frame : IoFrame} (hframe : l.toDevice.bind parse = some frame) :
    Agreement hub throwawayId (l.receive now challenge frame) := by
  unfold Link.receive
  cases hr : tryHandleKeyExtractionFrame now challenge l.responder frame with
  | none => exact h
  | some r =>
    have hnow := h.now.step hframe (tryHandleKeyExtractionFrame_step hr)
    refine ⟨fun ctx hctx hkey => ?_, hnow⟩
    rcases List.mem_append.mp hctx with hctx | hctx
    · exact h.past ctx hctx hkey
    · rw [List.mem_singleton.mp hctx] at hkey ⊢
      exact hnow.key hkey

theorem deliver (h : Agreement hub throwawayId l) (arrival : UInt32 × Challenge) :
    Agreement hub throwawayId (l.deliver arrival) := by
  unfold Link.deliver
  cases hframe : l.toDevice.bind parse with
  | none => exact h
  | some frame => exact h.receive hframe

end Agreement

/-- No discovery request is in flight, which could set the responder back. -/
structure Exchanging (hub : Controller) (throwawayId : NodeId) (l : Link) : Prop where
  agreement : Agreement hub throwawayId l
  committed : ∀ frame, l.toDevice.bind parse = some frame → frame.cmd ≠ cmdDiscoverReq

/-- The responder has challenged, and holds this challenge until it has the key. -/
structure Challenged (hub : Controller) (throwawayId : NodeId) (challenge : Challenge)
    (l : Link) : Prop extends Exchanging hub throwawayId l where
  holds : l.responder.ctx.state = .sentChallenge ∧ l.responder.ctx.challenge = challenge ∨
    l.responder.ctx.state = .extracted

/-- The responder has the key. -/
structure Extracted (hub : Controller) (throwawayId : NodeId) (l : Link) : Prop
    extends Exchanging hub throwawayId l where
  holds : l.responder.ctx.state = .extracted

/-- On a frame that is no discovery and asks for no address, a responder that has challenged
keeps its challenge or extracts, and one that has extracted stays. -/
private theorem step_holds {challenge held : Challenge} {frame : IoFrame}
    {ctx ctx' : ResponderContext} {sent : List IoFrame} {logged : List (NodeId × Block)}
    (hstep : ResponderStep challenge frame ctx ctx' sent logged)
    (hdiscover : frame.cmd ≠ cmdDiscoverReq) (haddress : frame.cmd ≠ cmdAddressReq) :
    (ctx.state = .extracted → ctx'.state = .extracted) ∧
      (ctx.state = .sentChallenge ∧ ctx.challenge = held →
        ctx'.state = .sentChallenge ∧ ctx'.challenge = held ∨ ctx'.state = .extracted) := by
  cases hstep with
  | silent => exact ⟨fun h => h, fun h => .inl h⟩
  | discover cmd state => exact absurd cmd hdiscover
  | confirm cmd dst state =>
    constructor
    · intro h
      rcases state with hs | hs <;> simp [h] at hs
    · rintro ⟨h, -⟩
      rcases state with hs | hs <;> simp [h] at hs
  | keyInit cmd dst state =>
    constructor
    · intro h
      rcases state with hs | hs <;> simp [h] at hs
    · rintro ⟨h, -⟩
      rcases state with hs | hs <;> simp [h] at hs
  | keyInitRetry cmd dst state => exact ⟨fun h => h, fun h => .inl h⟩
  | keyTransfer takes => exact ⟨fun _ => rfl, fun _ => .inr rfl⟩
  | address cmd dst state src => exact absurd cmd haddress
  | addressChallenge cmd dst state src => exact ⟨fun h => h, fun h => .inl h⟩

@[simp] private theorem toDevice_deliver (l : Link) (arrival : UInt32 × Challenge) :
    (l.deliver arrival).toDevice = l.toDevice := by
  unfold Link.deliver Link.receive
  split
  · rfl
  · split <;> rfl

theorem Exchanging.deliver {l : Link} (h : Exchanging hub throwawayId l)
    (arrival : UInt32 × Challenge) : Exchanging hub throwawayId (l.deliver arrival) := by
  refine ⟨h.agreement.deliver arrival, ?_⟩
  rw [toDevice_deliver]
  exact h.committed

/-- A delivery takes a step of the responder on the frame in flight, or changes nothing. -/
private theorem deliver_holds {l : Link} (h : Exchanging hub throwawayId l) (held : Challenge)
    (arrival : UInt32 × Challenge) :
    (l.responder.ctx.state = .extracted → (l.deliver arrival).responder.ctx.state = .extracted) ∧
      (l.responder.ctx.state = .sentChallenge ∧ l.responder.ctx.challenge = held →
        (l.deliver arrival).responder.ctx.state = .sentChallenge ∧
            (l.deliver arrival).responder.ctx.challenge = held ∨
          (l.deliver arrival).responder.ctx.state = .extracted) := by
  unfold Link.deliver
  cases hframe : l.toDevice.bind parse with
  | none => exact ⟨fun h => h, fun h => .inl h⟩
  | some frame =>
    simp only [Link.receive]
    cases hr : tryHandleKeyExtractionFrame arrival.1 arrival.2 l.responder frame with
    | none => exact ⟨fun h => h, fun h => .inl h⟩
    | some r =>
      exact step_holds (tryHandleKeyExtractionFrame_step hr) (h.committed frame hframe)
        (h.agreement.now.asked frame hframe).2.1

theorem Challenged.deliver {challenge : Challenge} {l : Link}
    (h : Challenged hub throwawayId challenge l) (arrival : UInt32 × Challenge) :
    Challenged hub throwawayId challenge (l.deliver arrival) := by
  refine ⟨h.toExchanging.deliver arrival, ?_⟩
  obtain ⟨hextracted, hchallenged⟩ := deliver_holds h.toExchanging challenge arrival
  exact h.holds.elim hchallenged fun hs => .inr (hextracted hs)

theorem Extracted.deliver {l : Link} (h : Extracted hub throwawayId l)
    (arrival : UInt32 × Challenge) : Extracted hub throwawayId (l.deliver arrival) :=
  ⟨h.toExchanging.deliver arrival,
    (deliver_holds h.toExchanging (Vector.replicate 6 0) arrival).1 h.holds⟩

/-- A transmission that the responder may meet in any state. -/
private theorem Agreement.sent {l : Link} (h : Agreement hub throwawayId l) {buf : List UInt8}
    {frame : IoFrame} (hparse : parse buf = some frame) (hsrc : frame.src = hub.nodeId)
    (haddress : frame.cmd ≠ cmdAddressReq)
    (htransfer : frame.cmd = cmdKeyTransfer → l.responder.ctx.state = .sentChallenge →
      recoverSystemKeyFromTransfer (payloadPrefix frame 16) l.responder.ctx.challenge =
        hub.systemKey) :
    Agreement hub throwawayId { l with toDevice := some buf } := by
  refine ⟨h.past, h.now.key, h.now.throwaway, h.now.opened, ?_, h.now.replied⟩
  intro frame' h'
  rw [Option.bind_some, hparse] at h'
  rw [← Option.some.inj h']
  exact ⟨hsrc, haddress, htransfer⟩

private theorem Exchanging.sent {l : Link} {buf : List UInt8} {frame : IoFrame}
    (h : Agreement hub throwawayId { l with toDevice := some buf })
    (hparse : parse buf = some frame) (hdiscover : frame.cmd ≠ cmdDiscoverReq) :
    Exchanging hub throwawayId { l with toDevice := some buf } := by
  refine ⟨h, ?_⟩
  intro frame' h'
  rw [Option.bind_some, hparse] at h'
  rw [← Option.some.inj h']
  exact hdiscover

/-- A fact about the link that deliveries keep is steady. -/
private theorem steady_of_deliver (chip : RadioChip) {P : Link → Prop}
    (h : ∀ l arrival, P l → P (l.deliver arrival)) :
    Steady (airRadio chip) fun a => P a.link := by
  have hpass : ∀ a : Air, P a.link → P a.pass.link := by
    intro a ha
    have hfold : ∀ (arrivals : List (UInt32 × Challenge)) (l : Link), P l →
        P (arrivals.foldl Link.deliver l) := by
      intro arrivals
      induction arrivals with
      | nil => exact fun _ hl => hl
      | cons arrival arrivals ih => exact fun l hl => ih _ (h l arrival hl)
    exact hfold _ _ ha
  exact ⟨hpass, fun _ => hpass, hpass, fun _ => hpass, hpass, hpass, fun _ => hpass, hpass⟩

/-- A transmission that the radio takes is in flight; a refused one changes nothing. -/
private theorem sends_of_deliver (chip : RadioChip) {P Q : Link → Prop} {frame : IoFrame}
    (h : ∀ l arrival, P l → P (l.deliver arrival))
    (hsent : ∀ l buf, P l → parse buf = some frame → Q { l with toDevice := some buf }) :
    Sends (airRadio chip) frame (fun a => P a.link)
      fun ok a => if ok then Q a.link else P a.link := by
  intro a buf freq preamble ha hbuf
  have hpass := (steady_of_deliver chip h).delay 0 a ha
  simp only [airRadio]
  split
  · exact hsent a.pass.link buf hpass (parse_serialize hbuf)
  · exact hpass

/-- What the radio hands over is in flight to the controller. -/
private theorem hears_toHub {chip : RadioChip} {I : Air → Prop} :
    Hears (airRadio chip) I fun frame a => a.link.toHub.bind parse = some frame := by
  intro ms a packet _ hpacket frame hframe
  simp only [airRadio] at hpacket ⊢
  split at hpacket
  · cases hair : a.pass.link.toHub with
    | none => simp [Air.packet, hair] at hpacket
    | some data =>
      simp only [Air.packet, hair, Option.bind_some] at hpacket ⊢
      split at hpacket
      · rw [← Option.some.inj hpacket] at hframe
        exact hframe
      · cases hpacket
  · cases hpacket

section

variable {tuning : TuningConfig}

private theorem agreement_steady :
    Steady (airRadio hub.chip) fun a => Agreement hub throwawayId a.link :=
  steady_of_deliver hub.chip fun _ arrival h => h.deliver arrival

private theorem waitForDiscoveryResponse_triple (rx : IoFrame) :
    Triple (fun a => Agreement hub throwawayId a.link)
      (waitForDiscoveryResponse (hub.engine tuning) rx) fun r a =>
      Agreement hub throwawayId a.link ∧ (r.1 = .accept → r.2.src = throwawayId) := by
  refine Triple.bind (listen_triple agreement_steady hears_toHub _ rx _) ?_
  intro listened
  apply Triple.ite
  · intro haccepted
    apply Triple.pure
    intro a h
    have hheard := h.heard_frame haccepted fun _ _ _ hnone => (by cases hnone)
    exact ⟨h.1, fun _ => (h.1.now.replied _ hheard).1⟩
  · intro _
    apply Triple.pure
    intro a h
    refine ⟨h.1, fun haccept => ?_⟩
    cases hcaptured : listened.captured <;> simp [hcaptured] at haccept

private theorem discoveryRequest_triple (command : UInt8) :
    Triple (fun a => Agreement hub throwawayId a.link)
      (discoveryRequest (hub.engine tuning) command) fun created a =>
      Agreement hub throwawayId a.link ∧ ∀ req, created = some req → req.src = hub.nodeId ∧
        (req.cmd = cmdDiscoverReq ∨ req.cmd = cmdDiscoverSpeReq ∨ req.cmd = cmdDiscoverAltReq) := by
  apply Triple.ite
  · intro _
    refine Triple.bind (Triple.ask_keeps agreement_steady.generateChallenge) ?_
    intro nonce
    exact Triple.pure fun a h => ⟨h, fun req hreq => createDiscoveryRequest_fields hreq⟩
  · intro _
    exact Triple.pure fun a h => ⟨h, fun req hreq => createDiscoveryRequest_fields hreq⟩

private theorem discoverySends {req : IoFrame} (hsrc : req.src = hub.nodeId)
    (hcmd : req.cmd = cmdDiscoverReq ∨ req.cmd = cmdDiscoverSpeReq ∨ req.cmd = cmdDiscoverAltReq) :
    Sends (airRadio hub.chip) req (fun a => Agreement hub throwawayId a.link)
      fun _ a => Agreement hub throwawayId a.link := by
  have haddress : req.cmd ≠ cmdAddressReq := by
    rcases hcmd with h | h | h <;> rw [h] <;> decide
  have htransfer : req.cmd ≠ cmdKeyTransfer := by
    rcases hcmd with h | h | h <;> rw [h] <;> decide
  intro a buf freq preamble ha hbuf
  have hsent := sends_of_deliver hub.chip (fun _ arrival h => h.deliver arrival)
    (fun l buf (h : Agreement hub throwawayId l) hparse =>
      h.sent hparse hsrc haddress fun heq => absurd heq htransfer) a buf freq preamble ha hbuf
  simpa using hsent

/-- The device that a discovery found is the responder. -/
private def FoundThrowaway (throwawayId : NodeId) (progress : DiscoveryProgress) : Prop :=
  ∀ context, progress = .found context → context.nodeId = throwawayId

private theorem discoveryAttempts_triple (command : UInt8) (attempts : ℕ)
    (frames : PairingFrames) (sawInvalid : Bool) :
    Triple (fun a => Agreement hub throwawayId a.link)
      (discoveryAttempts (hub.engine tuning) command attempts frames sawInvalid) fun r a =>
      Agreement hub throwawayId a.link ∧ FoundThrowaway throwawayId r := by
  induction attempts generalizing frames sawInvalid with
  | zero => exact Triple.pure fun a h => ⟨h, fun context hfound => by cases hfound⟩
  | succ attempts ih =>
    refine Triple.bind (discoveryRequest_triple command) ?_
    intro created
    cases created with
    | none => exact Triple.pure fun a h => ⟨h.1, fun context hfound => by cases hfound⟩
    | some req =>
      apply Triple.given
      intro hreq
      obtain ⟨hsrc, hcmd⟩ := hreq req rfl
      refine Triple.bind
        (transmitFrame_triple agreement_steady (discoverySends hsrc hcmd) fun _ h => h) ?_
      intro sent
      apply Triple.ite
      · intro _
        exact Triple.pure fun a h => ⟨h, fun context hfound => by cases hfound⟩
      · intro _
        refine Triple.bind (waitForDiscoveryResponse_triple _) ?_
        rintro ⟨disp, rx⟩
        apply Triple.given
        intro hrx
        cases disp with
        | accept =>
          apply Triple.pure
          intro a h
          refine ⟨h, fun context hfound => ?_⟩
          rw [← DiscoveryProgress.found.inj hfound, PairingContext.nodeId,
            decodeDiscoveryResponse_nodeId]
          exact hrx rfl
        | invalid => exact ih _ _
        | noResponse => exact ih _ _

private theorem discoveryCommands_triple (commands : List UInt8) (frames : PairingFrames)
    (sawInvalid : Bool) :
    Triple (fun a => Agreement hub throwawayId a.link)
      (discoveryCommands (hub.engine tuning) commands frames sawInvalid) fun r a =>
      Agreement hub throwawayId a.link ∧ FoundThrowaway throwawayId r := by
  induction commands generalizing frames sawInvalid with
  | nil => exact Triple.pure fun a h => ⟨h, fun context hfound => by cases hfound⟩
  | cons command commands ih =>
    refine Triple.bind (discoveryAttempts_triple command _ frames sawInvalid) ?_
    intro progress
    cases progress with
    | failed => exact Triple.pure fun a h => ⟨h.1, fun context hfound => by cases hfound⟩
    | unanswered frames sawInvalid => exact (ih frames sawInvalid).forget
    | found context => exact Triple.pure fun a h => h

private theorem runDiscoveryPhase_triple (frames : PairingFrames) :
    Triple (fun a => Agreement hub throwawayId a.link)
      (runDiscoveryPhase (hub.engine tuning) frames) fun r a =>
      Agreement hub throwawayId a.link ∧ FoundThrowaway throwawayId r := by
  have hdwell : Triple (fun a => Agreement hub throwawayId a.link)
      (initialDwell (hub.engine tuning)) fun _ a => Agreement hub throwawayId a.link := by
    apply Triple.ite
    · intro _
      exact Triple.ask_keeps (agreement_steady.delay tuning.pairingDiscoveryInitialDwellMs.toUInt32)
    · intro _
      exact Triple.pure fun _ h => h
  refine Triple.bind hdwell ?_
  intro _
  exact discoveryCommands_triple _ frames false

end

section

variable {tuning : TuningConfig} {challenge : Challenge}

private theorem exchanging_steady :
    Steady (airRadio hub.chip) fun a => Exchanging hub throwawayId a.link :=
  steady_of_deliver hub.chip fun _ arrival h => h.deliver arrival

private theorem challenged_steady :
    Steady (airRadio hub.chip) fun a => Challenged hub throwawayId challenge a.link :=
  steady_of_deliver hub.chip fun _ arrival h => h.deliver arrival

private theorem extracted_steady :
    Steady (airRadio hub.chip) fun a => Extracted hub throwawayId a.link :=
  steady_of_deliver hub.chip fun _ arrival h => h.deliver arrival

/-- A challenge in flight is the one the responder holds, and a confirmation was sent on
extracting. -/
private theorem heard_challenge {l : Link} (h : Exchanging hub throwawayId l) {frame : IoFrame}
    (hheard : l.toHub.bind parse = some frame) :
    (frame.cmd = cmdKeyConfirm → Extracted hub throwawayId l) ∧
      (frame.cmd = cmdChallengeReq → Challenged hub throwawayId (payloadPrefix frame 6) l) := by
  obtain ⟨-, hchallenge, hconfirm⟩ := h.agreement.now.replied frame hheard
  exact ⟨fun hcmd => ⟨h, hconfirm hcmd⟩, fun hcmd => ⟨h, .inl (hchallenge hcmd)⟩⟩

variable (hub throwawayId tuning) in
private theorem waitForKeyChallenge_triple (rx : IoFrame) (device : NodeId) :
    Triple (fun a => Exchanging hub throwawayId a.link)
      (waitForKeyChallenge (hub.engine tuning) rx device) fun r a =>
      Exchanging hub throwawayId a.link ∧ (r.1 = true →
        (r.2.cmd = cmdKeyConfirm → Extracted hub throwawayId a.link) ∧
        (r.2.cmd ≠ cmdKeyConfirm →
          Challenged hub throwawayId (payloadPrefix r.2 6) a.link)) := by
  refine Triple.bind (listen_triple exchanging_steady hears_toHub _ rx _) ?_
  intro listened
  apply Triple.pure
  intro a h
  refine ⟨h.1, fun haccepted => ?_⟩
  obtain ⟨before, parsed, packet, ends, output⟩ := h.2 (of_decide_eq_true haccepted)
  obtain ⟨frame, rfl, -, -, hcmd⟩ := keyChallengeHandler_accepts ends
  obtain ⟨hframe, hheard⟩ := output frame rfl
  obtain ⟨hextracted, hchallenged⟩ := heard_challenge h.1 hheard
  simp only [hframe]
  exact ⟨hextracted, fun hne => hchallenged (hcmd.resolve_left hne).1⟩

/-- A key transfer built under a challenge. -/
private structure IsTransfer (hub : Controller) (challenge : Challenge) (req : IoFrame) : Prop where
  cmd : req.cmd = cmdKeyTransfer
  src : req.src = hub.nodeId
  recovers : recoverSystemKeyFromTransfer (payloadPrefix req 16) challenge = hub.systemKey

/-- Transferring the key under the challenge that the responder holds. -/
private theorem transfer_sends {req : IoFrame} (hreq : IsTransfer hub challenge req) :
    Sends (airRadio hub.chip) req (fun a => Challenged hub throwawayId challenge a.link)
      fun _ a => Challenged hub throwawayId challenge a.link := by
  intro a buf freq preamble ha hbuf
  have hkeeps : ∀ l buf, Challenged hub throwawayId challenge l → parse buf = some req →
      Challenged hub throwawayId challenge { l with toDevice := some buf } := by
    intro l buf h hparse
    have hagreement : Agreement hub throwawayId { l with toDevice := some buf } := by
      refine h.agreement.sent hparse hreq.src (by rw [hreq.cmd]; decide) fun _ hstate => ?_
      rcases h.holds with ⟨-, hheld⟩ | hextracted
      · rw [hheld]
        exact hreq.recovers
      · rw [hextracted] at hstate
        cases hstate
    exact ⟨Exchanging.sent hagreement hparse (by rw [hreq.cmd]; decide), h.holds⟩
  have hsent := sends_of_deliver hub.chip (fun _ arrival h => h.deliver arrival) hkeeps
    a buf freq preamble ha hbuf
  simpa using hsent

/-- Any other frame of the controller's during or after the key exchange. -/
private structure IsPlain (hub : Controller) (req : IoFrame) : Prop where
  src : req.src = hub.nodeId
  cmd : req.cmd = cmdKeyInit ∨ req.cmd = cmdChallengeResp ∨ req.cmd = cmdSetConfig1

private theorem IsPlain.sent {req : IoFrame} (hreq : IsPlain hub req) {l : Link}
    (h : Agreement hub throwawayId l) {buf : List UInt8} (hparse : parse buf = some req) :
    Exchanging hub throwawayId { l with toDevice := some buf } := by
  have haddress : req.cmd ≠ cmdAddressReq := by
    rcases hreq.cmd with h | h | h <;> rw [h] <;> decide
  have htransfer : req.cmd ≠ cmdKeyTransfer := by
    rcases hreq.cmd with h | h | h <;> rw [h] <;> decide
  have hdiscover : req.cmd ≠ cmdDiscoverReq := by
    rcases hreq.cmd with h | h | h <;> rw [h] <;> decide
  exact Exchanging.sent (h.sent hparse hreq.src haddress fun heq => absurd heq htransfer) hparse
    hdiscover

private theorem IsPlain.sends_challenged {req : IoFrame} (hreq : IsPlain hub req) :
    Sends (airRadio hub.chip) req (fun a => Challenged hub throwawayId challenge a.link)
      fun _ a => Challenged hub throwawayId challenge a.link := by
  intro a buf freq preamble ha hbuf
  have hsent := sends_of_deliver hub.chip (fun _ arrival h => h.deliver arrival)
    (fun l buf (h : Challenged hub throwawayId challenge l) hparse =>
      (⟨hreq.sent h.agreement hparse, h.holds⟩ : Challenged hub throwawayId challenge _))
    a buf freq preamble ha hbuf
  simpa using hsent

private theorem IsPlain.sends_extracted {req : IoFrame} (hreq : IsPlain hub req) :
    Sends (airRadio hub.chip) req (fun a => Extracted hub throwawayId a.link)
      fun _ a => Extracted hub throwawayId a.link := by
  intro a buf freq preamble ha hbuf
  have hsent := sends_of_deliver hub.chip (fun _ arrival h => h.deliver arrival)
    (fun l buf (h : Extracted hub throwawayId l) hparse =>
      (⟨hreq.sent h.agreement hparse, h.holds⟩ : Extracted hub throwawayId _))
    a buf freq preamble ha hbuf
  simpa using hsent

/-- A key-init that the radio takes commits the controller to the exchange. -/
private theorem IsPlain.sends_agreement {req : IoFrame} (hreq : IsPlain hub req) :
    Sends (airRadio hub.chip) req (fun a => Agreement hub throwawayId a.link)
      fun ok a => Agreement hub throwawayId a.link ∧
        (ok = true → Exchanging hub throwawayId a.link) := by
  intro a buf freq preamble ha hbuf
  have hsent := sends_of_deliver hub.chip (fun _ arrival h => h.deliver arrival)
    (fun l buf (h : Agreement hub throwawayId l) hparse => hreq.sent h hparse)
    a buf freq preamble ha hbuf
  cases hok : ((airRadio hub.chip).sendPacket buf freq preamble a).1 with
  | false =>
    rw [hok] at hsent
    exact ⟨hsent, fun h => absurd h Bool.false_ne_true⟩
  | true =>
    rw [hok] at hsent
    exact ⟨hsent.agreement, fun _ => hsent⟩

/-- How a step of the key exchange ends: still exchanging, about the same device with the same
key-init, and when it succeeds the responder has the key. -/
private def ExchangePost (hub : Controller) (throwawayId : NodeId) (context : PairingContext)
    (r : Bool × PairingContext) (a : Air) : Prop :=
  (Exchanging hub throwawayId a.link ∧ (r.1 = true → Extracted hub throwawayId a.link)) ∧
    r.2.found = context.found ∧ r.2.keyInit = context.keyInit

private theorem ExchangePost.refused {context context' : PairingContext} {a : Air}
    (h : Exchanging hub throwawayId a.link) (hfound : context'.found = context.found)
    (hkeyInit : context'.keyInit = context.keyInit) :
    ExchangePost hub throwawayId context (false, context') a :=
  ⟨⟨h, fun hfalse => absurd hfalse Bool.false_ne_true⟩, hfound, hkeyInit⟩

private theorem delayRetry_triple {P : Link → Prop}
    (steady : Steady (airRadio hub.chip) fun a => P a.link) (first : Bool) :
    Triple (fun a => P a.link) (delayRetry (hub.engine tuning) first) fun _ a => P a.link := by
  apply Triple.ite
  · intro _
    exact Triple.pure fun _ h => h
  · intro _
    exact Triple.ask_keeps (steady.delay exchangeRetryDelayMs)

private theorem waitForKeyConfirm_triple (tries : ℕ) (context : PairingContext)
    (hreq : IsTransfer hub challenge context.req) :
    Triple (fun a => Challenged hub throwawayId challenge a.link)
      (waitForKeyConfirm (hub.engine tuning) tries context)
      (ExchangePost hub throwawayId context) := by
  induction tries generalizing context with
  | zero => exact Triple.pure fun a h => .refused h.toExchanging rfl rfl
  | succ tries ih =>
    refine Triple.bind (delayRetry_triple challenged_steady _) ?_
    intro _
    refine Triple.bind
      (transmitFrame_triple challenged_steady (transfer_sends hreq) fun _ h => h) ?_
    intro sent
    apply Triple.ite
    · intro _
      exact ih context hreq
    · intro _
      refine Triple.bind (listen_triple challenged_steady hears_toHub _ _ _) ?_
      intro listened
      cases houtcome : listened.outcome with
      | accepted =>
        apply Triple.pure
        intro a h
        refine ⟨⟨h.1.toExchanging, fun _ => ?_⟩, rfl, rfl⟩
        obtain ⟨before, parsed, packet, ends, output⟩ := h.2 houtcome
        obtain ⟨frame, rfl, -, -, hcmd⟩ := keyConfirmHandler_accepts ends
        exact (heard_challenge h.1.toExchanging (output frame rfl).2).1 hcmd
      | aborted => exact Triple.pure fun a h => .refused h.1.toExchanging rfl rfl
      | timedOut => exact (ih { context with resp := listened.frame } hreq).forget

variable (hub throwawayId tuning) in
private theorem transferKeyAndWaitConfirm_triple (context : PairingContext)
    (hinit : context.keyInit.cmd = cmdKeyInit) :
    Triple (fun a => Challenged hub throwawayId (payloadPrefix context.rx 6) a.link)
      (transferKeyAndWaitConfirm (hub.engine tuning) context)
      (ExchangePost hub throwawayId context) := by
  unfold transferKeyAndWaitConfirm
  cases hcreated : createKeyTransfer context.keyInit context.nodeId (hub.engine tuning).nodeId
      (hub.engine tuning).systemKey (payloadPrefix context.rx 6) with
  | none => exact Triple.pure fun a h => .refused h.toExchanging rfl rfl
  | some req =>
    obtain ⟨-, hsrc, hcmd, -⟩ := buildFrame_fields hcreated
    have hreq : IsTransfer hub (payloadPrefix context.rx 6) req :=
      ⟨hcmd, hsrc, recoverSystemKey_createKeyTransfer hinit hcreated⟩
    apply Triple.ite
    · intro _
      have keeps : ExchangeKeeps (hub.engine tuning) req fun a =>
          Challenged hub throwawayId (payloadPrefix context.rx 6) a.link :=
        ⟨challenged_steady, transfer_sends hreq, fun auth hauth hauthsrc =>
          IsPlain.sends_challenged ⟨hauthsrc, .inr (.inl hauth)⟩⟩
      refine Triple.bind (sendAndReceive_triple keeps hears_toHub _ _ _) ?_
      intro result
      apply Triple.pure
      intro a h
      refine ⟨⟨h.1.toExchanging, fun hok => ?_⟩, rfl, rfl⟩
      obtain ⟨hsuccess, hconfirm⟩ := Bool.and_eq_true_iff.mp hok
      exact (heard_challenge h.1.toExchanging (h.2 (of_decide_eq_true hsuccess))).1
        (of_decide_eq_true hconfirm)
    · intro _
      exact waitForKeyConfirm_triple _ { context with req := req } hreq

private theorem createKeyInit_plain {hub : Controller} {device : NodeId} {req : IoFrame}
    (h : createKeyInit hub.nodeId device = some req) :
    IsPlain hub req ∧ req.cmd = cmdKeyInit := by
  obtain ⟨-, hsrc, hcmd, -⟩ := buildFrame_fields h
  exact ⟨⟨hsrc, .inl hcmd⟩, hcmd⟩

/-- While it keeps exchanging, the controller may repeat its key-init. -/
private theorem keyInit_sends {req : IoFrame} (hreq : IsPlain hub req) :
    Sends (airRadio hub.chip) req (fun a => Exchanging hub throwawayId a.link)
      fun _ a => Exchanging hub throwawayId a.link := by
  intro a buf freq preamble ha hbuf
  have hsent := sends_of_deliver hub.chip (fun _ arrival h => h.deliver arrival)
    (fun l buf (h : Exchanging hub throwawayId l) hparse => hreq.sent h.agreement hparse)
    a buf freq preamble ha hbuf
  simpa using hsent

variable (hub throwawayId tuning) in
private theorem retriggerKeyInit_triple (repetitions : ℕ) (keyOk : Bool)
    (context : PairingContext) (hinit : IsPlain hub context.keyInit)
    (hcmd : context.keyInit.cmd = cmdKeyInit) :
    Triple
      (fun a => Exchanging hub throwawayId a.link ∧
        (keyOk = true → Extracted hub throwawayId a.link))
      (retriggerKeyInit (hub.engine tuning) repetitions keyOk context)
      (ExchangePost hub throwawayId context) := by
  induction repetitions generalizing keyOk context with
  | zero => exact Triple.pure fun a h => ⟨h, rfl, rfl⟩
  | succ repetitions ih =>
    -- the rest of the loop, while nothing is confirmed
    have hrest : ∀ context' : PairingContext, context'.found = context.found →
        context'.keyInit = context.keyInit →
        Triple (fun a => Exchanging hub throwawayId a.link)
          (retriggerKeyInit (hub.engine tuning) repetitions false context')
          (ExchangePost hub throwawayId context) := by
      intro context' hfound hkeyInit
      have hloop := ih false context' (by rw [hkeyInit]; exact hinit) (by rw [hkeyInit]; exact hcmd)
      exact hloop.weaken (fun a h => ⟨h, fun hfalse => absurd hfalse Bool.false_ne_true⟩)
        fun r a h => ⟨h.1, h.2.1.trans hfound, h.2.2.trans hkeyInit⟩
    apply Triple.ite
    · intro hok
      exact Triple.pure fun a h => ⟨⟨h.1, fun _ => h.2 hok⟩, rfl, rfl⟩
    · intro _
      refine Triple.forget ?_
      refine Triple.bind (delayRetry_triple exchanging_steady false) ?_
      intro _
      refine Triple.bind
        (transmitFrame_triple exchanging_steady (keyInit_sends hinit) fun _ h => h) ?_
      intro sent
      apply Triple.ite
      · intro _
        exact hrest context rfl rfl
      · intro _
        refine Triple.bind (waitForKeyChallenge_triple hub throwawayId tuning _ _) ?_
        intro challenged
        apply Triple.ite
        · intro _
          exact (hrest { context with rx := challenged.2 } rfl rfl).forget
        · intro hok
          rw [Bool.not_eq_false] at hok
          apply Triple.ite
          · intro hconfirm
            exact (ih true { context with rx := challenged.2 } hinit hcmd).weaken
              (fun a h => ⟨h.1, fun _ => (h.2 hok).1 hconfirm⟩) fun r a h => h
          · intro hchallenge
            have htransfer := transferKeyAndWaitConfirm_triple hub throwawayId tuning
              { context with rx := challenged.2 } hcmd
            refine Triple.bind (htransfer.weaken (fun a h => (h.2 hok).2 hchallenge)
              fun _ _ h => h) ?_
            intro transferred
            apply Triple.given
            rintro ⟨hfound, hkeyInit⟩
            have hloop := ih transferred.1 transferred.2 (by rw [hkeyInit]; exact hinit)
              (by rw [hkeyInit]; exact hcmd)
            exact hloop.weaken (fun a h => h) fun r a h =>
              ⟨h.1, h.2.1.trans hfound, h.2.2.trans hkeyInit⟩

/-- How a key exchange ends: in agreement, about the same device, and when it succeeds the
responder has the key. -/
private def PhasePost (hub : Controller) (throwawayId : NodeId) (context : PairingContext)
    (r : Bool × PairingContext) (a : Air) : Prop :=
  (Agreement hub throwawayId a.link ∧ (r.1 = true → Extracted hub throwawayId a.link)) ∧
    r.2.found = context.found

private theorem ExchangePost.phase {context context' : PairingContext}
    {r : Bool × PairingContext} {a : Air} (h : ExchangePost hub throwawayId context' r a)
    (hfound : context'.found = context.found) : PhasePost hub throwawayId context r a :=
  ⟨⟨h.1.1.agreement, h.1.2⟩, h.2.1.trans hfound⟩

private theorem PhasePost.refused {context context' : PairingContext} {a : Air}
    (h : Agreement hub throwawayId a.link) (hfound : context'.found = context.found) :
    PhasePost hub throwawayId context (false, context') a :=
  ⟨⟨h, fun hfalse => absurd hfalse Bool.false_ne_true⟩, hfound⟩

private theorem runKeyExchangePhase_triple (context : PairingContext) :
    Triple (fun a => Agreement hub throwawayId a.link)
      (runKeyExchangePhase (hub.engine tuning) context) (PhasePost hub throwawayId context) := by
  unfold runKeyExchangePhase
  cases hcreated : createKeyInit (hub.engine tuning).nodeId context.nodeId with
  | none => exact Triple.pure fun a h => .refused h rfl
  | some keyInit =>
    obtain ⟨hplain, hcmd⟩ := createKeyInit_plain hcreated
    refine Triple.bind (transmitFrame_triple agreement_steady hplain.sends_agreement
      fun _ h => ⟨h, fun hfalse => absurd hfalse Bool.false_ne_true⟩) ?_
    intro sent
    apply Triple.ite
    · intro _
      exact Triple.pure fun a h => .refused h.1 rfl
    · intro hsent
      rw [Bool.not_eq_false] at hsent
      have hwait := waitForKeyChallenge_triple hub throwawayId tuning context.rx context.nodeId
      refine Triple.bind (hwait.weaken (fun a h => h.2 hsent) fun _ _ h => h) ?_
      intro challenged
      apply Triple.ite
      · intro _
        exact Triple.pure fun a h => .refused h.1.agreement rfl
      · intro hok
        rw [Bool.not_eq_false] at hok
        apply Triple.ite
        · intro hconfirm
          exact Triple.pure fun a h => ⟨⟨h.1.agreement, fun _ => (h.2 hok).1 hconfirm⟩, rfl⟩
        · intro hchallenge
          have htransfer := transferKeyAndWaitConfirm_triple hub throwawayId tuning
            { context with keyInit := keyInit, rx := challenged.2 } hcmd
          refine Triple.bind (htransfer.weaken (fun a h => (h.2 hok).2 hchallenge)
            fun _ _ h => h) ?_
          intro transferred
          apply Triple.ite
          · intro _
            exact Triple.pure fun a h => h.phase rfl
          · intro _
            apply Triple.given
            rintro ⟨hfound, hkeyInit⟩
            have hloop := retriggerKeyInit_triple hub throwawayId tuning 2 transferred.1
              transferred.2 (by rw [hkeyInit]; exact hplain)
              (by rw [hkeyInit]; exact hcmd)
            exact hloop.weaken (fun a h => h) fun r a h => h.phase hfound

private theorem keyExchangeAttempts_triple (attempts : ℕ) (first : Bool)
    (context : PairingContext) :
    Triple (fun a => Agreement hub throwawayId a.link)
      (keyExchangeAttempts (hub.engine tuning) attempts first context)
      (PhasePost hub throwawayId context) := by
  induction attempts generalizing first context with
  | zero => exact Triple.pure fun a h => .refused h rfl
  | succ attempts ih =>
    refine Triple.bind (delayRetry_triple agreement_steady first) ?_
    intro _
    refine Triple.bind (runKeyExchangePhase_triple context) ?_
    intro exchanged
    apply Triple.ite
    · intro _
      exact Triple.pure fun a h => h
    · intro _
      apply Triple.given
      intro hfound
      refine Triple.forget ?_
      exact (ih false exchanged.2).weaken (fun a h => h) fun r a h => ⟨h.1, h.2.trans hfound⟩

variable (hub throwawayId tuning) in
private theorem finalizePairingConfiguration_triple (context : PairingContext) :
    Triple (fun a => Extracted hub throwawayId a.link)
      (finalizePairingConfiguration (hub.engine tuning) context) fun _ a =>
      Extracted hub throwawayId a.link := by
  unfold finalizePairingConfiguration
  cases hcreated : createSetConfig1 (hub.engine tuning).nodeId context.nodeId with
  | none => exact Triple.pure fun a h => h
  | some req =>
    obtain ⟨-, hsrc, hcmd, -⟩ := buildFrame_fields hcreated
    have keeps : ExchangeKeeps (hub.engine tuning) req fun a => Extracted hub throwawayId a.link :=
      ⟨extracted_steady, IsPlain.sends_extracted ⟨hsrc, .inr (.inr hcmd)⟩,
        fun auth hauth hauthsrc => IsPlain.sends_extracted ⟨hauthsrc, .inr (.inl hauth)⟩⟩
    refine Triple.bind (sendAndReceive_triple keeps hears_toHub _ _ _) ?_
    intro result
    exact Triple.pure fun a h => h.1

/-- A pairing keeps the agreement, and when it succeeds the responder has the key. -/
theorem discoverAndPair_triple (registry : DeviceRegistry) :
    Triple (fun a => Agreement hub throwawayId a.link)
      (discoverAndPair (hub.engine tuning) registry) fun r a =>
      Agreement hub throwawayId a.link ∧ (r.1 = true → Extracted hub throwawayId a.link) := by
  have hrefused : ∀ r : Bool × DeviceRegistry, r.1 = false →
      Triple (fun a => Agreement hub throwawayId a.link) (pure r : RadioProg Air _) fun r a =>
        Agreement hub throwawayId a.link ∧ (r.1 = true → Extracted hub throwawayId a.link) :=
    fun r hr => Triple.pure fun a h => ⟨h, fun htrue => absurd (hr.symm.trans htrue) (by decide)⟩
  refine Triple.bind (runDiscoveryPhase_triple emptyFrames) ?_
  intro progress
  cases progress with
  | failed => exact (hrefused _ rfl).forget
  | unanswered frames sawInvalid => exact (hrefused _ rfl).forget
  | found context =>
    refine Triple.forget ?_
    refine Triple.bind (keyExchangeAttempts_triple _ true context) ?_
    intro exchanged
    refine Triple.forget ?_
    apply Triple.ite
    · intro _
      exact (hrefused _ rfl).forget
    · intro hok
      rw [Bool.not_eq_false] at hok
      have hfinalize := finalizePairingConfiguration_triple hub throwawayId tuning exchanged.2
      refine Triple.bind (hfinalize.weaken (fun a h => h.2 hok) fun _ _ h => h) ?_
      intro finalized
      exact Triple.pure fun a h => ⟨h.agreement, fun _ => h⟩

end

variable (hub throwawayId) in
/-- The agreement holds at the end of every session. -/
private theorem session_agreement (turns : ℕ → Turn) (steps : List SessionStep) :
    Agreement hub throwawayId
      ((session hub).run { link := Link.armed throwawayId, turns := turns } steps).link := by
  have hkeep : ∀ (a : Air) (step : SessionStep), Agreement hub throwawayId a.link →
      Agreement hub throwawayId ((session hub).step a step).1.link := by
    intro a step h
    cases step with
    | pair tuning registry => exact (discoverAndPair_triple registry ⟨a, []⟩ h).1
    | wait => exact agreement_steady.delay 0 a h
  exact (session hub).run_keeps (fun a => Agreement hub throwawayId a.link) hkeep armed_agreement
    steps

/-- Pairing after pairing, on a fast or slow radio, under every schedule of losses and
repetitions: whenever the responder has a key it is the controller's, from the controller, and
when a pairing succeeds the responder has extracted it. -/
theorem pairing_agreement (hub : Controller) (throwawayId : NodeId) (turns : ℕ → Turn)
    (steps : List SessionStep) :
    let air := (session hub).run { link := Link.armed throwawayId, turns := turns } steps
    (∀ ctx ∈ air.link.history, ctx.HasKey →
      ctx.recoveredKey = hub.systemKey ∧ ctx.hubNodeId = hub.nodeId) ∧
    ∀ tuning registry, let next := (session hub).step air (.pair tuning registry)
      next.2 = [true] → next.1.link.responder.ctx.state = .extracted ∧
        next.1.link.responder.ctx.recoveredKey = hub.systemKey ∧
        next.1.link.responder.ctx.hubNodeId = hub.nodeId := by
  have hagreement := session_agreement hub throwawayId turns steps
  refine ⟨hagreement.past, fun tuning registry hok => ?_⟩
  have hpaired := (discoverAndPair_triple registry ⟨_, []⟩ hagreement).2 (List.cons.inj hok).1
  exact ⟨hpaired.holds, hpaired.agreement.now.key (.inl hpaired.holds)⟩

/-- With every frame delivered, the first pairing succeeds. -/
example :
    let hub : Controller := ⟨{}, ⟨0xAA, 0, 1⟩, Vector.replicate 16 7⟩
    let delivered : Turn := { deliveries := [(0, Vector.replicate 6 9)] }
    ((session hub).step { link := Link.armed ⟨0x12, 0x34, 0x56⟩, turns := fun _ => delivered }
      (.pair {} ∅)).2 = [true] := by
  decide +kernel

end HomeIoControl.PairingAgreement
