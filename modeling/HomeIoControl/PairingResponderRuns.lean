import HomeIoControl.MachineRuns
import HomeIoControl.PairingResponder

/-!
# Whose key was extracted

The armed responder over every sequence of received frames, from any number of hubs. The key
it prints is attributed to the hub that opened the attempt; an observer remembers which frame
the key came from.
-/

namespace HomeIoControl.PairingResponderRuns

open MachineRuns ProtocolFrames ProtocolCrypto ProtocolCommands PairingResponder

/-- One received frame, with the challenge drawn in case it opens a key exchange. -/
structure Received where
  frame : IoFrame
  candidateChallenge : Challenge
  now : UInt32

/-- `try_handle_key_extraction_frame_`; a frame it leaves alone changes nothing here. -/
def receive (h : KeyExtraction) (e : Received) : KeyExtraction × List ResponderEffect :=
  (tryHandleKeyExtractionFrame e.now e.candidateChallenge h e.frame).getD (h, [])

/-- The responder, with the frame behind the last printed result. -/
structure Observed where
  hub : KeyExtraction
  keySource : Option IoFrame

def observer : Machine Observed Received ResponderEffect where
  step s e :=
    let r := receive s.hub e
    (⟨r.1, if loggedResults r.2 = [] then s.keySource else some e.frame⟩, r.2)

/-- Just armed, from any earlier state of the hub. -/
def armed (h : KeyExtraction) (throwawayId : NodeId) : Observed := ⟨h.arm throwawayId, none⟩

/-- A recovered key came from the hub it is printed with. -/
def FromOneHub (s : Observed) : Prop :=
  s.hub.ctx.HasKey → ∃ transfer, s.keySource = some transfer ∧
    transfer.cmd = cmdKeyTransfer ∧
    recoverSystemKeyFromTransfer (payloadPrefix transfer 16) s.hub.ctx.challenge =
      s.hub.ctx.recoveredKey ∧
    transfer.src = s.hub.ctx.hubNodeId

/-- A frame that the key is taken from comes from the hub that opened the attempt. -/
def SenderMatches (s : Observed) (e : Received) : Prop :=
  TakesKey s.hub.ctx e.frame → e.frame.src = s.hub.ctx.hubNodeId

instance (s : Observed) (e : Received) : Decidable (SenderMatches s e) :=
  inferInstanceAs (Decidable (_ → _))

private theorem receive_step (h : KeyExtraction) (e : Received) :
    ResponderStep e.candidateChallenge e.frame h.ctx (receive h e).1.ctx
      (sentFrames (receive h e).2) (loggedResults (receive h e).2) := by
  unfold receive
  cases hr : tryHandleKeyExtractionFrame e.now e.candidateChallenge h e.frame with
  | none => exact .silent
  | some r => exact tryHandleKeyExtractionFrame_step hr

/-- A frame that carries the key always yields it. -/
private theorem receive_of_takesKey {h : KeyExtraction} {e : Received}
    (takes : TakesKey h.ctx e.frame) :
    (receive h e).1.ctx = withKey h.ctx e.frame ∧ loggedResults (receive h e).2 ≠ [] := by
  rw [receive, tryHandleKeyExtractionFrame_of_takesKey takes, Option.getD_some]
  refine ⟨rfl, ?_⟩
  simp [armPostExtractionGrace, loggedResults]

private theorem fromOneHub_of_takesKey {s : Observed} {e : Received}
    (takes : TakesKey s.hub.ctx e.frame) :
    FromOneHub (observer.step s e).1 ↔ SenderMatches s e := by
  obtain ⟨hctx, hlogged⟩ := receive_of_takesKey takes
  have hsource : (observer.step s e).1.keySource = some e.frame := if_neg hlogged
  have hctx' : (observer.step s e).1.hub.ctx = withKey s.hub.ctx e.frame := hctx
  constructor
  · intro hone _
    obtain ⟨transfer, htransfer, -, -, hsrc⟩ := hone (by rw [hctx']; exact .inl rfl)
    rw [hsource] at htransfer
    rw [Option.some.inj htransfer, hsrc, hctx']
    rfl
  · intro hmatch _
    refine ⟨e.frame, hsource, takes.2.1, ?_, ?_⟩
    · rw [hctx']
      rfl
    · rw [hctx']
      exact hmatch takes

/-- Every other frame keeps the key, its source and its hub together or drops all three. -/
private theorem fromOneHub_of_step (deadline : UInt32) {s : Observed} {candidateChallenge : Challenge}
    {frame : IoFrame} {ctx : ResponderContext} {sent : List IoFrame}
    {logged : List (NodeId × Block)}
    (step : ResponderStep candidateChallenge frame s.hub.ctx ctx sent logged)
    (takes : ¬ TakesKey s.hub.ctx frame) (hone : FromOneHub s) :
    logged = [] ∧ FromOneHub ⟨⟨ctx, deadline⟩, s.keySource⟩ := by
  cases step with
  | silent => exact ⟨rfl, hone⟩
  | discover =>
    exact ⟨rfl, fun h => absurd h
      (ResponderContext.not_hasKey .sentDiscoverResp rfl (by decide) (by decide))⟩
  | confirm =>
    exact ⟨rfl, fun h => absurd h
      (ResponderContext.not_hasKey .sentConfirmAck rfl (by decide) (by decide))⟩
  | keyInit =>
    exact ⟨rfl, fun h => absurd h
      (ResponderContext.not_hasKey .sentChallenge rfl (by decide) (by decide))⟩
  | keyInitRetry => exact ⟨rfl, hone⟩
  | keyTransfer htakes => exact absurd htakes takes
  | address _ _ hkey => exact ⟨rfl, fun _ => hone hkey⟩
  | addressChallenge => exact ⟨rfl, hone⟩

private theorem fromOneHub_step (s : Observed) (e : Received) (hone : FromOneHub s) :
    FromOneHub (observer.step s e).1 ↔ SenderMatches s e := by
  by_cases takes : TakesKey s.hub.ctx e.frame
  · exact fromOneHub_of_takesKey takes
  · have hmatch : SenderMatches s e := fun h => absurd h takes
    obtain ⟨hlogged, hnext⟩ :=
      fromOneHub_of_step (receive s.hub e).1.holdDeadlineMs (receive_step s.hub e) takes hone
    have hsource : (observer.step s e).1.keySource = s.keySource := if_pos hlogged
    refine ⟨fun _ => hmatch, fun _ => ?_⟩
    have heq : (observer.step s e).1 = ⟨(receive s.hub e).1, s.keySource⟩ := by
      rw [← hsource]
      rfl
    rw [heq]
    exact hnext

private theorem fromOneHub_armed (h : KeyExtraction) (throwawayId : NodeId) :
    FromOneHub (armed h throwawayId) := by
  intro hkey
  exact absurd hkey (ResponderContext.not_hasKey .armedIdle rfl (by decide) (by decide))

/-- Over every run of the armed responder: a recovered key always comes from the hub it is
printed with exactly when each frame a key was taken from came from the hub that opened the
attempt. -/
theorem key_from_printed_hub_iff (h : KeyExtraction) (throwawayId : NodeId)
    (es : List Received) :
    (∀ fs, fs <+: es → FromOneHub (observer.run (armed h throwawayId) fs)) ↔
      observer.Along SenderMatches (armed h throwawayId) es :=
  observer.prefixes_hold_iff_along fromOneHub_step (fromOneHub_armed h throwawayId) es

private def received (cmd : UInt8) (dst src : NodeId) (data : List UInt8)
    (h : data.length ≤ frameMaxDataSize) : Received :=
  ⟨⟨0, 0, dst, src, cmd, data, none, h⟩, Vector.replicate 6 0x11, 0⟩

private def throwaway : NodeId := ⟨0x12, 0x34, 0x56⟩
private def hubA : NodeId := ⟨0xAA, 0x00, 0x01⟩
private def hubB : NodeId := ⟨0xBB, 0x00, 0x02⟩

/-- Hub A discovers the responder and opens the key exchange; hub B's key transfer then goes to
the same throwaway address. -/
private def twoHubs : List Received :=
  [received cmdDiscoverReq broadcastDiscover hubA [] empty_payload_le,
    received cmdKeyInit throwaway hubA [] empty_payload_le,
    received cmdKeyTransfer throwaway hubB (List.replicate 16 0x77) (by decide)]

/-- Hub B's key is printed with hub A's address. -/
theorem key_printed_with_other_hub :
    ¬ ∀ (h : KeyExtraction) (throwawayId : NodeId) (es : List Received),
      FromOneHub (observer.run (armed h throwawayId) es) := by
  intro hall
  have hone := hall {} throwaway twoHubs
  obtain ⟨transfer, htransfer, -, -, hsrc⟩ := hone (.inl rfl)
  have hsource : (observer.run (armed {} throwaway) twoHubs).keySource.map IoFrame.src =
      some hubB := rfl
  have hhub : (observer.run (armed {} throwaway) twoHubs).hub.ctx.hubNodeId = hubA := rfl
  rw [htransfer, Option.map_some, hsrc, hhub] at hsource
  exact absurd hsource (by decide)

end HomeIoControl.PairingResponderRuns
