import HomeIoControl.ExtractionTimers

/-!
# Foreign hubs after an extraction

Once the responder holds a key, only the hub that the key came from can move it. The six handlers
check the state and the sender in different orders; for a frame of another hub each of them ends
without a reply.
-/

namespace HomeIoControl.ForeignHubs

open MachineRuns ProtocolFrames ProtocolCrypto ProtocolCommands PairingResponder ExtractionTimers

section

variable {now : UInt32} {candidateChallenge : Challenge} {h : KeyExtraction} {frame : IoFrame}

theorem discover_foreign (hkey : h.ctx.HasKey) (foreign : frame.src ≠ h.ctx.hubNodeId) :
    handleKeyExtractionDiscover now h frame = (h, []) := by
  have hrefused : onDiscoverRequest h.ctx frame.src = none := by
    have hidle : ¬ (h.ctx.state = .armedIdle ∨ h.ctx.state = .sentDiscoverResp) := by
      rintro (hstate | hstate)
      · exact ResponderContext.not_hasKey .armedIdle hstate (by decide) (by decide) hkey
      · exact ResponderContext.not_hasKey .sentDiscoverResp hstate (by decide) (by decide) hkey
    have hheld : h.ctx.state = .extracted ∨ h.ctx.state = .sentAddressResp := hkey
    rw [onDiscoverRequest, if_neg hidle, if_pos hheld, if_pos foreign]
  rw [handleKeyExtractionDiscover, hrefused]

theorem confirm_held (hkey : h.ctx.HasKey) :
    handleKeyExtractionDiscoverConfirm now h frame = (h, []) := by
  have hrefused : onDiscoverConfirm h.ctx = none := by
    rcases hkey with hstate | hstate <;> simp [onDiscoverConfirm, hstate]
  rw [handleKeyExtractionDiscoverConfirm, hrefused]

theorem keyInit_held (hkey : h.ctx.HasKey) :
    handleKeyExtractionKeyInit now candidateChallenge h frame = (h, []) := by
  have hrefused : onKeyInit h.ctx candidateChallenge frame.src = none := by
    rcases hkey with hstate | hstate <;> simp [onKeyInit, hstate]
  rw [handleKeyExtractionKeyInit, hrefused]

theorem keyTransfer_held (hkey : h.ctx.HasKey) :
    handleKeyExtractionKeyTransfer now h frame = (h, []) := by
  have hrefused : onKeyTransfer h.ctx (payloadPrefix frame 16) = none := by
    rcases hkey with hstate | hstate <;> simp [onKeyTransfer, hstate]
  rw [handleKeyExtractionKeyTransfer, hrefused]
  exact ite_self _

theorem addressReq_foreign (foreign : frame.src ≠ h.ctx.hubNodeId) :
    handleKeyExtractionAddressReq now h frame = (h, []) := by
  rw [handleKeyExtractionAddressReq, if_pos foreign]

theorem addressChallenge_foreign (foreign : frame.src ≠ h.ctx.hubNodeId) :
    handleKeyExtractionAddressChallenge now h frame = (h, []) := by
  rw [handleKeyExtractionAddressChallenge, if_pos foreign]

/-- A responder that holds a key leaves every frame of another hub alone, or takes it without
doing anything. -/
theorem tryHandleKeyExtractionFrame_foreign (hkey : h.ctx.HasKey)
    (foreign : frame.src ≠ h.ctx.hubNodeId) :
    tryHandleKeyExtractionFrame now candidateChallenge h frame = none ∨
      tryHandleKeyExtractionFrame now candidateChallenge h frame = some (h, []) := by
  unfold tryHandleKeyExtractionFrame
  split_ifs
  · exact .inl rfl
  · exact .inr (congrArg some (discover_foreign hkey foreign))
  · exact .inl rfl
  · exact .inr (congrArg some (confirm_held hkey))
  · exact .inr (congrArg some (keyInit_held hkey))
  · exact .inr (congrArg some (keyTransfer_held hkey))
  · exact .inr (congrArg some (addressReq_foreign foreign))
  · exact .inr (congrArg some (addressChallenge_foreign foreign))
  · exact .inl rfl

end

/-- A frame of another hub than the one whose key the responder holds. -/
def ForeignFrame (h : Hub) (e : Event) : Prop :=
  h.responder.ctx.HasKey ∧ ∃ frame candidateChallenge,
    e.action = .receive frame candidateChallenge ∧ frame.src ≠ h.responder.ctx.hubNodeId

theorem step_foreign (h : Hub) (e : Event) (foreign : ForeignFrame h e) :
    hubMachine.step h e = (h, []) := by
  obtain ⟨hkey, frame, candidateChallenge, haction, hsrc⟩ := foreign
  change step h e = (h, [])
  rw [step, haction]
  change receive e.now candidateChallenge h frame = (h, [])
  rw [receive]
  rcases tryHandleKeyExtractionFrame_foreign hkey hsrc with hnone | hidle
  · rw [hnone]
  · rw [hidle]
    rfl

/-- From any state, and with any further events, frames of other hubs put into the stream while
the responder holds a key change nothing: the responder with its hold deadline, both timers, the
replies and the printed results are those of the run without them. -/
theorem foreign_frames_change_nothing (h : Hub) (es fs : List Event)
    (inserted : hubMachine.Inserts ForeignFrame h es fs) :
    hubMachine.run h fs = hubMachine.run h es ∧
      hubMachine.outputs h fs = hubMachine.outputs h es :=
  inserted.same hubMachine step_foreign

private def throwaway : NodeId := ⟨0x12, 0x34, 0x56⟩
private def pairedHub : NodeId := ⟨0xAA, 0x00, 0x01⟩
private def otherHub : NodeId := ⟨0xBB, 0x00, 0x02⟩

private def frameFrom (src : NodeId) (cmd : UInt8) (dst : NodeId) (data : List UInt8)
    (h : data.length ≤ frameMaxDataSize) : Action :=
  .receive ⟨0, 0, dst, src, cmd, data, none, h⟩ (Vector.replicate 6 0x11)

private def extraction : List Event :=
  [⟨0, .setArmed throwaway⟩,
    ⟨1000, frameFrom pairedHub cmdDiscoverReq broadcastDiscover [] empty_payload_le⟩,
    ⟨2000, frameFrom pairedHub cmdKeyInit throwaway [] empty_payload_le⟩,
    ⟨3000, frameFrom pairedHub cmdKeyTransfer throwaway (List.replicate 16 0x66) (by decide)⟩]

private def discovery : Event :=
  ⟨3500, frameFrom otherHub cmdDiscoverReq broadcastDiscover [] empty_payload_le⟩

private def keyTransfer : Event :=
  ⟨4500, frameFrom otherHub cmdKeyTransfer throwaway (List.replicate 16 0x55) (by decide)⟩

private def addressReq : Event :=
  ⟨4000, frameFrom pairedHub cmdAddressReq throwaway [] empty_payload_le⟩

/-- Another hub's discovery and key transfer, put before and after the address request. -/
theorem foreign_discovery_changes_nothing :
    hubMachine.run .boot (extraction ++ [discovery, addressReq, keyTransfer]) =
        hubMachine.run .boot (extraction ++ [addressReq]) ∧
      hubMachine.outputs .boot (extraction ++ [discovery, addressReq, keyTransfer]) =
        hubMachine.outputs .boot (extraction ++ [addressReq]) :=
  foreign_frames_change_nothing .boot (extraction ++ [addressReq])
    (extraction ++ [discovery, addressReq, keyTransfer])
    (.keep _ <| .keep _ <| .keep _ <| .keep _ <|
      .put ⟨by decide, _, _, rfl, by decide⟩ <| .keep _ <|
      .put ⟨by decide, _, _, rfl, by decide⟩ <| .nil _)

end HomeIoControl.ForeignHubs
