import HomeIoControl.DeviceRequests

/-!
# One-way frames

What a controller identity broadcasts to a class of devices: movements, and the two frames of an
enrollment. A frame that adds a controller carries its key wrapped under the sender's address, and
its authenticator, if it has one, behind the declared length.
-/

namespace HomeIoControl.OneWayFrames

open ProtocolFrames ProtocolCrypto ProtocolCommands ProtocolCodecs DeviceModels DeviceRequests
  PendingOperations

def cmdOnewayRemove : UInt8 := 0x39
def onewayExecuteAcei : UInt8 := 0x43
def onewayExecuteAceiVelux : UInt8 := 0x61
def onewayAddDataValue : UInt8 := 0x01
def onewayRemoveDataValue : UInt8 := 0x00

/-- `encode_broadcast_address`: the class in the type bits, every subtype. -/
def encodeBroadcastAddress (type : DeviceType) : NodeId :=
  ⟨0, type.raw >>> 2, (type.raw <<< 6) ||| deviceSubtypeMask⟩

def init1wBroadcastFrame (src : NodeId) (targetType : DeviceType) : IoFrame :=
  setSrc (setDst (initFrame false true true false) (encodeBroadcastAddress targetType)) src

/-- The two bytes of a sequence, as they go on air. -/
def sequenceBytes (sequence : UInt16) : List UInt8 :=
  [(sequence >>> 8).toUInt8, sequence.toUInt8]

/-- `build_1w_execute`: the authenticator covers the command and its parameters. -/
def build1wExecute (src : NodeId) (targetType : DeviceType) (main0 main1 : UInt8)
    (sequence : UInt16) (controllerKey : Block) (acei : UInt8) (broadcastAll : Bool) :
    Option IoFrame :=
  let params := [executeOriginator, acei, main0, main1, 0x00, 0x00]
  let mac := create1wHmac (cmdExecute :: params) sequence controllerKey
  setCmd (init1wBroadcastFrame src (if broadcastAll then .unknown else targetType)) cmdExecute
    (params ++ sequenceBytes sequence ++ mac.toList)

def create1wExecutePosition (src : NodeId) (targetType : DeviceType) (position : UInt8)
    (sequence : UInt16) (controllerKey : Block) (acei : UInt8) (broadcastAll : Bool) :
    Option IoFrame :=
  if position > positionPercentMax then none
  else build1wExecute src targetType (positionWireScale * position) 0x00 sequence controllerKey
    acei broadcastAll

def create1wExecuteCommand (src : NodeId) (targetType : DeviceType) (cmd : CoverCommand)
    (sequence : UInt16) (controllerKey : Block) (acei : UInt8) (broadcastAll : Bool) :
    Option IoFrame :=
  match commandBytes cmd with
  | none => none
  | some (main0, main1) =>
    build1wExecute src targetType main0 main1 sequence controllerKey acei broadcastAll

/-- `create_1w_add_controller`: the authenticator covers the command and the wrapped key, and goes
behind the declared length. -/
def create1wAddController (src : NodeId) (targetType : DeviceType) (manufacturer : UInt8)
    (sequence : UInt16) (controllerKey : Block) (withMac : Bool) : Option IoFrame :=
  let encKey := crypt1wKey src controllerKey
  let mac := create1wHmac (cmdOnewayAddController :: encKey.toList) sequence controllerKey
  (setCmd (init1wBroadcastFrame src targetType) cmdOnewayAddController
    (encKey.toList ++ [manufacturer, onewayAddDataValue] ++ sequenceBytes sequence)).map
    fun f => if withMac then { f with mac := some mac } else f

/-- `create_1w_remove_controller`. -/
def create1wRemoveController (src : NodeId) (targetType : DeviceType) (sequence : UInt16)
    (controllerKey : Block) : Option IoFrame :=
  let mac := create1wHmac [cmdOnewayRemove, onewayRemoveDataValue] sequence controllerKey
  setCmd (init1wBroadcastFrame src targetType) cmdOnewayRemove
    ([onewayRemoveDataValue] ++ sequenceBytes sequence ++ mac.toList)

def sequenceAt (f : IoFrame) (offset : ℕ) : UInt16 :=
  (f.dataAt offset).toUInt16 <<< 8 ||| (f.dataAt (offset + 1)).toUInt16

/-- The sequence that a frame carries, where its command has one. -/
def sequenceOf (f : IoFrame) : Option UInt16 :=
  if f.cmd = cmdExecute then some (sequenceAt f 6)
  else if f.cmd = cmdOnewayAddController then some (sequenceAt f 18)
  else if f.cmd = cmdOnewayRemove then some (sequenceAt f 1)
  else none

/-- The frame is the identity's, under the sequence. -/
structure Carries (nodeId : NodeId) (sequence : UInt16) (f : IoFrame) : Prop where
  src : f.src = nodeId
  sequence : sequenceOf f = some sequence

/-- The bytes of a sequence, put together again. -/
theorem sequence_of_bytes (sequence : UInt16) :
    (sequence >>> 8).toUInt8.toUInt16 <<< 8 ||| sequence.toUInt8.toUInt16 = sequence := by
  apply UInt16.eq_of_toBitVec_eq
  simp only [UInt16.toBitVec_or, UInt16.toBitVec_shiftLeft, UInt8.toBitVec_toUInt16,
    UInt16.toBitVec_toUInt8, UInt16.toBitVec_shiftRight]
  apply BitVec.eq_of_getLsbD_eq
  intro i hi
  by_cases hlow : i < 8
  · simp [hi, hlow]
  · have hshift : 8 + (i - 8) = i := by omega
    have hhigh : i - 8 < 8 := by omega
    simp [hi, hlow, hshift, hhigh]

theorem sequenceAt_of_data {f : IoFrame} (front behind : List UInt8) {sequence : UInt16}
    (h : f.data = front ++ sequenceBytes sequence ++ behind) :
    sequenceAt f front.length = sequence := by
  have hhigh : f.dataAt front.length = (sequence >>> 8).toUInt8 := by
    simp [IoFrame.dataAt, h, sequenceBytes]
  have hlow : f.dataAt (front.length + 1) = sequence.toUInt8 := by
    simp [IoFrame.dataAt, h, sequenceBytes]
  rw [sequenceAt, hhigh, hlow, sequence_of_bytes]

theorem setCmd_fields {f g : IoFrame} {cmd : UInt8} {params : List UInt8}
    (h : setCmd f cmd params = some g) :
    g.src = f.src ∧ g.cmd = cmd ∧ g.data = params ∧ g.mac = f.mac := by
  unfold setCmd at h
  split_ifs at h
  rw [← Option.some.inj h]
  exact ⟨rfl, rfl, rfl, rfl⟩

theorem build1wExecute_carries {src : NodeId} {targetType : DeviceType} {main0 main1 : UInt8}
    {sequence : UInt16} {key : Block} {acei : UInt8} {broadcastAll : Bool} {f : IoFrame}
    (h : build1wExecute src targetType main0 main1 sequence key acei broadcastAll = some f) :
    Carries src sequence f := by
  obtain ⟨hsrc, hcmd, hdata, -⟩ := setCmd_fields h
  refine ⟨hsrc, ?_⟩
  rw [sequenceOf, if_pos hcmd]
  exact congrArg some (sequenceAt_of_data [executeOriginator, acei, main0, main1, 0, 0] _ hdata)

theorem create1wExecutePosition_carries {src : NodeId} {targetType : DeviceType} {position : UInt8}
    {sequence : UInt16} {key : Block} {acei : UInt8} {broadcastAll : Bool} {f : IoFrame}
    (h : create1wExecutePosition src targetType position sequence key acei broadcastAll = some f) :
    Carries src sequence f := by
  unfold create1wExecutePosition at h
  split_ifs at h
  exact build1wExecute_carries h

theorem create1wExecuteCommand_carries {src : NodeId} {targetType : DeviceType} {cmd : CoverCommand}
    {sequence : UInt16} {key : Block} {acei : UInt8} {broadcastAll : Bool} {f : IoFrame}
    (h : create1wExecuteCommand src targetType cmd sequence key acei broadcastAll = some f) :
    Carries src sequence f := by
  unfold create1wExecuteCommand at h
  split at h
  · cases h
  · exact build1wExecute_carries h

theorem create1wRemoveController_carries {src : NodeId} {targetType : DeviceType}
    {sequence : UInt16} {key : Block} {f : IoFrame}
    (h : create1wRemoveController src targetType sequence key = some f) :
    Carries src sequence f := by
  obtain ⟨hsrc, hcmd, hdata, -⟩ := setCmd_fields h
  refine ⟨hsrc, ?_⟩
  rw [sequenceOf, hcmd]
  exact congrArg some (sequenceAt_of_data [onewayRemoveDataValue] _ hdata)

/-- What is received of a transmitted frame. -/
def received (f : IoFrame) : Option IoFrame := (serialize f).bind parse

/-- The wrap is its own inverse. -/
theorem crypt1wKey_crypt1wKey (node : NodeId) (key : Block) :
    crypt1wKey node (crypt1wKey node key) = key :=
  xorBlocks_cancel key _

/-- A frame whose declared length fits its payload, with a trailer only where one is carried, is
transmitted. -/
theorem received_self {f : IoFrame} (hlength : frameLength f = frameMinSize + f.dataLen)
    (htrailer : f.mac.isSome = true → frameCarriesMacTrailer f.cmd = true) : received f = some f := by
  have hserialize : (serialize f).isSome = true := by
    rw [serialize, if_neg (by omega), if_neg (by omega), if_neg]
    · rfl
    · rintro ⟨hmac, hcarries⟩
      rw [htrailer hmac] at hcarries
      cases hcarries
  obtain ⟨buf, hbuf⟩ := Option.isSome_iff_exists.mp hserialize
  rw [received, hbuf]
  exact parse_serialize hbuf

/-- What an added controller's frame carries. -/
theorem create1wAddController_fields {src : NodeId} {targetType : DeviceType} {manufacturer : UInt8}
    {sequence : UInt16} {key : Block} {withMac : Bool} {f : IoFrame}
    (h : create1wAddController src targetType manufacturer sequence key withMac = some f) :
    frameLength f = frameMinSize + f.dataLen ∧ is1w f = true ∧ f.cmd = cmdOnewayAddController ∧
      f.src = src ∧
      f.data = (crypt1wKey src key).toList ++ [manufacturer, onewayAddDataValue] ++
        sequenceBytes sequence ∧
      f.mac = if withMac then
        some (create1wHmac (cmdOnewayAddController :: (crypt1wKey src key).toList) sequence key)
      else none := by
  obtain ⟨g, hg, hf⟩ := Option.map_eq_some_iff.mp h
  have hlength := frameLength_setCmd hg
  have hlen : ((crypt1wKey src key).toList ++ [manufacturer, onewayAddDataValue] ++
      sequenceBytes sequence).length = 20 := by simp [sequenceBytes]
  rw [setCmd, dif_pos (by rw [hlen]; decide), Option.some.injEq] at hg
  have honeway : is1w g = true := by
    rw [← hg]
    simp only [is1w, hlen, init1wBroadcastFrame, setSrc, setDst, initFrame, if_true,
      Bool.false_eq_true, if_false]
    decide
  subst hg
  cases withMac <;>
  · rw [← hf]
    exact ⟨hlength, honeway, rfl, rfl, rfl, rfl⟩

theorem create1wAddController_carries {src : NodeId} {targetType : DeviceType}
    {manufacturer : UInt8} {sequence : UInt16} {key : Block} {withMac : Bool} {f : IoFrame}
    (h : create1wAddController src targetType manufacturer sequence key withMac = some f) :
    Carries src sequence f ∧ f.cmd = cmdOnewayAddController := by
  obtain ⟨-, -, hcmd, hsrc, hdata, -⟩ := create1wAddController_fields h
  refine ⟨⟨hsrc, ?_⟩, hcmd⟩
  have hlen : ((crypt1wKey src key).toList ++ [manufacturer, onewayAddDataValue]).length = 18 := by
    simp
  rw [sequenceOf, hcmd, ← hlen]
  exact congrArg some (sequenceAt_of_data _ [] (by rw [hdata, List.append_nil]))

/-- The comparison of `decode_1w_add_controller`: the differing bits of all bytes, collected. -/
def macDifference (mac expected : Mac) : UInt8 :=
  (Vector.zipWith (· ^^^ ·) mac expected).toList.foldl (· ||| ·) 0

/-- The authenticator with the bits of a mask flipped. -/
def flipBits (mac mask : Mac) : Mac := Vector.zipWith (· ^^^ ·) mac mask

/-- The verdict on a received authenticator. -/
def macStatus (expected : Mac) : Option Mac → OneWayMacStatus
  | none => .notPresent
  | some mac => if macDifference mac expected = 0 then .verified else .failed

theorem foldl_or_eq_zero_iff (bytes : List UInt8) (acc : UInt8) :
    bytes.foldl (· ||| ·) acc = 0 ↔ acc = 0 ∧ ∀ b ∈ bytes, b = 0 := by
  induction bytes generalizing acc with
  | nil => simp
  | cons b bytes ih =>
    rw [List.foldl_cons, ih, UInt8.or_eq_zero_iff]
    simp [and_assoc]

theorem macDifference_eq_zero_iff {mac expected : Mac} :
    macDifference mac expected = 0 ↔ mac = expected := by
  rw [macDifference, foldl_or_eq_zero_iff]
  constructor
  · rintro ⟨-, h⟩
    apply Vector.ext
    intro i hi
    have hbyte := h (mac[i] ^^^ expected[i]) (by
      rw [Vector.mem_toList_iff, Vector.mem_iff_getElem]
      exact ⟨i, hi, by simp⟩)
    exact UInt8.xor_eq_zero_iff.mp hbyte
  · rintro rfl
    refine ⟨rfl, fun b hb => ?_⟩
    rw [Vector.mem_toList_iff, Vector.mem_iff_getElem] at hb
    obtain ⟨i, hi, rfl⟩ := hb
    simp

theorem flipBits_ne {mac mask : Mac} (hmask : mask ≠ Vector.replicate 6 0) :
    flipBits mac mask ≠ mac := by
  intro heq
  apply hmask
  apply Vector.ext
  intro i hi
  have hbyte : mac[i] ^^^ mask[i] = mac[i] := by
    have h := congrArg (fun v : Mac => v[i]) heq
    simpa [flipBits] using h
  have hcancel := congrArg (mac[i] ^^^ ·) hbyte
  simpa [← UInt8.xor_assoc] using hcancel

theorem payloadPrefix_of_append {f : IoFrame} {n : ℕ} {v : Vector UInt8 n} {rest : List UInt8}
    (h : f.data = v.toList ++ rest) : payloadPrefix f n = v := by
  apply Vector.ext
  intro i hi
  simp [payloadPrefix, IoFrame.dataAt, h, List.getElem?_append_left]

/-- Decoding gives back what the builder put in, with the verdict on the authenticator. -/
theorem decode_of_fields {g : IoFrame} {src : NodeId} {manufacturer : UInt8} {sequence : UInt16}
    {key : Block} (h1w : is1w g = true) (hcmd : g.cmd = cmdOnewayAddController) (hsrc : g.src = src)
    (hdata : g.data = (crypt1wKey src key).toList ++ [manufacturer, onewayAddDataValue] ++
      sequenceBytes sequence) :
    decode1wAddController g = .ok
      { systemKey := key
        manufacturer := manufacturer
        senderNode := src
        sequence := sequence
        macStatus := macStatus
          (create1wHmac (cmdOnewayAddController :: (crypt1wKey src key).toList) sequence key)
          g.mac } := by
  have hlen : g.dataLen = onewayAddControllerPayloadSize := by
    simp [IoFrame.dataLen, hdata, sequenceBytes, onewayAddControllerPayloadSize]
  have henc : payloadPrefix g 16 = crypt1wKey src key :=
    payloadPrefix_of_append (by rw [hdata, List.append_assoc])
  have hmanufacturer : g.dataAt 16 = manufacturer := by simp [IoFrame.dataAt, hdata]
  have hsequence : (g.dataAt 18).toUInt16 <<< 8 ||| (g.dataAt 19).toUInt16 = sequence := by
    have hat := sequenceAt_of_data _ [] (hdata.trans (List.append_nil _).symm)
    simpa [sequenceAt] using hat
  simp only [decode1wAddController, h1w, hcmd, hsrc, hlen, henc, hmanufacturer, hsequence,
    crypt1wKey_crypt1wKey]
  cases g.mac <;> simp [macStatus, macDifference_eq_zero_iff]

/-- A controller that is added can be adopted: what a receiver decodes is what the builder was
given, an authenticator verifies, and none with flipped bits does. -/
theorem add_controller_round_trip {src : NodeId} {targetType : DeviceType} {manufacturer : UInt8}
    {sequence : UInt16} {key : Block} {withMac : Bool} {f : IoFrame}
    (h : create1wAddController src targetType manufacturer sequence key withMac = some f) :
    ∃ g, received f = some g ∧
      decode1wAddController g = .ok
        { systemKey := key
          manufacturer := manufacturer
          senderNode := src
          sequence := sequence
          macStatus := if withMac then .verified else .notPresent } ∧
      ∀ mac ∈ g.mac, ∀ mask : Mac, mask ≠ Vector.replicate 6 0 →
        decode1wAddController { g with mac := some (flipBits mac mask) } = .ok
          { systemKey := key
            manufacturer := manufacturer
            senderNode := src
            sequence := sequence
            macStatus := .failed } := by
  obtain ⟨hlength, h1w, hcmd, hsrc, hdata, hmac⟩ := create1wAddController_fields h
  refine ⟨f, received_self hlength fun _ => by rw [hcmd]; rfl, ?_, ?_⟩
  · rw [decode_of_fields h1w hcmd hsrc hdata, hmac]
    cases withMac <;> simp [macStatus, macDifference_eq_zero_iff]
  · intro mac hreceived mask hmask
    have hexpected : mac =
        create1wHmac (cmdOnewayAddController :: (crypt1wKey src key).toList) sequence key := by
      rw [hmac] at hreceived
      cases withMac
      · cases hreceived
      · exact (Option.some.inj hreceived).symm
    rw [decode_of_fields (g := { f with mac := some (flipBits mac mask) }) h1w hcmd hsrc hdata,
      macStatus, if_neg]
    rw [macDifference_eq_zero_iff, hexpected]
    exact flipBits_ne hmask

/-- The builder's payload fits a frame, so that it always succeeds. -/
theorem create1wAddController_isSome (src : NodeId) (targetType : DeviceType)
    (manufacturer : UInt8) (sequence : UInt16) (key : Block) (withMac : Bool) :
    (create1wAddController src targetType manufacturer sequence key withMac).isSome = true := by
  simp [create1wAddController, setCmd, sequenceBytes, frameMaxDataSize]

/-- A roller shutter's controller with an authenticator. -/
theorem signed_controller_round_trip : ∃ f g,
    create1wAddController ⟨0xC3, 0x00, 0x01⟩ .rollerShutter 0x02 0x0599 (Vector.replicate 16 0x5A)
      true = some f ∧ received f = some g ∧
    decode1wAddController g = .ok
      { systemKey := Vector.replicate 16 0x5A
        manufacturer := 0x02
        senderNode := ⟨0xC3, 0x00, 0x01⟩
        sequence := 0x0599
        macStatus := .verified } := by
  obtain ⟨f, hf⟩ := Option.isSome_iff_exists.mp (create1wAddController_isSome ⟨0xC3, 0x00, 0x01⟩
    .rollerShutter 0x02 0x0599 (Vector.replicate 16 0x5A) true)
  obtain ⟨g, hg, hdecode, -⟩ := add_controller_round_trip hf
  exact ⟨f, g, hf, hg, hdecode⟩

/-- What a receiver checks of a signed frame: the sequence in front of the last six bytes, and the
authenticator there, over the command and everything before the sequence. -/
structure Signed (key : Block) (sequence : UInt16) (f : IoFrame) : Prop where
  oneWay : is1w f = true
  sequenceOf : sequenceOf f = some sequence
  sequenceAt : sequenceAt f (f.dataLen - 8) = sequence
  authenticator : f.data.drop (f.dataLen - 6) =
    (create1wHmac (f.cmd :: f.data.take (f.dataLen - 8)) sequence key).toList

/-- The builders of movements and removals, under an identity's address and key. -/
inductive Builds (src : NodeId) (key : Block) (sequence : UInt16) (f : IoFrame) : Prop where
  | position (targetType : DeviceType) (position acei : UInt8) (broadcastAll : Bool)
      (h : create1wExecutePosition src targetType position sequence key acei broadcastAll = some f)
  | command (targetType : DeviceType) (cmd : CoverCommand) (acei : UInt8) (broadcastAll : Bool)
      (h : create1wExecuteCommand src targetType cmd sequence key acei broadcastAll = some f)
  | removal (targetType : DeviceType)
      (h : create1wRemoveController src targetType sequence key = some f)

theorem is1w_setCmd {src : NodeId} {targetType : DeviceType} {cmd : UInt8} {params : List UInt8}
    {f : IoFrame} (h : setCmd (init1wBroadcastFrame src targetType) cmd params = some f) :
    is1w f = true := by
  have hctrl0 : ∀ n : UInt8,
      ((0xE0 &&& ~~~ctrl0LengthMask) ||| (n &&& ctrl0LengthMask)) &&& ctrl0Protocol1w ≠ 0 :=
    forall_byte (by set_option maxRecDepth 4000 in decide)
  unfold setCmd at h
  split_ifs at h
  rw [← Option.some.inj h]
  exact bne_iff_ne.mpr (hctrl0 _)

/-- Both assemblies put the parameters, the sequence and the authenticator one behind another. -/
theorem signed_of_setCmd {src : NodeId} {targetType : DeviceType} {cmd : UInt8}
    {params : List UInt8} {sequence : UInt16} {key : Block} {f : IoFrame}
    (h : setCmd (init1wBroadcastFrame src targetType) cmd (params ++ sequenceBytes sequence ++
      (create1wHmac (cmd :: params) sequence key).toList) = some f)
    (hsequence : OneWayFrames.sequenceOf f = some sequence) :
    received f = some f ∧ Signed key sequence f := by
  obtain ⟨-, hcmd, hdata, hmac⟩ := setCmd_fields h
  have hlen : f.dataLen = params.length + 8 := by
    simp [IoFrame.dataLen, hdata, sequenceBytes]
  have hlength : frameLength f = frameMinSize + f.dataLen := by
    rw [frameLength_setCmd h, IoFrame.dataLen, hdata]
  refine ⟨received_self hlength fun htrailer => ?_, is1w_setCmd h, hsequence, ?_, ?_⟩
  · have hnone : f.mac = none := hmac
    rw [hnone] at htrailer
    cases htrailer
  · rw [hlen, Nat.add_sub_cancel]
    exact sequenceAt_of_data params _ hdata
  · rw [hlen, hcmd, hdata]
    simp [sequenceBytes]

/-- Every movement and every removal that is built is received as it was sent, carries its sequence
where a receiver reads it, and verifies against its own bytes. -/
theorem builds_verify {src : NodeId} {key : Block} {sequence : UInt16} {f : IoFrame}
    (h : Builds src key sequence f) : ∃ g, received f = some g ∧ Signed key sequence g := by
  cases h with
  | position targetType position acei broadcastAll h =>
    have hcarries := (create1wExecutePosition_carries h).sequence
    unfold create1wExecutePosition at h
    split_ifs at h
    exact ⟨f, signed_of_setCmd h hcarries⟩
  | command targetType cmd acei broadcastAll h =>
    have hcarries := (create1wExecuteCommand_carries h).sequence
    unfold create1wExecuteCommand at h
    split at h
    · cases h
    · exact ⟨f, signed_of_setCmd h hcarries⟩
  | removal targetType h =>
    exact ⟨f, signed_of_setCmd h (create1wRemoveController_carries h).sequence⟩

/-- A removal from the roller shutters. -/
theorem builds_verify_removal : ∃ f g,
    create1wRemoveController ⟨0xC3, 0x00, 0x01⟩ .rollerShutter 0x0599 (Vector.replicate 16 0x5A) =
        some f ∧
      received f = some g ∧ Signed (Vector.replicate 16 0x5A) 0x0599 g := by
  obtain ⟨f, hf⟩ : ∃ f, create1wRemoveController ⟨0xC3, 0x00, 0x01⟩ .rollerShutter 0x0599
      (Vector.replicate 16 0x5A) = some f := by
    apply Option.isSome_iff_exists.mp
    simp [create1wRemoveController, setCmd, sequenceBytes, frameMaxDataSize]
  obtain ⟨g, hg, hsigned⟩ := builds_verify (.removal .rollerShutter hf)
  exact ⟨f, g, hf, hg, hsigned⟩

end HomeIoControl.OneWayFrames
