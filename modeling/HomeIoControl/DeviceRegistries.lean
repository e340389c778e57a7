import HomeIoControl.DeviceModels
import HomeIoControl.OrderedMaps
import Mathlib.Data.String.Basic

/-!
# The device registry

Devices are registered under the hexadecimal form of their address. The registry carries that
each record's address is the one its key spells.
-/

namespace HomeIoControl.DeviceRegistries

open ProtocolFrames DeviceModels OrderedMaps

def hexNibble (ch : Char) : Option ℕ :=
  if '0' ≤ ch ∧ ch ≤ '9' then some (ch.toNat - '0'.toNat)
  else
    let ch := ch.toUpper
    if 'A' ≤ ch ∧ ch ≤ 'F' then some (10 + (ch.toNat - 'A'.toNat)) else none

/-- The bytes that pairs of digits spell. -/
def hexPairs : List Char → Option (List UInt8)
  | [] => some []
  | [_] => none
  | high :: low :: rest =>
    match hexNibble high, hexNibble low, hexPairs rest with
    | some high, some low, some bytes => some (UInt8.ofNat (16 * high + low) :: bytes)
    | _, _, _ => none

/-- `hex_to_bytes` for an address. -/
def hexToNodeId (hex : String) : Option NodeId :=
  match hexPairs hex.toList with
  | some [b0, b1, b2] => some ⟨b0, b1, b2⟩
  | _ => none

def hexDigit (n : ℕ) : Char :=
  if n < 10 then Char.ofNat ('0'.toNat + n) else Char.ofNat ('A'.toNat + (n - 10))

def hexByte (b : UInt8) : List Char := [hexDigit (b.toNat / 16), hexDigit (b.toNat % 16)]

def nodeIdToString (id : NodeId) : String :=
  String.ofList (hexByte id.b0 ++ hexByte id.b1 ++ hexByte id.b2)

theorem hexNibble_hexDigit {n : ℕ} (h : n < 16) : hexNibble (hexDigit n) = some n := by
  revert n
  decide

theorem hexPairs_hexByte (b : UInt8) (rest : List Char) :
    hexPairs (hexByte b ++ rest) = (hexPairs rest).map (b :: ·) := by
  have hb := b.toNat_lt
  have hhigh : hexNibble (hexDigit (b.toNat / 16)) = some (b.toNat / 16) :=
    hexNibble_hexDigit (by omega)
  have hlow : hexNibble (hexDigit (b.toNat % 16)) = some (b.toNat % 16) :=
    hexNibble_hexDigit (by omega)
  have hbyte : UInt8.ofNat (16 * (b.toNat / 16) + b.toNat % 16) = b := by
    rw [Nat.div_add_mod, UInt8.ofNat_toNat]
  simp only [hexByte, List.cons_append, List.nil_append, hexPairs, hhigh, hlow]
  cases hexPairs rest with
  | none => rfl
  | some bytes => simp [hbyte]

theorem hexPairs_flatMap (bytes : List UInt8) :
    hexPairs (bytes.flatMap hexByte) = some bytes := by
  induction bytes with
  | nil => rfl
  | cons b bytes ih => rw [List.flatMap_cons, hexPairs_hexByte, ih, Option.map_some]

theorem hexByte_injective {a b : UInt8} (h : hexByte a = hexByte b) : a = b := by
  have hread := congrArg hexPairs h
  have hpair (byte : UInt8) : hexPairs (hexByte byte) = some [byte] := by
    simpa using hexPairs_flatMap [byte]
  rw [hpair, hpair] at hread
  exact (List.cons.inj (Option.some.inj hread)).1

theorem addressText_injective {id id' : NodeId}
    (h : hexByte id.b0 ++ (hexByte id.b1 ++ hexByte id.b2) =
      hexByte id'.b0 ++ (hexByte id'.b1 ++ hexByte id'.b2)) : id = id' := by
  obtain ⟨h0, hrest⟩ := List.append_inj h rfl
  obtain ⟨h1, h2⟩ := List.append_inj hrest rfl
  obtain ⟨b0, b1, b2⟩ := id
  obtain ⟨b0', b1', b2'⟩ := id'
  rw [NodeId.mk.injEq]
  exact ⟨hexByte_injective h0, hexByte_injective h1, hexByte_injective h2⟩

/-- The identifier of an address spells that address. -/
@[simp] theorem hexToNodeId_nodeIdToString (id : NodeId) :
    hexToNodeId (nodeIdToString id) = some id := by
  have hpairs : hexPairs (nodeIdToString id).toList = some [id.b0, id.b1, id.b2] := by
    have hbytes := hexPairs_flatMap [id.b0, id.b1, id.b2]
    simpa [nodeIdToString] using hbytes
  rw [hexToNodeId, hpairs]

structure DeviceConfig where
  type : DeviceType := .unknown
  subtype : UInt8 := 0
  inverted : Bool := false
  optimisticState : Bool := true
  silent : Bool := false
  lowPower : Bool := false

/-- The registered devices, and the devices linked to a remote or to a class of devices. -/
structure DeviceRegistry where
  devices : OrderedMap String IoDevice := ∅
  linkedRemotes : OrderedMap String (List String) := ∅
  linkedRemoteClasses : OrderedMap ℕ (List String) := ∅
  spelled : ∀ id dev, devices.find id = some dev → hexToNodeId id = some dev.nodeId := by
    intro _ _ h
    cases h

namespace DeviceRegistry

instance : EmptyCollection DeviceRegistry := ⟨{ devices := ∅ }⟩

variable (reg : DeviceRegistry)

def get (id : String) : Option IoDevice := reg.devices.find id

/-- `put`, for a device whose address its identifier spells. -/
def put (id : String) (device : IoDevice) (h : hexToNodeId id = some device.nodeId) :
    DeviceRegistry :=
  { reg with
    devices := reg.devices.insert id device
    spelled := by
      intro id' dev hfind
      rw [OrderedMap.find_insert] at hfind
      split_ifs at hfind with heq
      · rw [heq, ← Option.some.inj hfind]
        exact h
      · exact reg.spelled id' dev hfind }

/-- Register a configured device, unless it is there or its identifier is malformed. -/
def add (id : String) (cfg : DeviceConfig) : DeviceRegistry :=
  if (reg.get id).isSome then reg
  else
    match h : hexToNodeId id with
    | none => reg
    | some nodeId => reg.put id
        { nodeId := nodeId
          type := cfg.type
          subtype := cfg.subtype
          inverted := cfg.inverted
          optimisticState := cfg.optimisticState
          silent := cfg.silent
          lowPower := cfg.lowPower } h

/-- An update of the record in place; no update changes an address. -/
def update (id : String) (f : IoDevice → IoDevice) (hf : ∀ dev, (f dev).nodeId = dev.nodeId) :
    DeviceRegistry :=
  match h : reg.get id with
  | none => reg
  | some dev => reg.put id (f dev) (by rw [hf]; exact reg.spelled id dev h)

/-- `set_dimmable`, of a light right after its registration. -/
def setDimmable (id : String) (dimmable : Bool) : DeviceRegistry :=
  reg.update id (fun dev => { dev with dimmable := dimmable }) fun _ => rfl

/-- `set_silent`. -/
def setSilent (id : String) (silent : Bool) : DeviceRegistry :=
  reg.update id (fun dev => { dev with silent := silent }) fun _ => rfl

def linkedDevices (remoteId : String) : Option (List String) := reg.linkedRemotes.find remoteId

def linkedDevicesForClass (type : DeviceType) : Option (List String) :=
  reg.linkedRemoteClasses.find type.raw.toNat

/-- The device under an identifier, unless it takes no optimistic state. -/
def optimisticDevice (id : String) : Option IoDevice :=
  (reg.get id).filter fun dev => dev.optimisticState

def applyOptimisticTarget (id : String) (target : Position) : DeviceRegistry × Bool :=
  if (reg.optimisticDevice id).isSome then
    (reg.update id (fun dev => { dev with
      optimistic := { dev.optimistic with target := target, motion := .moving } }) fun _ => rfl,
      true)
  else (reg, false)

def applyOptimisticStop (id : String) : DeviceRegistry × Bool :=
  if (reg.optimisticDevice id).isSome then
    (reg.update id (fun dev => { dev with
      optimistic := { dev.optimistic with target := unknownPosition, motion := .stopped } })
      fun _ => rfl, true)
  else (reg, false)

def applyOptimisticTilt (id : String) (tilt : Position) : DeviceRegistry × Bool :=
  if ((reg.optimisticDevice id).filter fun dev => deviceSupportsTilt dev.type).isSome then
    (reg.update id (fun dev => { dev with
      optimistic := { dev.optimistic with tilt := tilt } }) fun _ => rfl, true)
  else (reg, false)

/-- `rollback_optimistic`: every prediction is withdrawn. -/
def rollbackOptimistic (id : String) : DeviceRegistry :=
  reg.update id (fun dev => { dev with optimistic := {} }) fun _ => rfl

@[simp] theorem get_put_self (id : String) (device : IoDevice)
    (h : hexToNodeId id = some device.nodeId) : (reg.put id device h).get id = some device :=
  OrderedMap.find_insert_self _ _ _

theorem get_put_of_ne {id id' : String} (hne : id' ≠ id) (device : IoDevice)
    (h : hexToNodeId id = some device.nodeId) : (reg.put id device h).get id' = reg.get id' :=
  OrderedMap.find_insert_of_ne _ hne _

/-- A new device is registered as configured. -/
theorem get_add {id : String} {nodeId : NodeId} (cfg : DeviceConfig) (hnew : reg.get id = none)
    (hid : hexToNodeId id = some nodeId) :
    (reg.add id cfg).get id = some
      { nodeId := nodeId
        type := cfg.type
        subtype := cfg.subtype
        inverted := cfg.inverted
        optimisticState := cfg.optimisticState
        silent := cfg.silent
        lowPower := cfg.lowPower } := by
  unfold add
  rw [hnew]
  split
  · next h => exact absurd h (by simp)
  · split
    · next hnone => rw [hid] at hnone; cases hnone
    · next nodeId' hsome =>
      rw [get_put_self]
      rw [hid] at hsome
      cases hsome
      rfl

theorem get_update (id id' : String) (f : IoDevice → IoDevice)
    (hf : ∀ dev, (f dev).nodeId = dev.nodeId) :
    (reg.update id f hf).get id' = if id' = id then (reg.get id).map f else reg.get id' := by
  unfold update
  split
  · next h =>
    split_ifs with heq
    · rw [heq, h, Option.map_none]
    · rfl
  · next dev h =>
    split_ifs with heq
    · rw [heq, get_put_self, h, Option.map_some]
    · exact reg.get_put_of_ne heq _ _

end DeviceRegistry

/-- Of every device two registries show the same. -/
def SameShown {α : Type} (view : IoDevice → α) (reg reg' : DeviceRegistry) : Prop :=
  ∀ id, (reg'.get id).map view = (reg.get id).map view

namespace SameShown

variable {α : Type} {view : IoDevice → α} {reg reg' reg'' : DeviceRegistry}

theorem refl (reg : DeviceRegistry) : SameShown view reg reg := fun _ => rfl

theorem of_eq (h : reg' = reg) : SameShown view reg reg' := fun id => by rw [h]

theorem trans (h : SameShown view reg reg') (h' : SameShown view reg' reg'') :
    SameShown view reg reg'' :=
  fun id => (h' id).trans (h id)

/-- An update that leaves what is shown of a device leaves what is shown of the registry. -/
theorem update (reg : DeviceRegistry) (id : String) (f : IoDevice → IoDevice)
    (hf : ∀ dev, (f dev).nodeId = dev.nodeId) (h : ∀ dev, view (f dev) = view dev) :
    SameShown view reg (reg.update id f hf) := by
  intro id'
  rw [DeviceRegistry.get_update]
  split_ifs with heq
  · rw [heq, Option.map_map, show view ∘ f = view from funext h]
  · rfl

end SameShown

end HomeIoControl.DeviceRegistries
