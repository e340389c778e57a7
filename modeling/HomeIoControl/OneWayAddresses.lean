import HomeIoControl.ConfigAddresses
import HomeIoControl.TextPieces

/-!
# The addresses of one-way identities

An identity transmits under an address that the configuration gives or that is derived from its
handle. The build compares it with the other addresses that it knows: those of the hub and of the
identities while the hub is validated, those of other entities at the end.
-/

namespace HomeIoControl.OneWayAddresses

open ProtocolFrames DeviceRegistries TextPieces PythonIntegers ConfigAddresses

/-- An entry of `oneway_controllers:`, with the keys that its validation reads. -/
structure RawIdentity where
  id : String
  nodeId : Option String
  systemKey : Option String
  manufacturer : Option ℕ
  enrollment : Bool

/-- The hub's block, with the keys that name addresses or keys. -/
structure RawConfig where
  nodeId : String
  systemKey : String
  exposedSenders : List String
  onewayControllers : List RawIdentity

/-- An identity with everything resolved. -/
structure Identity where
  id : String
  nodeId : String
  nodeIdDerived : Bool
  systemKey : String
  manufacturer : ℕ
  enrollment : Bool
  deriving DecidableEq, Repr

structure HubConfig where
  nodeId : String
  systemKey : String
  exposedSenders : List String
  onewayControllers : List Identity
  deriving DecidableEq, Repr

section

variable (u : Unicode) (blake2b : List UInt8 → NodeId)

/-- `ONEWAY_CONTROLLER_SCHEMA`. -/
def onewayControllerSchema (raw : RawIdentity) : Except String RawIdentity := do
  let nodeId ← raw.nodeId.mapM (validateNodeId u)
  let systemKey ← raw.systemKey.mapM (validateSystemKey u)
  pure { raw with nodeId, systemKey }

/-- `derive_oneway_node_id`, over the digest of three bytes. -/
def deriveOnewayNodeId (hubNodeId identityId : String) : String :=
  nodeIdToString (blake2b (hubNodeId ++ ":" ++ identityId).toUTF8.toList)

/-- `_reject_node_id_collision`. The addresses taken come with their owners, the latest first. -/
def rejectNodeIdCollision (identityId nodeId : String) (seenNodeIds : List (String × String))
    (derived : Bool) : Except String Unit :=
  match seenNodeIds.lookup nodeId with
  | none => .ok ()
  | some owner =>
    .error ("oneway_controllers id '" ++ identityId ++ "' uses node_id " ++ nodeId ++
      ", which collides with " ++ owner ++
      (if derived then
        " (this address was derived; set node_id: explicitly to resolve the clash)" else "") ++
      ". Two transmitters sharing an address share a rolling sequence " ++
      "counter, which silently desyncs both.")

/-- Raise `cv.Invalid` under a condition. -/
def invalidIf (condition : Bool) (message : String) : Except String Unit :=
  if condition then .error message else .ok ()

/-- One round of `_validate_oneway_controllers`. -/
def resolveIdentity (hubNodeId hubSystemKey : String) (seenIds : List String)
    (seenNodeIds : List (String × String)) (raw : RawIdentity) : Except String Identity := do
  invalidIf (seenIds.contains raw.id) ("Duplicate oneway_controllers id '" ++ raw.id ++
    "' — each identity needs its own handle")
  let nodeId := raw.nodeId.getD (deriveOnewayNodeId blake2b hubNodeId raw.id)
  rejectNodeIdCollision raw.id nodeId seenNodeIds raw.nodeId.isNone
  invalidIf (raw.enrollment && raw.manufacturer.isNone) ("oneway_controllers id '" ++ raw.id ++
    "' has enrollment: true but no manufacturer: " ++
    "set. Find the value from a key-adoption report for this network (the 'Recover " ++
    "1W Controller Key' switch prints it), or from the device's own documentation.")
  pure ⟨raw.id, nodeId, raw.nodeId.isNone, raw.systemKey.getD hubSystemKey,
    raw.manufacturer.getD 0, raw.enrollment⟩

/-- The loop of `_validate_oneway_controllers`. -/
def resolveIdentities (hubNodeId hubSystemKey : String) :
    List String → List (String × String) → List RawIdentity → Except String (List Identity)
  | _, _, [] => pure []
  | seenIds, seenNodeIds, raw :: rest => do
    let identity ← resolveIdentity blake2b hubNodeId hubSystemKey seenIds seenNodeIds raw
    let identities ← resolveIdentities hubNodeId hubSystemKey (raw.id :: seenIds)
      ((identity.nodeId, "oneway_controllers id '" ++ raw.id ++ "'") :: seenNodeIds) rest
    pure (identity :: identities)

/-- The keys of `CONFIG_SCHEMA` that name addresses or keys, and `_validate_oneway_controllers`. -/
def configSchema (raw : RawConfig) : Except String HubConfig := do
  let nodeId ← validateNodeId u raw.nodeId
  let systemKey ← validateSystemKey u raw.systemKey
  let exposedSenders ← raw.exposedSenders.mapM (validateDeviceId u)
  let rawIdentities ← raw.onewayControllers.mapM (onewayControllerSchema u)
  let onewayControllers ← resolveIdentities blake2b nodeId systemKey []
    [(nodeId, "the hub's own node_id")] rawIdentities
  pure ⟨nodeId, systemKey, exposedSenders, onewayControllers⟩

/-- An entry of a platform's list; `owner` is its name, its id or `<unnamed>`. -/
structure Entity where
  platform : String
  owner : String
  ioDeviceId : Option String
  linkedRemotes : List String

/-- The lists of entries by domain. -/
abbrev FullConfig := String → List Entity

def deviceBoundDomains : List String := ["cover", "light", "lock", "switch"]

def isClassRemote (remote : String) : Bool := remote.startsWith "class:"

/-- The addresses that an entry declares, with their owner. -/
def declaredBy (domain : String) (entry : Entity) : List (String × String) :=
  if entry.platform ≠ "home_io_control" then []
  else
    (entry.ioDeviceId.filter (· ≠ "")).toList.map
        (fun deviceId => (deviceId, domain ++ " '" ++ entry.owner ++ "' io_device_id")) ++
      (entry.linkedRemotes.filter fun remote => !isClassRemote remote).map
        fun remote => (remote, domain ++ " '" ++ entry.owner ++ "' linked_remotes")

/-- `_collect_declared_device_addresses`, the latest first. -/
def collectDeclaredDeviceAddresses (full : FullConfig) : List (String × String) :=
  (deviceBoundDomains.flatMap fun domain => (full domain).flatMap (declaredBy domain)).reverse

/-- `_final_validate_oneway_controller_addresses`. -/
def finalValidateOnewayControllerAddresses (config : HubConfig) (full : FullConfig) :
    Except String Unit :=
  config.onewayControllers.forM fun identity =>
    rejectNodeIdCollision identity.id identity.nodeId (collectDeclaredDeviceAddresses full)
      identity.nodeIdDerived

/-- A configuration as a build takes it. -/
def acceptConfig (raw : RawConfig) (full : FullConfig) : Except String HubConfig := do
  let config ← configSchema u blake2b raw
  finalValidateOnewayControllerAddresses config full
  pure config

end

/-- No identity has an address that the checks know of. -/
structure Checked (config : HubConfig) (full : FullConfig) : Prop where
  hub : ∀ identity ∈ config.onewayControllers, identity.nodeId ≠ config.nodeId
  identities : config.onewayControllers.Pairwise fun a b => a.nodeId ≠ b.nodeId
  devices : ∀ identity ∈ config.onewayControllers, ∀ domain ∈ deviceBoundDomains,
    ∀ entry ∈ full domain, entry.platform = "home_io_control" →
      entry.ioDeviceId ≠ some identity.nodeId
  remotes : ∀ identity ∈ config.onewayControllers, ∀ domain ∈ deviceBoundDomains,
    ∀ entry ∈ full domain, entry.platform = "home_io_control" →
      ∀ remote ∈ entry.linkedRemotes, isClassRemote remote = false → remote ≠ identity.nodeId

/-- No identity has an address that the configuration names for someone else. -/
structure Separated (config : HubConfig) (full : FullConfig) : Prop extends
    Checked config full where
  senders : ∀ identity ∈ config.onewayControllers, ∀ sender ∈ config.exposedSenders,
    sender ≠ identity.nodeId

theorem rejectNodeIdCollision_ok {identityId nodeId : String} {seen : List (String × String)}
    {derived : Bool} (h : rejectNodeIdCollision identityId nodeId seen derived = .ok ()) :
    ∀ entry ∈ seen, entry.1 ≠ nodeId := by
  unfold rejectNodeIdCollision at h
  split at h
  · next hnone =>
    intro entry hentry heq
    exact absurd (List.lookup_eq_none_iff.mp hnone entry hentry) (by simp [heq])
  · cases h

theorem resolveIdentity_ok {blake2b : List UInt8 → NodeId} {hubNodeId hubSystemKey : String}
    {seenIds : List String} {seen : List (String × String)} {raw : RawIdentity}
    {identity : Identity}
    (h : resolveIdentity blake2b hubNodeId hubSystemKey seenIds seen raw = .ok identity) :
    (∀ entry ∈ seen, entry.1 ≠ identity.nodeId) ∧
      identity.nodeId = raw.nodeId.getD (deriveOnewayNodeId blake2b hubNodeId raw.id) := by
  obtain ⟨-, -, h⟩ := bind_ok h
  obtain ⟨⟨⟩, hfree, h⟩ := bind_ok h
  obtain ⟨-, -, h⟩ := bind_ok h
  obtain rfl := Except.ok.inj h
  exact ⟨rejectNodeIdCollision_ok hfree, rfl⟩

/-- Each identity's address differs from those taken before the loop and from the other ones. -/
theorem resolveIdentities_ok {blake2b : List UInt8 → NodeId} {hubNodeId hubSystemKey : String}
    {seenIds : List String} {seen : List (String × String)} {raws : List RawIdentity}
    {identities : List Identity}
    (h : resolveIdentities blake2b hubNodeId hubSystemKey seenIds seen raws = .ok identities) :
    (∀ identity ∈ identities, ∀ entry ∈ seen, entry.1 ≠ identity.nodeId) ∧
      identities.Pairwise fun a b => a.nodeId ≠ b.nodeId := by
  induction raws generalizing seenIds seen identities with
  | nil =>
    obtain rfl := Except.ok.inj h
    exact ⟨List.forall_mem_nil _, .nil⟩
  | cons raw raws ih =>
    obtain ⟨first, hfirst, h⟩ := bind_ok h
    obtain ⟨rest, hrest, h⟩ := bind_ok h
    obtain rfl := Except.ok.inj h
    obtain ⟨hfree, hapart⟩ := ih hrest
    constructor
    · rintro identity (_ | ⟨_, hmem⟩) entry hentry
      · exact (resolveIdentity_ok hfirst).1 entry hentry
      · exact hfree identity hmem entry (List.mem_cons_of_mem _ hentry)
    · exact .cons (fun other hother => hfree other hother _ List.mem_cons_self) hapart

theorem nodeIdToString_ne (id : NodeId) : nodeIdToString id ≠ "" := by
  intro heq
  have hchars := congrArg String.toList heq
  simp [nodeIdToString, hexByte] at hchars

theorem resolveIdentities_ne {blake2b : List UInt8 → NodeId} {hubNodeId hubSystemKey : String}
    {seenIds : List String} {seen : List (String × String)} {raws : List RawIdentity}
    {identities : List Identity}
    (h : resolveIdentities blake2b hubNodeId hubSystemKey seenIds seen raws = .ok identities)
    (hraw : ∀ raw ∈ raws, ∀ nodeId ∈ raw.nodeId, nodeId ≠ "") :
    ∀ identity ∈ identities, identity.nodeId ≠ "" := by
  induction raws generalizing seenIds seen identities with
  | nil =>
    obtain rfl := Except.ok.inj h
    exact List.forall_mem_nil _
  | cons raw raws ih =>
    obtain ⟨first, hfirst, h⟩ := bind_ok h
    obtain ⟨rest, hrest, h⟩ := bind_ok h
    obtain rfl := Except.ok.inj h
    rintro identity (_ | ⟨_, hmem⟩)
    · rw [(resolveIdentity_ok hfirst).2]
      cases hnode : raw.nodeId with
      | none => exact nodeIdToString_ne _
      | some nodeId => exact hraw raw List.mem_cons_self nodeId hnode
    · exact ih hrest (fun raw hraw' => hraw raw (List.mem_cons_of_mem _ hraw')) identity hmem

theorem mapM_ok {α β : Type} {f : α → Except String β} {as : List α} {bs : List β}
    (h : as.mapM f = .ok bs) : ∀ b ∈ bs, ∃ a ∈ as, f a = .ok b := by
  induction as generalizing bs with
  | nil =>
    obtain rfl := Except.ok.inj h
    exact List.forall_mem_nil _
  | cons a as ih =>
    rw [List.mapM_cons] at h
    obtain ⟨b, hb, h⟩ := bind_ok h
    obtain ⟨rest, hrest, h⟩ := bind_ok h
    obtain rfl := Except.ok.inj h
    rintro b' (_ | ⟨_, hmem⟩)
    · exact ⟨a, List.mem_cons_self, hb⟩
    · obtain ⟨a', ha', hok⟩ := ih hrest b' hmem
      exact ⟨a', List.mem_cons_of_mem _ ha', hok⟩

theorem onewayControllerSchema_ok {u : Unicode} {raw raw' : RawIdentity}
    (h : onewayControllerSchema u raw = .ok raw') : ∀ nodeId ∈ raw'.nodeId, nodeId ≠ "" := by
  obtain ⟨nodeId, hnode, h⟩ := bind_ok h
  obtain ⟨systemKey, -, h⟩ := bind_ok h
  obtain rfl := Except.ok.inj h
  rintro given hgiven rfl
  obtain rfl : nodeId = some "" := hgiven
  cases hraw : raw.nodeId with
  | none =>
    rw [hraw] at hnode
    exact absurd (Except.ok.inj hnode) (by simp)
  | some text =>
    rw [hraw] at hnode
    obtain ⟨hex, hhex, hsome⟩ := bind_ok hnode
    obtain rfl : hex = "" := Option.some.inj (Except.ok.inj hsome)
    exact absurd (validateHex_ok hhex).2.1 (by simp)

/-- What the hub's schema makes sure of. -/
theorem configSchema_ok {u : Unicode} {blake2b : List UInt8 → NodeId} {raw : RawConfig}
    {config : HubConfig} (h : configSchema u blake2b raw = .ok config) :
    (∀ identity ∈ config.onewayControllers, identity.nodeId ≠ config.nodeId) ∧
      config.onewayControllers.Pairwise (fun a b => a.nodeId ≠ b.nodeId) ∧
      ∀ identity ∈ config.onewayControllers, identity.nodeId ≠ "" := by
  obtain ⟨nodeId, -, h⟩ := bind_ok h
  obtain ⟨systemKey, -, h⟩ := bind_ok h
  obtain ⟨exposedSenders, -, h⟩ := bind_ok h
  obtain ⟨rawIdentities, hraws, h⟩ := bind_ok h
  obtain ⟨identities, hidentities, h⟩ := bind_ok h
  obtain rfl := Except.ok.inj h
  obtain ⟨hfree, hapart⟩ := resolveIdentities_ok hidentities
  refine ⟨?_, hapart, resolveIdentities_ne hidentities fun raw' hraw' => ?_⟩
  · exact fun identity hmem => (hfree identity hmem _ (List.mem_singleton.mpr rfl)).symm
  · obtain ⟨raw, -, hok⟩ := mapM_ok hraws raw' hraw'
    exact onewayControllerSchema_ok hok

theorem forM_ok {α : Type} {f : α → Except String Unit} {as : List α}
    (h : as.forM f = .ok ()) : ∀ a ∈ as, f a = .ok () := by
  induction as with
  | nil => exact List.forall_mem_nil _
  | cons a as ih =>
    obtain ⟨⟨⟩, ha, hrest⟩ := bind_ok h
    exact List.forall_mem_cons.mpr ⟨ha, ih hrest⟩

/-- What final validation makes sure of. -/
theorem finalValidate_ok {config : HubConfig} {full : FullConfig}
    (h : finalValidateOnewayControllerAddresses config full = .ok ()) :
    ∀ identity ∈ config.onewayControllers, ∀ domain ∈ deviceBoundDomains,
      ∀ entry ∈ full domain, ∀ address ∈ declaredBy domain entry, address.1 ≠ identity.nodeId := by
  intro identity hidentity domain hdomain entry hentry address haddress
  refine rejectNodeIdCollision_ok (forM_ok h identity hidentity) address ?_
  rw [collectDeclaredDeviceAddresses, List.mem_reverse]
  exact List.mem_flatMap.mpr ⟨domain, hdomain, List.mem_flatMap.mpr ⟨entry, hentry, haddress⟩⟩

/-- An accepted configuration passes every check. -/
theorem acceptConfig_checked {u : Unicode} {blake2b : List UInt8 → NodeId} {raw : RawConfig}
    {full : FullConfig} {config : HubConfig} (h : acceptConfig u blake2b raw full = .ok config) :
    Checked config full := by
  obtain ⟨config', hschema, h⟩ := bind_ok h
  obtain ⟨⟨⟩, hfinal, h⟩ := bind_ok h
  obtain rfl := Except.ok.inj h
  obtain ⟨hhub, hapart, hne⟩ := configSchema_ok hschema
  have hdeclared := finalValidate_ok hfinal
  refine ⟨hhub, hapart, ?_, ?_⟩
  · intro identity hidentity domain hdomain entry hentry hplatform hdevice
    refine hdeclared identity hidentity domain hdomain entry hentry
      (identity.nodeId, domain ++ " '" ++ entry.owner ++ "' io_device_id") ?_ rfl
    simp [declaredBy, hplatform, hdevice, Option.filter, hne identity hidentity]
  · intro identity hidentity domain hdomain entry hentry hplatform remote hremote hclass heq
    refine hdeclared identity hidentity domain hdomain entry hentry
      (remote, domain ++ " '" ++ entry.owner ++ "' linked_remotes") ?_ heq
    simp [declaredBy, hplatform, hremote, hclass]

/-- In an accepted configuration the identities are apart from everything that it names exactly
where none has the address of an exposed sender. -/
theorem accepted_separated_iff (u : Unicode) (blake2b : List UInt8 → NodeId) (raw : RawConfig)
    (full : FullConfig) (config : HubConfig) (h : acceptConfig u blake2b raw full = .ok config) :
    Separated config full ↔
      ∀ identity ∈ config.onewayControllers, identity.nodeId ∉ config.exposedSenders := by
  constructor
  · intro hseparated identity hidentity hsender
    exact hseparated.senders identity hidentity _ hsender rfl
  · intro hsenders
    refine ⟨acceptConfig_checked h, fun identity hidentity sender hsender heq => ?_⟩
    exact hsenders identity hidentity (heq ▸ hsender)

/-- A hub with one identity and one exposed sender. -/
def oneIdentity (nodeId : Option String) (sender : String) : RawConfig where
  nodeId := "7f5958"
  systemKey := "00112233445566778899aabbccddeeff"
  exposedSenders := [sender]
  onewayControllers := [⟨"garden", nodeId, none, none, false⟩]

/-- The configuration that it becomes. -/
def withIdentity (nodeId : String) (derived : Bool) (sender : String) : HubConfig where
  nodeId := "7F5958"
  systemKey := "00112233445566778899AABBCCDDEEFF"
  exposedSenders := [sender]
  onewayControllers :=
    [⟨"garden", nodeId, derived, "00112233445566778899AABBCCDDEEFF", 0, false⟩]

/-- One cover of the hub, with a linked remote and a linked class. -/
def oneAwning : FullConfig := fun domain =>
  if domain = "cover" then
    [⟨"home_io_control", "Awning", some "31BAF7", ["9D6085", "class:0x03"]⟩]
  else []

theorem accepted_separated_derived :
    Separated (withIdentity "C0FFEE" true "9D6085") oneAwning ↔
      ∀ identity ∈ (withIdentity "C0FFEE" true "9D6085").onewayControllers,
        identity.nodeId ∉ (withIdentity "C0FFEE" true "9D6085").exposedSenders :=
  accepted_separated_iff asciiOnly (fun _ => ⟨0xC0, 0xFF, 0xEE⟩) (oneIdentity none "9d6085")
    oneAwning _ (by decide +kernel)

/-- An identity with the address of an exposed sender is accepted. -/
theorem exposed_sender_shared :
    ¬ ∀ (raw : RawConfig) (full : FullConfig) (config : HubConfig),
      acceptConfig asciiOnly (fun _ => ⟨0xC0, 0xFF, 0xEE⟩) raw full = .ok config →
        Separated config full := by
  intro hall
  have hseparated := hall (oneIdentity (some "9d6085") "9d6085") (fun _ => [])
    (withIdentity "9D6085" false "9D6085") (by decide +kernel)
  exact hseparated.senders _ (List.mem_singleton.mpr rfl) "9D6085" (List.mem_singleton.mpr rfl) rfl

end HomeIoControl.OneWayAddresses
