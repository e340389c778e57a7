import HomeIoControl.PairingEngineRuns

/-!
# Pairing a registered device again

Some properties of a device are declared in its configuration and reported by no frame. A
pairing registers the record that the discovery response describes, in the place of any record
that was there.
-/

namespace HomeIoControl.RePairing

open TracedPrograms OrderedMaps ProtocolFrames ProtocolCommands DeviceModels DeviceRegistries
  RadioLinks Exchanges ExchangeRuns PairingEngine PairingEngineRuns

/-- The declared properties of a device. The inversion is one only where it was declared, else
it follows from the type. -/
structure Preferences where
  lowPower : Bool
  silent : Bool
  optimisticState : Bool
  dimmable : Bool
  inverted : Option Bool
  deriving DecidableEq, Repr

def preferences (inversionDeclared : Bool) (dev : IoDevice) : Preferences where
  lowPower := dev.lowPower
  silent := dev.silent
  optimisticState := dev.optimisticState
  dimmable := dev.dimmable
  inverted := if inversionDeclared then some dev.inverted else none

/-- The setup of an entity registers what its configuration declares. -/
theorem setup_declares {registry : DeviceRegistry} {id : String} {nodeId : NodeId}
    (cfg : DeviceConfig) (dimmable inversionDeclared : Bool)
    (hnew : registry.get id = none) (hid : hexToNodeId id = some nodeId) :
    (((registry.add id cfg).setDimmable id dimmable).get id).map (preferences inversionDeclared) =
      some ⟨cfg.lowPower, cfg.silent, cfg.optimisticState, dimmable,
        if inversionDeclared then some cfg.inverted else none⟩ := by
  have hadd := registry.get_add cfg hnew hid
  rw [DeviceRegistry.setDimmable, DeviceRegistry.get_update, if_pos rfl, hadd]
  rfl

/-- The device is declared as before, and every other record is the same. -/
structure KeepsDeclared (inversionDeclared : Bool) (id : String) (before after : DeviceRegistry) :
    Prop where
  declared : (after.get id).map (preferences inversionDeclared) =
    (before.get id).map (preferences inversionDeclared)
  others : ∀ id', id' ≠ id → after.get id' = before.get id'

/-- The inversion that follows from the type in a discovery response. -/
def reportedInversion (response : IoFrame) : Bool :=
  decide (deviceMetadataSize ≤ response.dataLen) &&
    defaultInvertedForType (decodePackedDeviceType (response.dataAt 0) (response.dataAt 1))

/-- The device is declared as if its configuration said nothing, but perhaps on the inversion
that follows from the reported type. -/
structure DeclaredByDefault (inversionDeclared : Bool) (response : IoFrame) (dev : IoDevice) :
    Prop where
  lowPower : dev.lowPower = false
  silent : dev.silent = false
  optimisticState : dev.optimisticState = true
  dimmable : dev.dimmable = false
  inverted : inversionDeclared = true → dev.inverted = reportedInversion response

private theorem preferences_discovered (inversionDeclared : Bool) (response : IoFrame) :
    preferences inversionDeclared (decodeDiscoveryResponse response).device =
      ⟨false, false, true, false,
        if inversionDeclared then some (reportedInversion response) else none⟩ := by
  unfold decodeDiscoveryResponse
  by_cases hmetadata : deviceMetadataSize ≤ response.dataLen <;>
    simp [preferences, reportedInversion, hmetadata]

private theorem preferences_eq_iff (inversionDeclared : Bool) (response : IoFrame)
    (dev : IoDevice) :
    preferences inversionDeclared (decodeDiscoveryResponse response).device =
      preferences inversionDeclared dev ↔ DeclaredByDefault inversionDeclared response dev := by
  rw [preferences_discovered]
  constructor
  · intro h
    simp only [preferences, Preferences.mk.injEq] at h
    obtain ⟨hlowPower, hsilent, hoptimistic, hdimmable, hinverted⟩ := h
    refine ⟨hlowPower.symm, hsilent.symm, hoptimistic.symm, hdimmable.symm, fun hdeclared => ?_⟩
    rw [hdeclared] at hinverted
    exact (Option.some.inj hinverted).symm
  · intro h
    have hinverted : (if inversionDeclared then some (reportedInversion response) else none) =
        if inversionDeclared then some dev.inverted else none := by
      split_ifs with hdeclared
      · rw [h.inverted hdeclared]
      · rfl
    simp only [preferences, h.lowPower, h.silent, h.optimisticState, h.dimmable, hinverted]

/-- A pairing that succeeds keeps what is declared of the paired device exactly when that is
what a fresh record says; every other record it keeps always. -/
theorem repairing_keeps_declared_iff {σ : Type} (engine : ExchangeEngine σ)
    (registry : DeviceRegistry) (w : World σ RadioEvent)
    (hpaired : (discoverAndPair engine registry w).1.1 = true) :
    let run := discoverAndPair engine registry w
    ∃ es response, run.2.log = w.log ++ es ∧ HeardResponse engine.nodeId response es ∧
      run.1.2.get (nodeIdToString response.src) = some (decodeDiscoveryResponse response).device ∧
      ∀ dev, registry.get (nodeIdToString response.src) = some dev → ∀ inversionDeclared,
        KeepsDeclared inversionDeclared (nodeIdToString response.src) registry run.1.2 ↔
          DeclaredByDefault inversionDeclared response dev := by
  intro run
  have htraces : Traces (discoverAndPair engine registry) (Registers engine.nodeId registry) :=
    discoverAndPair_traces registry
  obtain ⟨es, hlog, -, hregistered⟩ := htraces w
  obtain ⟨response, found, -, -, rfl, hput, hheard, -⟩ := hregistered hpaired
  have hself : run.1.2.get (nodeIdToString response.src) =
      some (decodeDiscoveryResponse response).device := by
    rw [hput]
    exact registry.get_put_self _ _ _
  refine ⟨es, response, hlog, hheard, hself, fun dev hdev inversionDeclared => ?_⟩
  rw [← preferences_eq_iff]
  constructor
  · intro hkeeps
    have hdeclared := hkeeps.declared
    rw [hself, hdev] at hdeclared
    exact Option.some.inj hdeclared
  · intro hsame
    constructor
    · rw [hself, hdev, Option.map_some, Option.map_some, hsame]
    · intro id' hne
      rw [hput]
      exact registry.get_put_of_ne hne _ _

/-- The response of a roller shutter to the discovery, and its confirmation of the key. -/
private def shutterPairs : World (UInt32 × List (List UInt8)) RadioEvent :=
  ⟨(0, [[0x0A, 0, 0xAA, 0, 1, 0x12, 0x34, 0x56, 0x29, 0, 0x80],
    [0x08, 0, 0xAA, 0, 1, 0x12, 0x34, 0x56, 0x33]]), []⟩

private def shutterEngine : ExchangeEngine (UInt32 × List (List UInt8)) :=
  ⟨playbackRadio, {}, ⟨0xAA, 0, 1⟩, Vector.replicate 16 0⟩

/-- The shutter is configured as battery-powered and silent. -/
private def shutterRegistry : DeviceRegistry :=
  (∅ : DeviceRegistry).add "123456" { type := .rollerShutter, lowPower := true, silent := true }

theorem battery_shutter_loses_declaration :
    let run := discoverAndPair shutterEngine shutterRegistry shutterPairs
    run.1.1 = true ∧
      (shutterRegistry.get "123456").map (preferences false) =
        some ⟨true, true, true, false, none⟩ ∧
      (run.1.2.get "123456").map (preferences false) = some ⟨false, false, true, false, none⟩ ∧
      ¬ KeepsDeclared false "123456" shutterRegistry run.1.2 := by
  refine ⟨by decide +kernel, by decide, by decide +kernel, fun h => ?_⟩
  have hdeclared := h.declared
  revert hdeclared
  decide +kernel

theorem battery_shutter_declaration :
    let run := discoverAndPair shutterEngine shutterRegistry shutterPairs
    ∃ es response, run.2.log = shutterPairs.log ++ es ∧
      HeardResponse shutterEngine.nodeId response es ∧
      run.1.2.get (nodeIdToString response.src) = some (decodeDiscoveryResponse response).device ∧
      ∀ dev, shutterRegistry.get (nodeIdToString response.src) = some dev →
        ∀ inversionDeclared,
          KeepsDeclared inversionDeclared (nodeIdToString response.src) shutterRegistry run.1.2 ↔
            DeclaredByDefault inversionDeclared response dev :=
  repairing_keeps_declared_iff shutterEngine shutterRegistry shutterPairs (by decide +kernel)

end HomeIoControl.RePairing
