import HomeIoControl.MachineRuns
import HomeIoControl.TextPieces
import HomeIoControl.TuningConfigs

/-!
# What the tuning entities show

Whatever an entity sends, the radio keeps what the configuration holds, and what an entity shows
can be sent back. As long as the entities send what they offer, each shows what was chosen last.
-/

namespace HomeIoControl.TuningRuns

open MachineRuns TextPieces ProtocolFrames TuningConfigs

theorem truncated_intCast (n : ℤ) : truncated n = n := by
  simp [truncated]

theorem le_truncated {lo : ℤ} {value : ℚ} (h : (lo : ℚ) ≤ value) : lo ≤ truncated value := by
  have hden : (0 : ℤ) < value.den := Int.natCast_pos.mpr value.den_pos
  have hnum : lo * value.den ≤ value.num := by simpa [Rat.le_iff] using h
  rw [truncated, ← Int.mul_tdiv_cancel lo hden.ne']
  exact Int.tdiv_le_tdiv hden hnum

theorem truncated_le {hi : ℤ} {value : ℚ} (h : value ≤ (hi : ℚ)) : truncated value ≤ hi := by
  have hden : (0 : ℤ) < value.den := Int.natCast_pos.mpr value.den_pos
  have hnum : value.num ≤ hi * value.den := by simpa [Rat.le_iff] using h
  rw [truncated, ← Int.mul_tdiv_cancel hi hden.ne']
  exact Int.tdiv_le_tdiv hden hnum

theorem word_get_set {n : ℤ} (h : 0 ≤ n) (h' : n < 65536) :
    ((UInt16.ofNat n.toNat).toNat : ℤ) = n := by
  rw [UInt16.toNat_ofNat_of_lt' (show n.toNat < 65536 by omega)]
  omega

theorem byte_get_set {n : ℤ} (h : 0 ≤ n) (h' : n < 256) :
    ((UInt8.ofNat n.toNat).toNat : ℤ) = n := by
  rw [UInt8.toNat_ofNat_of_lt' (show n.toNat < 256 by omega)]
  omega

theorem number_get_set {a : NumberName} {value : ℚ} (t : TuningConfig)
    (h : (numberRange a).1 ≤ truncated value) (h' : truncated value ≤ (numberRange a).2) :
    (numberParam a).get ((numberParam a).set t value) = truncated value := by
  cases a with
  | lbtRssiThresholdDbm =>
    simp only [numberRange] at h h'
    exact Int16.toInt_ofInt_of_le (by omega) (by omega)
  | lbtMaxRetries | pairingKeyExchangeRetries =>
    simp only [numberRange] at h h'
    exact byte_get_set (by omega) (by omega)
  | _ =>
    simp only [numberRange] at h h'
    exact word_get_set (by omega) (by omega)

theorem word_set_get (w : UInt16) : UInt16.ofNat (truncated (w.toNat : ℤ)).toNat = w := by
  rw [truncated_intCast]
  simp

theorem byte_set_get (b : UInt8) : UInt8.ofNat (truncated (b.toNat : ℤ)).toNat = b := by
  rw [truncated_intCast]
  simp

/-- What a number shows can be sent back. -/
theorem number_set_get (a : NumberName) (t : TuningConfig) :
    (numberParam a).set t ((numberParam a).get t : ℤ) = t := by
  cases a with
  | lbtRssiThresholdDbm =>
    have hsame : Int16.ofInt (truncated (t.lbtRssiThresholdDbm.toInt : ℤ)) =
        t.lbtRssiThresholdDbm := by
      rw [truncated_intCast]
      simp
    simp only [numberParam, hsame]
  | lbtMaxRetries | pairingKeyExchangeRetries =>
    simp only [numberParam, byteParam, byte_set_get]
  | _ => simp only [numberParam, wordParam, word_set_get]

section Bandwidths

variable {table : List BandwidthOption}

theorem rxBandwidthFromString_of {value : List Char} {reg : UInt8}
    (h : bandwidthFromString table value = some reg)
    (listed : reg ∈ table.map BandwidthOption.reg) :
    rxBandwidthFromString table value = some ⟨reg, listed⟩ := by
  rw [rxBandwidthFromString, h, Option.bind_some, dif_pos listed]

/-- A chip's bandwidth is read back from its text if each of its options is. -/
theorem bandwidth_from_to {fallback : ℕ}
    (h : ∀ o ∈ table, bandwidthFromString table
      (bandwidthToString (bandwidthToKhz table o.reg fallback)) = some o.reg)
    (bw : RxBandwidth table) :
    rxBandwidthFromString table (bandwidthToString (bandwidthToKhz table bw.1 fallback)) =
      some bw := by
  obtain ⟨reg, listed⟩ := bw
  obtain ⟨o, ho, rfl⟩ := List.mem_map.mp listed
  exact rxBandwidthFromString_of (h o ho) listed

theorem sx1262_from_to (bw : RxBandwidth sx1262Bandwidths) :
    sx1262BandwidthFromString (sx1262BandwidthToString bw) = some bw :=
  bandwidth_from_to (by decide) bw

theorem sx1276_from_to (bw : RxBandwidth sx1276Bandwidths) :
    sx1276BandwidthFromString (sx1276BandwidthToString bw) = some bw :=
  bandwidth_from_to (by decide) bw

theorem lr1121_from_to (bw : RxBandwidth lr1121Bandwidths) :
    lr1121BandwidthFromString (lr1121BandwidthToString bw) = some bw :=
  bandwidth_from_to (by decide) bw

end Bandwidths

def discoveryCommands : List UInt8 := [discover, discoverSpe, discoverAlt]

theorem command_from_to : ∀ command ∈ discoveryCommands,
    discoveryCommandFromString (trimmedToken (discoveryCommandToString command)) =
      some command :=
  forall_mem_of_all (by decide)

theorem command_unseparated :
    ∀ command ∈ discoveryCommands, ',' ∉ discoveryCommandToString command :=
  forall_mem_of_all (by decide)

theorem discoveryCommandFromString_mem {value : List Char} {command : UInt8}
    (h : discoveryCommandFromString value = some command) : command ∈ discoveryCommands := by
  simp only [discoveryCommandFromString] at h
  split_ifs at h
  · exact Option.some.inj h ▸ List.mem_cons_self
  · exact Option.some.inj h ▸ List.mem_cons_of_mem _ List.mem_cons_self
  · exact Option.some.inj h ▸ List.mem_cons_of_mem _ (List.mem_cons_of_mem _ List.mem_cons_self)

theorem fromCsv_mem {value : List Char} :
    ∀ command ∈ discoveryCommandsFromCsv value, command ∈ discoveryCommands := by
  intro command hmem
  obtain ⟨token, _, htoken⟩ := List.mem_filterMap.mp hmem
  exact discoveryCommandFromString_mem htoken

theorem filterMap_tokens {commands : List UInt8} (h : ∀ c ∈ commands, c ∈ discoveryCommands) :
    (commands.map discoveryCommandToString).filterMap
      (fun token => discoveryCommandFromString (trimmedToken token)) = commands := by
  induction commands with
  | nil => rfl
  | cons command rest ih =>
    obtain ⟨hcommand, hrest⟩ := List.forall_mem_cons.mp h
    rw [List.map_cons, List.filterMap_cons, command_from_to command hcommand, ih hrest]

/-- A list of commands can be read back from its text, an empty one too. -/
theorem csv_from_to {commands : List UInt8} (h : ∀ c ∈ commands, c ∈ discoveryCommands) :
    discoveryCommandsFromCsv (discoveryCommandsToCsv commands) = commands := by
  rw [discoveryCommandsFromCsv, discoveryCommandsToCsv]
  by_cases hnone : commands = []
  · subst hnone
    decide
  · have hplain : ∀ token ∈ commands.map discoveryCommandToString, ',' ∉ token := by
      intro token htoken
      obtain ⟨command, hcommand, rfl⟩ := List.mem_map.mp htoken
      exact command_unseparated command (h command hcommand)
    rw [List.splitOn_intercalate ',' hplain (by simpa using hnone), filterMap_tokens h]

/-- What the selects can hold: a discovery command is one of three, an address of its own is one
of two, and a payload is zero. -/
structure Selectable (t : TuningConfig) : Prop where
  commands : ∀ c ∈ t.pairingDiscoveryCommands, c ∈ discoveryCommands
  destination : t.pairingDiscoveryDestinationAuto = true ∨
    t.pairingDiscoveryDestination ∈ [⟨0, 0, addressSuffixDiscovery⟩, ⟨0, 0, addressSuffixBroadcast⟩]
  payload : t.pairingDiscoveryPayloadEnabled = true → t.pairingDiscoveryPayload = 0

/-- What a select shows can be sent back. -/
theorem select_set_get (a : SelectName) {t : TuningConfig} (h : Selectable t) :
    (selectParam a).set t ((selectParam a).get t) = (t, true) := by
  cases a with
  | sx1262RxBandwidth => simp only [selectParam, sx1262_from_to]
  | sx1276RxBandwidth => simp only [selectParam, sx1276_from_to]
  | lr1121RxBandwidth => simp only [selectParam, lr1121_from_to]
  | pairingDiscoveryCommands => simp only [selectParam, csv_from_to h.commands]
  | pairingDiscoveryDestination =>
    cases hauto : t.pairingDiscoveryDestinationAuto with
    | true =>
      have hsame : { t with pairingDiscoveryDestinationAuto := true } = t := by rw [← hauto]
      simp only [selectParam, discoveryDestinationToString, hauto, if_true, hsame]
    | false =>
      have hlisted := h.destination.resolve_left (by simp [hauto])
      have hsame (id : NodeId) (hid : t.pairingDiscoveryDestination = id) :
          { t with
            pairingDiscoveryDestinationAuto := false
            pairingDiscoveryDestination := id } = t := by rw [← hauto, ← hid]
      rcases List.mem_pair.mp hlisted with hid | hid
      · have hset := hsame _ hid
        simp only [selectParam, hauto, hid]
        exact Prod.ext hset rfl
      · have hset := hsame _ hid
        simp only [selectParam, hauto, hid]
        exact Prod.ext hset rfl
  | pairingDiscoveryPayload =>
    cases henabled : t.pairingDiscoveryPayloadEnabled with
    | true =>
      have hzero := h.payload henabled
      have hsame : { t with
          pairingDiscoveryPayloadEnabled := true
          pairingDiscoveryPayload := 0 } = t := by rw [← henabled, ← hzero]
      simp only [selectParam, henabled, hzero]
      exact Prod.ext hsame rfl
    | false =>
      have hsame : { t with pairingDiscoveryPayloadEnabled := false } = t := by rw [← henabled]
      simp only [selectParam, henabled]
      exact Prod.ext hsame rfl
  | pairingDiscoveryLowPower =>
    cases hlow : t.pairingDiscoveryLowPower with
    | true =>
      have hsame : { t with pairingDiscoveryLowPower := true } = t := by rw [← hlow]
      simp only [selectParam, hlow]
      exact Prod.ext hsame rfl
    | false =>
      have hsame : { t with pairingDiscoveryLowPower := false } = t := by rw [← hlow]
      simp only [selectParam, hlow]
      exact Prod.ext hsame rfl

theorem defaults_selectable : Selectable defaults where
  commands := forall_mem_of_all (by decide)
  destination := Or.inl rfl
  payload := by simp [defaults]

theorem number_set_selectable (a : NumberName) {t : TuningConfig} (h : Selectable t) (value : ℚ) :
    Selectable ((numberParam a).set t value) := by
  cases a <;> exact ⟨h.commands, h.destination, h.payload⟩

theorem select_set_selectable (a : SelectName) {t : TuningConfig} (h : Selectable t)
    (value : List Char) : Selectable ((selectParam a).set t value).1 := by
  cases a with
  | sx1262RxBandwidth | sx1276RxBandwidth | lr1121RxBandwidth =>
    simp only [selectParam]
    split
    · exact h
    · exact ⟨h.commands, h.destination, h.payload⟩
  | pairingDiscoveryCommands => exact ⟨fromCsv_mem, h.destination, h.payload⟩
  | pairingDiscoveryDestination =>
    simp only [selectParam]
    split_ifs
    · exact ⟨h.commands, Or.inl rfl, h.payload⟩
    · exact ⟨h.commands, Or.inr List.mem_cons_self, h.payload⟩
    · exact ⟨h.commands, Or.inr (List.mem_cons_of_mem _ List.mem_cons_self), h.payload⟩
    · exact h
  | pairingDiscoveryPayload =>
    simp only [selectParam]
    split_ifs
    · exact ⟨h.commands, h.destination, by simp⟩
    · exact ⟨h.commands, h.destination, fun _ => rfl⟩
    · exact h
  | pairingDiscoveryLowPower => exact ⟨h.commands, h.destination, h.payload⟩

theorem options_commands {options : List (List Char × UInt8)}
    (h : ∀ o ∈ options, o ∈ discoveryCommandOptions) :
    ∀ c ∈ options.map Prod.snd, c ∈ discoveryCommands := by
  have hoption : ∀ o ∈ discoveryCommandOptions, o.2 ∈ discoveryCommands := by decide
  intro command hcommand
  obtain ⟨o, ho, rfl⟩ := List.mem_map.mp hcommand
  exact hoption o (h o ho)

theorem assign_selectable {t : TuningConfig} (h : Selectable t) (entry : YamlEntry) :
    Selectable (assign t entry) := by
  cases entry with
  | sx1262RxBandwidth option => exact ⟨h.commands, h.destination, h.payload⟩
  | sx1276RxBandwidth option => exact ⟨h.commands, h.destination, h.payload⟩
  | lr1121RxBandwidth option => exact ⟨h.commands, h.destination, h.payload⟩
  | pairingDiscoveryCommands options =>
    exact ⟨options_commands options.2.2, h.destination, h.payload⟩
  | pairingDiscoveryDestination option =>
    have hparsed : ∀ o ∈ discoveryDestinationOptions, o ≠ "auto".toList →
        parseDestinationToBytes o ∈ [⟨0, 0, addressSuffixDiscovery⟩,
          (⟨0, 0, addressSuffixBroadcast⟩ : NodeId)] := by decide
    simp only [assign]
    split_ifs with hauto
    · exact ⟨h.commands, Or.inl rfl, h.payload⟩
    · exact ⟨h.commands, Or.inr (hparsed option.1 option.2 hauto), h.payload⟩
  | pairingDiscoveryPayload option =>
    have hparsed : ∀ o ∈ pairingDiscoveryPayloadOptions, o ≠ "none".toList →
        parsePayload o = 0 := by decide
    simp only [assign]
    split_ifs with hnone
    · exact ⟨h.commands, h.destination, by simp⟩
    · exact ⟨h.commands, h.destination, fun _ => hparsed option.1 option.2 hnone⟩
  | pairingDiscoveryLowPower value => exact ⟨h.commands, h.destination, h.payload⟩
  | number a value => exact number_set_selectable a h _

theorem applyTuningConfig_selectable (entries : List YamlEntry) :
    Selectable (applyTuningConfig entries) := by
  have hrun (t : TuningConfig) (ht : Selectable t) : Selectable (entries.foldl assign t) := by
    induction entries generalizing t with
    | nil => exact ht
    | cons entry rest ih => exact ih _ (assign_selectable ht entry)
  exact hrun defaults defaults_selectable

theorem number_keeps_radio {a : NumberName} (h : (numberParam a).appliesToRadio = false)
    (chip : ChipModel) (t : TuningConfig) (value : ℚ) :
    applyTuning chip ((numberParam a).set t value) = applyTuning chip t := by
  cases a <;> first | (cases chip <;> rfl) | exact absurd h (by decide)

/-- A select that was refused, or that no radio reads, leaves the radio's settings. -/
theorem select_keeps_radio {a : SelectName} {t : TuningConfig} {value : List Char}
    (h : (((selectParam a).set t value).2 && (selectParam a).appliesToRadio) = false)
    (chip : ChipModel) :
    applyTuning chip ((selectParam a).set t value).1 = applyTuning chip t := by
  cases a with
  | sx1262RxBandwidth | sx1276RxBandwidth | lr1121RxBandwidth =>
    simp only [selectParam] at h ⊢
    split at h
    · rfl
    · exact absurd h (by simp)
  | pairingDiscoveryCommands | pairingDiscoveryLowPower => cases chip <;> rfl
  | pairingDiscoveryDestination | pairingDiscoveryPayload =>
    simp only [selectParam]
    split_ifs <;> cases chip <;> rfl

/-- What every run keeps: the selects hold what they can show, the radio what it was told. -/
structure InStep (chip : ChipModel) (hub : TunedHub) : Prop where
  selectable : Selectable hub.tuning
  radio : hub.radio = applyTuning chip hub.tuning

variable {chip : ChipModel} {hub : TunedHub}

theorem InStep.update (h : InStep chip hub) (u : Update) : InStep chip (update chip hub u) := by
  cases u with
  | number name value =>
    simp only [TuningConfigs.update, updateTuningNumber]
    split
    · exact h
    · next a _ =>
      refine ⟨number_set_selectable a h.selectable value, ?_⟩
      by_cases happlies : (numberParam a).appliesToRadio = true
      · exact if_pos happlies
      · rw [number_keeps_radio (Bool.eq_false_of_not_eq_true happlies), ← h.radio]
        exact if_neg happlies
  | select name value =>
    simp only [TuningConfigs.update, updateTuningSelect]
    split
    · exact h
    · next a _ =>
      refine ⟨select_set_selectable a h.selectable value, ?_⟩
      by_cases happlies :
          (((selectParam a).set hub.tuning value).2 && (selectParam a).appliesToRadio) = true
      · exact if_pos happlies
      · rw [select_keeps_radio (Bool.eq_false_of_not_eq_true happlies), ← h.radio]
        exact if_neg happlies

theorem InStep.run (h : InStep chip hub) (updates : List Update) :
    InStep chip (updates.foldl (TuningConfigs.update chip) hub) := by
  induction updates generalizing hub with
  | nil => exact h
  | cons u rest ih => exact ih (h.update u)

theorem InStep.boot (chip : ChipModel) (entries : List YamlEntry) :
    InStep chip (booted chip (applyTuningConfig entries)) :=
  ⟨applyTuningConfig_selectable entries, rfl⟩

/-- Sending back what is shown changes nothing. -/
theorem InStep.send_back (h : InStep chip hub) (name : String) :
    updateTuningNumber chip hub name (getTuningNumberValue hub name : ℤ) = hub ∧
      updateTuningSelect chip hub name (getTuningSelectValue hub name) = hub := by
  constructor
  · rw [updateTuningNumber, getTuningNumberValue]
    cases findTuningNumber name with
    | none => rfl
    | some a =>
      simp only [number_set_get, ← h.radio, ite_self]
  · rw [updateTuningSelect, getTuningSelectValue]
    cases findTuningSelect name with
    | none => rfl
    | some a =>
      simp only [select_set_get a h.selectable, ← h.radio, ite_self]

/-- Whatever is sent to the tuning entities, parseable or not, the radio works with what the
configuration holds, and what each entity shows can be sent back to no effect. -/
theorem tuning_stays_in_step (chip : ChipModel) (entries : List YamlEntry)
    (updates : List Update) (name : String) :
    let hub := updates.foldl (TuningConfigs.update chip) (booted chip (applyTuningConfig entries))
    hub.radio = applyTuning chip hub.tuning ∧
      updateTuningNumber chip hub name (getTuningNumberValue hub name : ℤ) = hub ∧
      updateTuningSelect chip hub name (getTuningSelectValue hub name) = hub := by
  have hrun := (InStep.boot chip entries).run updates
  exact ⟨hrun.radio, hrun.send_back name⟩

inductive Key where
  | number (a : NumberName)
  | select (a : SelectName)
  deriving DecidableEq

inductive Value where
  | number (n : ℤ)
  | option (text : List Char)

/-- What the entities show of a configuration. -/
def display (t : TuningConfig) : Key → Value
  | .number a => .number ((numberParam a).get t)
  | .select a => .option ((selectParam a).get t)

/-- What the hub tells the entities. -/
def shown (hub : TunedHub) : Key → Value
  | .number a => .number (getTuningNumberValue hub (numberParam a).name)
  | .select a => .option (getTuningSelectValue hub (selectParam a).name)

theorem findTuningNumber_name (a : NumberName) :
    findTuningNumber (numberParam a).name = some a := by
  cases a <;> decide

theorem findTuningSelect_name (a : SelectName) :
    findTuningSelect (selectParam a).name = some a := by
  cases a <;> decide

theorem shown_eq (hub : TunedHub) : shown hub = display hub.tuning := by
  funext key
  cases key with
  | number a => rw [shown, getTuningNumberValue, findTuningNumber_name, display]
  | select a => rw [shown, getTuningSelectValue, findTuningSelect_name, display]

theorem number_frame {a : NumberName} {key : Key} (h : key ≠ .number a) (t : TuningConfig)
    (value : ℚ) : display ((numberParam a).set t value) key = display t key := by
  cases key with
  | number b => cases a <;> cases b <;> first | rfl | exact absurd rfl h
  | select b => cases a <;> cases b <;> rfl

theorem select_frame {a : SelectName} {key : Key} (h : key ≠ .select a) (t : TuningConfig)
    (value : List Char) : display ((selectParam a).set t value).1 key = display t key := by
  cases a with
  | sx1262RxBandwidth | sx1276RxBandwidth | lr1121RxBandwidth =>
    simp only [selectParam]
    split
    · rfl
    · cases key with
      | number b => cases b <;> rfl
      | select b => cases b <;> first | rfl | exact absurd rfl h
  | pairingDiscoveryCommands | pairingDiscoveryLowPower =>
    cases key with
    | number b => cases b <;> rfl
    | select b => cases b <;> first | rfl | exact absurd rfl h
  | pairingDiscoveryDestination | pairingDiscoveryPayload =>
    simp only [selectParam]
    split_ifs
    all_goals
      cases key with
      | number b => cases b <;> rfl
      | select b => cases b <;> first | rfl | exact absurd rfl h

/-- What a select offers it shows when it was chosen. -/
theorem select_get_set {a : SelectName} {option : List Char} (h : option ∈ selectOptions a)
    (t : TuningConfig) : (selectParam a).get ((selectParam a).set t option).1 = option := by
  cases a with
  | sx1262RxBandwidth =>
    have hread : ∀ o ∈ sx1262BandwidthOptions.map Prod.fst,
        (sx1262BandwidthFromString o).map sx1262BandwidthToString = some o := by decide
    obtain ⟨bw, hbw, hshown⟩ := Option.map_eq_some_iff.mp (hread option h)
    simp only [selectParam, hbw, hshown]
  | sx1276RxBandwidth =>
    have hread : ∀ o ∈ sx1276BandwidthOptions.map Prod.fst,
        (sx1276BandwidthFromString o).map sx1276BandwidthToString = some o := by decide
    obtain ⟨bw, hbw, hshown⟩ := Option.map_eq_some_iff.mp (hread option h)
    simp only [selectParam, hbw, hshown]
  | lr1121RxBandwidth =>
    have hread : ∀ o ∈ lr1121BandwidthOptions.map Prod.fst,
        (lr1121BandwidthFromString o).map lr1121BandwidthToString = some o := by decide
    obtain ⟨bw, hbw, hshown⟩ := Option.map_eq_some_iff.mp (hread option h)
    simp only [selectParam, hbw, hshown]
  | pairingDiscoveryCommands =>
    have hread : ∀ o ∈ discoveryCommandPresets,
        discoveryCommandsToCsv (discoveryCommandsFromCsv o) = o := by decide
    exact hread option h
  | pairingDiscoveryDestination =>
    have hshown : discoveryDestinationToString false ⟨0, 0, addressSuffixDiscovery⟩ =
        "0x00003B".toList ∧ discoveryDestinationToString false ⟨0, 0, addressSuffixBroadcast⟩ =
          "0x00003F".toList := by decide
    rcases List.mem_cons.mp h with rfl | h
    · rfl
    · rcases List.mem_pair.mp h with rfl | rfl
      · exact hshown.1
      · exact hshown.2
  | pairingDiscoveryPayload =>
    have hshown : discoveryPayloadToString true 0 = "0x00".toList := by decide
    rcases List.mem_pair.mp h with rfl | rfl
    · rfl
    · exact hshown
  | pairingDiscoveryLowPower =>
    rcases List.mem_pair.mp h with rfl | rfl <;> rfl

/-- A change that shows under one key shows as a write. -/
theorem display_written {t t' : TuningConfig} {key : Key} {value : Value}
    (hset : display t' key = value) (hframe : ∀ other ≠ key, display t' other = display t other) :
    display t' = written (display t) [(key, value)] := by
  funext other
  by_cases hkey : other = key
  · subst hkey
    simp [written, hset]
  · rw [hframe other hkey]
    simp [written, hkey]

/-- The key and the value of an entry, as an entity shows it. -/
def entryWrite : YamlEntry → Key × Value
  | .sx1262RxBandwidth option => (.select .sx1262RxBandwidth, .option option.1.1)
  | .sx1276RxBandwidth option => (.select .sx1276RxBandwidth, .option option.1.1)
  | .lr1121RxBandwidth option => (.select .lr1121RxBandwidth, .option option.1.1)
  | .pairingDiscoveryCommands options =>
    (.select .pairingDiscoveryCommands, .option (List.intercalate [','] (options.1.map Prod.fst)))
  | .pairingDiscoveryDestination option =>
    (.select .pairingDiscoveryDestination, .option option.1)
  | .pairingDiscoveryPayload option => (.select .pairingDiscoveryPayload, .option option.1)
  | .pairingDiscoveryLowPower value =>
    (.select .pairingDiscoveryLowPower, .option (if value then "On".toList else "Off".toList))
  | .number a value => (.number a, .number value.1)

theorem csv_of_options {options : List (List Char × UInt8)}
    (h : ∀ o ∈ options, o ∈ discoveryCommandOptions) :
    discoveryCommandsToCsv (options.map Prod.snd) =
      List.intercalate [','] (options.map Prod.fst) := by
  have hoption : ∀ o ∈ discoveryCommandOptions, discoveryCommandToString o.2 = o.1 := by decide
  rw [discoveryCommandsToCsv, List.map_map]
  refine congrArg _ (List.map_congr_left fun o ho => hoption o (h o ho))

theorem display_number_set {a : NumberName} {value : ℚ} (t : TuningConfig)
    (h : (numberRange a).1 ≤ truncated value) (h' : truncated value ≤ (numberRange a).2) :
    display ((numberParam a).set t value) =
      written (display t) [(.number a, .number (truncated value))] :=
  display_written (congrArg Value.number (number_get_set t h h'))
    fun _ hkey => number_frame hkey t value

theorem display_select_set {a : SelectName} {t : TuningConfig} {text : List Char}
    (h : (selectParam a).get ((selectParam a).set t text).1 = text) :
    display ((selectParam a).set t text).1 = written (display t) [(.select a, .option text)] :=
  display_written (congrArg Value.option h) fun _ hkey => select_frame hkey t text

/-- What YAML maps an option to is what the option's text is read as. -/
theorem bandwidth_of_option {table : List BandwidthOption}
    {options : List (List Char × RxBandwidth table)} {o : List Char × RxBandwidth table}
    (h : o ∈ options)
    (hread : ∀ o ∈ options, bandwidthFromString table o.1 = some o.2.1) :
    rxBandwidthFromString table o.1 = some o.2 :=
  rxBandwidthFromString_of (hread o h) o.2.2

theorem display_assign (t : TuningConfig) (entry : YamlEntry) :
    display (assign t entry) = written (display t) [entryWrite entry] := by
  cases entry with
  | sx1262RxBandwidth option =>
    have hread : sx1262BandwidthFromString option.1.1 = some option.1.2 :=
      bandwidth_of_option option.2 (by decide)
    have hset : assign t (.sx1262RxBandwidth option) =
        ((selectParam .sx1262RxBandwidth).set t option.1.1).1 := by
      simp only [selectParam, hread, assign]
    rw [hset]
    exact display_select_set (select_get_set (List.mem_map_of_mem option.2) t)
  | sx1276RxBandwidth option =>
    have hread : sx1276BandwidthFromString option.1.1 = some option.1.2 :=
      bandwidth_of_option option.2 (by decide)
    have hset : assign t (.sx1276RxBandwidth option) =
        ((selectParam .sx1276RxBandwidth).set t option.1.1).1 := by
      simp only [selectParam, hread, assign]
    rw [hset]
    exact display_select_set (select_get_set (List.mem_map_of_mem option.2) t)
  | lr1121RxBandwidth option =>
    have hread : lr1121BandwidthFromString option.1.1 = some option.1.2 :=
      bandwidth_of_option option.2 (by decide)
    have hset : assign t (.lr1121RxBandwidth option) =
        ((selectParam .lr1121RxBandwidth).set t option.1.1).1 := by
      simp only [selectParam, hread, assign]
    rw [hset]
    exact display_select_set (select_get_set (List.mem_map_of_mem option.2) t)
  | pairingDiscoveryCommands options =>
    have htext := csv_of_options options.2.2
    have hread := csv_from_to (options_commands options.2.2)
    have hset : assign t (.pairingDiscoveryCommands options) =
        ((selectParam .pairingDiscoveryCommands).set t
          (List.intercalate [','] (options.1.map Prod.fst))).1 := by
      simp only [selectParam, ← htext, hread, assign]
    rw [hset]
    refine display_select_set ?_
    simp only [selectParam, ← htext, hread]
  | pairingDiscoveryDestination option =>
    have hset : assign t (.pairingDiscoveryDestination option) =
        ((selectParam .pairingDiscoveryDestination).set t option.1).1 := by
      obtain ⟨o, ho⟩ := option
      rcases List.mem_cons.mp ho with rfl | hrest
      · rfl
      · rcases List.mem_pair.mp hrest with rfl | rfl <;> rfl
    rw [hset]
    exact display_select_set (select_get_set option.2 t)
  | pairingDiscoveryPayload option =>
    have hset : assign t (.pairingDiscoveryPayload option) =
        ((selectParam .pairingDiscoveryPayload).set t option.1).1 := by
      obtain ⟨o, ho⟩ := option
      rcases List.mem_pair.mp ho with rfl | rfl <;> rfl
    rw [hset]
    exact display_select_set (select_get_set option.2 t)
  | pairingDiscoveryLowPower value =>
    have hset : assign t (.pairingDiscoveryLowPower value) =
        ((selectParam .pairingDiscoveryLowPower).set t
          (if value then "On".toList else "Off".toList)).1 := by
      cases value <;> rfl
    rw [hset]
    refine display_select_set (select_get_set ?_ t)
    cases value <;> decide
  | number a value =>
    have htruncated : truncated (value.1 : ℤ) = value.1 := truncated_intCast value.1
    have hset : display ((numberParam a).set t (value.1 : ℤ)) =
        written (display t) [(.number a, .number (truncated (value.1 : ℤ)))] :=
      display_number_set t (value.2.1.trans_eq htruncated.symm)
        (htruncated.trans_le value.2.2)
    rw [htruncated] at hset
    exact hset

/-- An entity sends what it offers. -/
def Offered : Update → Prop
  | .number name value => ∀ a, findTuningNumber name = some a →
    ((numberRange a).1 : ℚ) ≤ value ∧ value ≤ ((numberRange a).2 : ℚ)
  | .select name value => ∀ a, findTuningSelect name = some a → value ∈ selectOptions a

/-- What an update writes: nothing under a name that is no parameter's. -/
def updateWrites : Update → List (Key × Value)
  | .number name value =>
    ((findTuningNumber name).map fun a => (.number a, .number (truncated value))).toList
  | .select name value => ((findTuningSelect name).map fun a => (.select a, .option value)).toList

theorem shown_update {u : Update} (h : Offered u) (chip : ChipModel) (hub : TunedHub) :
    shown (update chip hub u) = written (shown hub) (updateWrites u) := by
  rw [shown_eq, shown_eq]
  cases u with
  | number name value =>
    cases hfind : findTuningNumber name with
    | none => simp only [update, updateTuningNumber, updateWrites, hfind]; rfl
    | some a =>
      obtain ⟨hlo, hhi⟩ := h a hfind
      simp only [update, updateTuningNumber, updateWrites, hfind]
      exact display_number_set _ (le_truncated hlo) (truncated_le hhi)
  | select name value =>
    cases hfind : findTuningSelect name with
    | none => simp only [update, updateTuningSelect, updateWrites, hfind]; rfl
    | some a =>
      simp only [update, updateTuningSelect, updateWrites, hfind]
      exact display_select_set (select_get_set (h a hfind) _)

/-- While entities send what they offer, each shows what was sent under its name last, or else what
YAML declares for it, or else its default. -/
theorem last_choice_is_shown (chip : ChipModel) (entries : List YamlEntry) (updates : List Update)
    (offered : ∀ u ∈ updates, Offered u) (key : Key) :
    shown (updates.foldl (update chip) (booted chip (applyTuningConfig entries))) key =
      (lastWrite (entries.map entryWrite ++ updates.flatMap updateWrites) key).getD
        (shown (booted chip defaults) key) := by
  have hyaml : display (applyTuningConfig entries) =
      written (display defaults) (entries.flatMap fun entry => [entryWrite entry]) :=
    view_run (fun t entry _ => display_assign t entry) defaults
  have hrun := view_run (fun hub u hu => shown_update (offered u hu) chip hub)
    (booted chip (applyTuningConfig entries))
  rw [← List.map_eq_flatMap] at hyaml
  rw [hrun, shown_eq, shown_eq, booted, hyaml, ← written_append, written_apply]
  rfl

/-- A bandwidth chosen after one that YAML declares. -/
theorem chosen_bandwidth_is_shown :
    shown ([Update.select "sx1276_rx_bandwidth" "62.5".toList].foldl (update .sx1276)
        (booted .sx1276 (applyTuningConfig
          [.sx1276RxBandwidth ⟨("20.8".toList, ⟨0x14, by decide⟩), List.mem_cons_self⟩])))
          (.select .sx1276RxBandwidth) = .option "62.5".toList := by
  have offered : ∀ u ∈ [Update.select "sx1276_rx_bandwidth" "62.5".toList], Offered u := by
    intro u hu
    rw [List.mem_singleton.mp hu]
    intro a ha
    have hfound : some SelectName.sx1276RxBandwidth = some a := ha
    rw [← Option.some.inj hfound]
    decide
  exact last_choice_is_shown .sx1276
    [.sx1276RxBandwidth ⟨("20.8".toList, ⟨0x14, by decide⟩), List.mem_cons_self⟩] _ offered
    (.select .sx1276RxBandwidth)

end HomeIoControl.TuningRuns
