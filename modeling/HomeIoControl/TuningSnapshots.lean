import HomeIoControl.ResultSensors
import HomeIoControl.SettingLines
import HomeIoControl.TuningRuns

/-!
# The snapshot of the tuning

The line logged before a pairing attempt shows every tuning value that is not the default, but for
the three windows of an exchange. The values that it speaks of can be told from it.
-/

namespace HomeIoControl.TuningSnapshots

open ProtocolFrames SettingLines TuningConfigs TuningRuns
open DeviceRegistries (hexByte hexByte_injective addressText_injective)
open FrameLogLines (unsignedText isAsciiDigit_of_mem)
open ResultSensors (unsignedText_injective)

/-- `std::to_string` of a signed number. -/
def signedText (n : ℤ) : List Char :=
  if n < 0 then '-' :: unsignedText n.natAbs else unsignedText n.natAbs

def wordText (w : UInt16) : List Char := unsignedText w.toNat
def byteText (b : UInt8) : List Char := unsignedText b.toNat
def levelText (level : Int16) : List Char := signedText level.toInt
def flagText (flag : Bool) : List Char := if flag then "true".toList else "false".toList

/-- What is shown of a value: nothing of the default. -/
def changed {α : Type} [DecidableEq α] (text : α → List Char) (default value : α) :
    Option (List Char) :=
  if value ≠ default then some (text value) else none

/-- What is shown of the destination. -/
def shownDestination (t : TuningConfig) : Option (List Char) :=
  if t.pairingDiscoveryDestinationAuto then none
  else
    some (discoveryDestinationToString t.pairingDiscoveryDestinationAuto
      t.pairingDiscoveryDestination)

/-- What is shown of the payload. -/
def shownPayload (t : TuningConfig) : Option (List Char) :=
  if t.pairingDiscoveryPayloadEnabled ≠ defaults.pairingDiscoveryPayloadEnabled ∨
      t.pairingDiscoveryPayload ≠ defaults.pairingDiscoveryPayload then
    some (discoveryPayloadToString t.pairingDiscoveryPayloadEnabled t.pairingDiscoveryPayload)
  else none

def snapshotKeys : List (List Char) :=
  ["sx1262_rx_bandwidth".toList, "sx1262_response_preamble".toList,
    "sx1262_post_tx_settle_us".toList, "sx1276_rx_bandwidth".toList,
    "sx1276_response_preamble".toList, "sx1276_discovery_hop_slice_ms".toList,
    "sx1262_discovery_hop_slice_ms".toList, "lr1121_rx_bandwidth".toList,
    "lr1121_response_preamble".toList, "lr1121_post_tx_settle_us".toList,
    "lr1121_discovery_hop_slice_ms".toList, "cold_broadcast_reply_preamble".toList,
    "normal_start_preamble".toList, "lbt_max_retries".toList, "lbt_rssi_threshold_dbm".toList,
    "pairing_discovery_commands".toList, "pairing_discovery_destination".toList,
    "pairing_discovery_payload".toList, "pairing_discovery_low_power".toList,
    "pairing_discovery_wait_ms".toList, "pairing_discovery_initial_dwell_ms".toList,
    "pairing_key_exchange_retries".toList]

def snapshotValues (t : TuningConfig) : List (Option (List Char)) :=
  [changed sx1262BandwidthToString defaults.sx1262RxBandwidth t.sx1262RxBandwidth,
    changed wordText defaults.sx1262ResponsePreamble t.sx1262ResponsePreamble,
    changed wordText defaults.sx1262PostTxSettleUs t.sx1262PostTxSettleUs,
    changed sx1276BandwidthToString defaults.sx1276RxBandwidth t.sx1276RxBandwidth,
    changed wordText defaults.sx1276ResponsePreamble t.sx1276ResponsePreamble,
    changed wordText defaults.sx1276DiscoveryHopSliceMs t.sx1276DiscoveryHopSliceMs,
    changed wordText defaults.sx1262DiscoveryHopSliceMs t.sx1262DiscoveryHopSliceMs,
    changed lr1121BandwidthToString defaults.lr1121RxBandwidth t.lr1121RxBandwidth,
    changed wordText defaults.lr1121ResponsePreamble t.lr1121ResponsePreamble,
    changed wordText defaults.lr1121PostTxSettleUs t.lr1121PostTxSettleUs,
    changed wordText defaults.lr1121DiscoveryHopSliceMs t.lr1121DiscoveryHopSliceMs,
    changed wordText defaults.coldBroadcastReplyPreamble t.coldBroadcastReplyPreamble,
    changed wordText defaults.normalStartPreamble t.normalStartPreamble,
    changed byteText defaults.lbtMaxRetries t.lbtMaxRetries,
    changed levelText defaults.lbtRssiThresholdDbm t.lbtRssiThresholdDbm,
    changed discoveryCommandsToString defaults.pairingDiscoveryCommands t.pairingDiscoveryCommands,
    shownDestination t,
    shownPayload t,
    changed flagText defaults.pairingDiscoveryLowPower t.pairingDiscoveryLowPower,
    changed wordText defaults.pairingDiscoveryWaitMs t.pairingDiscoveryWaitMs,
    changed wordText defaults.pairingDiscoveryInitialDwellMs t.pairingDiscoveryInitialDwellMs,
    changed byteText defaults.pairingKeyExchangeRetries t.pairingKeyExchangeRetries]

/-- `tuning_config_snapshot`. -/
def tuningConfigSnapshot (t : TuningConfig) : List Char :=
  settingLine (snapshotKeys.zip (snapshotValues t))

/-- `tuning_config_full_snapshot`. -/
def tuningConfigFullSnapshot (t : TuningConfig) : List Char :=
  if tuningConfigSnapshot t = [] then "Tuning: defaults active".toList
  else "Tuning overrides active:".toList ++ tuningConfigSnapshot t

theorem blank_not_digit (n : ℕ) : ' ' ∉ unsignedText n := fun h =>
  absurd (isAsciiDigit_of_mem h) (by decide)

theorem dash_not_digit (n : ℕ) : '-' ∉ unsignedText n := fun h =>
  absurd (isAsciiDigit_of_mem h) (by decide)

theorem signedText_injective {m n : ℤ} (h : signedText m = signedText n) : m = n := by
  have hmark {k l : ℕ} (hsame : '-' :: unsignedText k = unsignedText l) : False :=
    dash_not_digit l (hsame ▸ List.mem_cons_self)
  unfold signedText at h
  split_ifs at h with hm hn hn
  · have hsize := unsignedText_injective (List.cons.inj h).2
    omega
  · exact (hmark h).elim
  · exact (hmark h.symm).elim
  · have hsize := unsignedText_injective h
    omega

theorem wordText_injective {v w : UInt16} (h : wordText v = wordText w) : v = w :=
  UInt16.toNat_inj.mp (unsignedText_injective h)

theorem byteText_injective {a b : UInt8} (h : byteText a = byteText b) : a = b :=
  UInt8.toNat_inj.mp (unsignedText_injective h)

theorem levelText_injective {a b : Int16} (h : levelText a = levelText b) : a = b :=
  Int16.toInt_inj.mp (signedText_injective h)

theorem flagText_injective {a b : Bool} (h : flagText a = flagText b) : a = b := by
  cases a <;> cases b <;> first | rfl | exact absurd h (by decide)

theorem blank_not_hexByte (byte : UInt8) : ' ' ∉ hexByte byte := fun h =>
  absurd (FrameLogLines.isHexDigit_of_mem h) (by decide)

theorem bandwidthToString_plain (khz : ℕ) : ' ' ∉ bandwidthToString khz := by
  simp [bandwidthToString, blank_not_digit]

theorem signedText_plain (n : ℤ) : ' ' ∉ signedText n := by
  unfold signedText
  split_ifs <;> simp [blank_not_digit]

theorem flagText_plain (flag : Bool) : ' ' ∉ flagText flag := by
  cases flag <;> decide

theorem csv_plain (commands : List UInt8) : ' ' ∉ discoveryCommandsToCsv commands := by
  induction commands with
  | nil => simp [discoveryCommandsToCsv]
  | cons command rest ih =>
    have hfirst : ' ' ∉ discoveryCommandToString command := by
      simp [discoveryCommandToString, blank_not_hexByte]
    by_cases hlast : rest = []
    · subst hlast
      simpa [discoveryCommandsToCsv] using hfirst
    · rw [discoveryCommandsToCsv, List.map_cons,
        TextPieces.intercalate_cons _ (by simpa using hlast)]
      simp only [List.mem_append, List.mem_cons, not_or]
      exact ⟨hfirst, by decide, ih⟩

theorem commandsText_plain (commands : List UInt8) :
    ' ' ∉ discoveryCommandsToString commands := by
  simp [discoveryCommandsToString, csv_plain]

theorem csv_injective {commands commands' : List UInt8}
    (h : discoveryCommandsToCsv commands = discoveryCommandsToCsv commands') :
    commands = commands' := by
  have hplain (cs : List UInt8) : ∀ token ∈ cs.map discoveryCommandToString, ',' ∉ token := by
    intro token htoken
    obtain ⟨command, _, rfl⟩ := List.mem_map.mp htoken
    have hdigit : ',' ∉ hexByte command := fun hmem =>
      absurd (FrameLogLines.isHexDigit_of_mem hmem) (by decide)
    simp [discoveryCommandToString, hdigit]
  have hempty (cs : List UInt8) (hcsv : discoveryCommandsToCsv cs = []) : cs = [] := by
    cases cs with
    | nil => rfl
    | cons command rest =>
      cases rest with
      | nil => simp [discoveryCommandsToCsv, discoveryCommandToString] at hcsv
      | cons second rest =>
        rw [discoveryCommandsToCsv, List.map_cons,
          TextPieces.intercalate_cons _ (by simp)] at hcsv
        simp [discoveryCommandToString] at hcsv
  have hinj : Function.Injective discoveryCommandToString := fun a b hab =>
    hexByte_injective (List.cons.inj (List.cons.inj hab).2).2
  by_cases hnone : commands = []
  · rw [hnone] at h ⊢
    exact (hempty _ h.symm).symm
  · by_cases hnone' : commands' = []
    · rw [hnone'] at h
      exact absurd (hempty _ h) hnone
    · exact hinj.list_map (TextPieces.intercalate_inj (by simpa using hnone)
        (by simpa using hnone') (hplain _) (hplain _) h)

theorem commandsText_injective {commands commands' : List UInt8}
    (h : discoveryCommandsToString commands = discoveryCommandsToString commands') :
    commands = commands' :=
  csv_injective (List.append_cancel_right (List.cons.inj h).2)

/-- A text that is read back as what it was written from is the text of that value only. -/
theorem inj_of_read {α : Type} {text : α → List Char} {read : List Char → Option α}
    (h : ∀ a, read (text a) = some a) (a b : α) (hab : text a = text b) : a = b := by
  have hread := congrArg read hab
  rw [h, h] at hread
  exact Option.some.inj hread

section Changed

variable {α : Type} [DecidableEq α] {text : α → List Char}

theorem changed_plain (h : ∀ a, ' ' ∉ text a) (default value : α) :
    ∀ shown ∈ changed text default value, ' ' ∉ shown := by
  unfold changed
  split_ifs
  · simp [h]
  · simp

theorem changed_inj (h : ∀ a b, text a = text b → a = b) {default a b : α} :
    changed text default a = changed text default b ↔ a = b := by
  constructor
  · intro hshown
    unfold changed at hshown
    split_ifs at hshown with ha hb hb
    · exact h a b (Option.some.inj hshown)
    · exact (not_not.mp ha).trans (not_not.mp hb).symm
  · rintro rfl
    rfl

end Changed

/-- Two configurations that agree in what the snapshot speaks of. The windows of an exchange are
not among it, nor an address that is chosen automatically, nor more than that it is not zero of a
payload that is not sent. -/
structure ShownAlike (t t' : TuningConfig) : Prop where
  sx1262RxBandwidth : t.sx1262RxBandwidth = t'.sx1262RxBandwidth
  sx1262ResponsePreamble : t.sx1262ResponsePreamble = t'.sx1262ResponsePreamble
  sx1262PostTxSettleUs : t.sx1262PostTxSettleUs = t'.sx1262PostTxSettleUs
  sx1276RxBandwidth : t.sx1276RxBandwidth = t'.sx1276RxBandwidth
  sx1276ResponsePreamble : t.sx1276ResponsePreamble = t'.sx1276ResponsePreamble
  sx1276DiscoveryHopSliceMs : t.sx1276DiscoveryHopSliceMs = t'.sx1276DiscoveryHopSliceMs
  sx1262DiscoveryHopSliceMs : t.sx1262DiscoveryHopSliceMs = t'.sx1262DiscoveryHopSliceMs
  lr1121RxBandwidth : t.lr1121RxBandwidth = t'.lr1121RxBandwidth
  lr1121ResponsePreamble : t.lr1121ResponsePreamble = t'.lr1121ResponsePreamble
  lr1121PostTxSettleUs : t.lr1121PostTxSettleUs = t'.lr1121PostTxSettleUs
  lr1121DiscoveryHopSliceMs : t.lr1121DiscoveryHopSliceMs = t'.lr1121DiscoveryHopSliceMs
  coldBroadcastReplyPreamble : t.coldBroadcastReplyPreamble = t'.coldBroadcastReplyPreamble
  normalStartPreamble : t.normalStartPreamble = t'.normalStartPreamble
  lbtMaxRetries : t.lbtMaxRetries = t'.lbtMaxRetries
  lbtRssiThresholdDbm : t.lbtRssiThresholdDbm = t'.lbtRssiThresholdDbm
  pairingDiscoveryCommands : t.pairingDiscoveryCommands = t'.pairingDiscoveryCommands
  destinationAuto : t.pairingDiscoveryDestinationAuto = t'.pairingDiscoveryDestinationAuto
  destination : t.pairingDiscoveryDestinationAuto = false →
    t.pairingDiscoveryDestination = t'.pairingDiscoveryDestination
  payloadEnabled : t.pairingDiscoveryPayloadEnabled = t'.pairingDiscoveryPayloadEnabled
  payload : t.pairingDiscoveryPayloadEnabled = true →
    t.pairingDiscoveryPayload = t'.pairingDiscoveryPayload
  unsentPayload : t.pairingDiscoveryPayloadEnabled = false →
    (t.pairingDiscoveryPayload = 0 ↔ t'.pairingDiscoveryPayload = 0)
  pairingDiscoveryLowPower : t.pairingDiscoveryLowPower = t'.pairingDiscoveryLowPower
  pairingDiscoveryWaitMs : t.pairingDiscoveryWaitMs = t'.pairingDiscoveryWaitMs
  pairingDiscoveryInitialDwellMs :
    t.pairingDiscoveryInitialDwellMs = t'.pairingDiscoveryInitialDwellMs
  pairingKeyExchangeRetries : t.pairingKeyExchangeRetries = t'.pairingKeyExchangeRetries

variable {t t' : TuningConfig}

theorem shownDestination_inj : shownDestination t = shownDestination t' ↔
    t.pairingDiscoveryDestinationAuto = t'.pairingDiscoveryDestinationAuto ∧
      (t.pairingDiscoveryDestinationAuto = false →
        t.pairingDiscoveryDestination = t'.pairingDiscoveryDestination) := by
  unfold shownDestination
  cases t.pairingDiscoveryDestinationAuto <;> cases t'.pairingDiscoveryDestinationAuto
  · simp only [discoveryDestinationToString, Bool.false_eq_true, if_false, Option.some.injEq,
      List.cons.injEq, true_and, forall_const]
    exact ⟨addressText_injective, fun h => by rw [h]⟩
  · simp
  · simp
  · simp

theorem shownPayload_inj : shownPayload t = shownPayload t' ↔
    t.pairingDiscoveryPayloadEnabled = t'.pairingDiscoveryPayloadEnabled ∧
      (t.pairingDiscoveryPayloadEnabled = true →
        t.pairingDiscoveryPayload = t'.pairingDiscoveryPayload) ∧
      (t.pairingDiscoveryPayloadEnabled = false →
        (t.pairingDiscoveryPayload = 0 ↔ t'.pairingDiscoveryPayload = 0)) := by
  have hdefaults : defaults.pairingDiscoveryPayloadEnabled = false ∧
      defaults.pairingDiscoveryPayload = 0 := ⟨rfl, rfl⟩
  unfold shownPayload
  rw [hdefaults.1, hdefaults.2]
  cases t.pairingDiscoveryPayloadEnabled <;> cases t'.pairingDiscoveryPayloadEnabled
  · by_cases hzero : t.pairingDiscoveryPayload = 0 <;>
      by_cases hzero' : t'.pairingDiscoveryPayload = 0 <;>
      simp [hzero, hzero', discoveryPayloadToString]
  · by_cases hzero : t.pairingDiscoveryPayload = 0 <;>
      simp [hzero, discoveryPayloadToString]
  · by_cases hzero' : t'.pairingDiscoveryPayload = 0 <;>
      simp [hzero', discoveryPayloadToString]
  · simp only [discoveryPayloadToString, ne_eq, Bool.true_eq_false, not_false_eq_true, true_or,
      if_true, Option.some.injEq, List.cons.injEq, true_and, forall_const, false_implies, and_true]
    exact ⟨hexByte_injective, congrArg hexByte⟩

theorem snapshotValues_inj : snapshotValues t = snapshotValues t' ↔ ShownAlike t t' := by
  have hword {d v w : UInt16} : changed wordText d v = changed wordText d w ↔ v = w :=
    changed_inj fun _ _ => wordText_injective
  have hbyte {d a b : UInt8} : changed byteText d a = changed byteText d b ↔ a = b :=
    changed_inj fun _ _ => byteText_injective
  have hlevel {d a b : Int16} : changed levelText d a = changed levelText d b ↔ a = b :=
    changed_inj fun _ _ => levelText_injective
  have hflag {d a b : Bool} : changed flagText d a = changed flagText d b ↔ a = b :=
    changed_inj fun _ _ => flagText_injective
  have hcommands {d a b : List UInt8} : changed discoveryCommandsToString d a =
      changed discoveryCommandsToString d b ↔ a = b :=
    changed_inj fun _ _ => commandsText_injective
  have hsx1262 {d a b : RxBandwidth sx1262Bandwidths} : changed sx1262BandwidthToString d a =
      changed sx1262BandwidthToString d b ↔ a = b :=
    changed_inj (inj_of_read sx1262_from_to)
  have hsx1276 {d a b : RxBandwidth sx1276Bandwidths} : changed sx1276BandwidthToString d a =
      changed sx1276BandwidthToString d b ↔ a = b :=
    changed_inj (inj_of_read sx1276_from_to)
  have hlr1121 {d a b : RxBandwidth lr1121Bandwidths} : changed lr1121BandwidthToString d a =
      changed lr1121BandwidthToString d b ↔ a = b :=
    changed_inj (inj_of_read lr1121_from_to)
  simp only [snapshotValues, List.cons.injEq, and_true, hword, hbyte, hlevel, hflag, hcommands,
    hsx1262, hsx1276, hlr1121, shownDestination_inj, shownPayload_inj]
  constructor
  · rintro ⟨h1, h2, h3, h4, h5, h6, h7, h8, h9, h10, h11, h12, h13, h14, h15, h16, ⟨h17, h18⟩,
      ⟨h19, h20, h21⟩, h22, h23, h24, h25⟩
    exact ⟨h1, h2, h3, h4, h5, h6, h7, h8, h9, h10, h11, h12, h13, h14, h15, h16, h17, h18, h19,
      h20, h21, h22, h23, h24, h25⟩
  · intro h
    exact ⟨h.sx1262RxBandwidth, h.sx1262ResponsePreamble, h.sx1262PostTxSettleUs,
      h.sx1276RxBandwidth, h.sx1276ResponsePreamble, h.sx1276DiscoveryHopSliceMs,
      h.sx1262DiscoveryHopSliceMs, h.lr1121RxBandwidth, h.lr1121ResponsePreamble,
      h.lr1121PostTxSettleUs, h.lr1121DiscoveryHopSliceMs, h.coldBroadcastReplyPreamble,
      h.normalStartPreamble, h.lbtMaxRetries, h.lbtRssiThresholdDbm, h.pairingDiscoveryCommands,
      ⟨h.destinationAuto, h.destination⟩, ⟨h.payloadEnabled, h.payload, h.unsentPayload⟩,
      h.pairingDiscoveryLowPower, h.pairingDiscoveryWaitMs, h.pairingDiscoveryInitialDwellMs,
      h.pairingKeyExchangeRetries⟩

theorem snapshotValues_plain (t : TuningConfig) :
    ∀ value ∈ snapshotValues t, ∀ shown ∈ value, ' ' ∉ shown := by
  have hword (d v : UInt16) := changed_plain (fun w => blank_not_digit w.toNat) d v
  have hbyte (d b : UInt8) := changed_plain (fun b => blank_not_digit b.toNat) d b
  have hbandwidth (khz : ℕ) := bandwidthToString_plain khz
  have hdestination : ∀ shown ∈ shownDestination t, ' ' ∉ shown := by
    unfold shownDestination
    split_ifs with hauto
    · simp
    · simp [discoveryDestinationToString, hauto, blank_not_hexByte]
  have hpayload : ∀ shown ∈ shownPayload t, ' ' ∉ shown := by
    unfold shownPayload discoveryPayloadToString
    split_ifs <;> simp [blank_not_hexByte]
  simp only [snapshotValues, List.forall_mem_cons, List.not_mem_nil, false_implies, implies_true,
    and_true]
  exact ⟨changed_plain (fun _ => hbandwidth _) _ _, hword _ _, hword _ _,
    changed_plain (fun _ => hbandwidth _) _ _, hword _ _, hword _ _, hword _ _,
    changed_plain (fun _ => hbandwidth _) _ _, hword _ _, hword _ _, hword _ _, hword _ _,
    hword _ _, hbyte _ _, changed_plain (fun level : Int16 => signedText_plain level.toInt) _ _,
    changed_plain commandsText_plain _ _, hdestination, hpayload,
    changed_plain flagText_plain _ _, hword _ _, hword _ _, hbyte _ _⟩

theorem snapshotRows_plain (t : TuningConfig) :
    ∀ row ∈ snapshotKeys.zip (snapshotValues t), IsPlainRow row := by
  have hkeys : ∀ key ∈ snapshotKeys, '=' ∉ key := by decide
  rintro ⟨key, value⟩ hrow
  obtain ⟨hkey, hvalue⟩ := List.of_mem_zip hrow
  exact ⟨hkeys key hkey, snapshotValues_plain t value hvalue⟩

theorem tuningConfigSnapshot_inj :
    tuningConfigSnapshot t = tuningConfigSnapshot t' ↔ ShownAlike t t' := by
  rw [← snapshotValues_inj]
  constructor
  · intro h
    have hkeys (s : TuningConfig) :
        (snapshotKeys.zip (snapshotValues s)).map Prod.fst = snapshotKeys := rfl
    have hvalues (s : TuningConfig) :
        (snapshotKeys.zip (snapshotValues s)).map Prod.snd = snapshotValues s := rfl
    have hrows := settingLine_inj ((hkeys t).trans (hkeys t').symm)
      (by rw [hkeys]; decide) (snapshotRows_plain t) (snapshotRows_plain t') h
    rw [← hvalues t, ← hvalues t', hrows]
  · intro h
    rw [tuningConfigSnapshot, tuningConfigSnapshot, h]

/-- The snapshot is the same for two configurations exactly if they agree in what it speaks of,
and the line says that the defaults are active exactly for those that agree with them. -/
theorem snapshot_tells (t t' : TuningConfig) :
    (tuningConfigSnapshot t = tuningConfigSnapshot t' ↔ ShownAlike t t') ∧
      (tuningConfigFullSnapshot t = tuningConfigFullSnapshot t' ↔ ShownAlike t t') ∧
      (tuningConfigFullSnapshot t = "Tuning: defaults active".toList ↔ ShownAlike t defaults) := by
  have hnone : tuningConfigSnapshot defaults = [] := by decide
  have hmark (s : TuningConfig) : "Tuning overrides active:".toList ++ tuningConfigSnapshot s ≠
      "Tuning: defaults active".toList := by
    intro h
    have hhead := congrArg (List.take 8) h
    rw [List.take_append_of_le_length (by decide)] at hhead
    exact absurd hhead (by decide)
  refine ⟨tuningConfigSnapshot_inj, ?_, ?_⟩
  · rw [← tuningConfigSnapshot_inj]
    unfold tuningConfigFullSnapshot
    split_ifs with hempty hempty' hempty'
    · exact iff_of_true rfl (hempty.trans hempty'.symm)
    · exact iff_of_false (hmark t').symm fun h => hempty' (h ▸ hempty)
    · exact iff_of_false (hmark t) fun h => hempty (h.trans hempty')
    · exact List.append_right_inj _
  · rw [← tuningConfigSnapshot_inj, hnone, tuningConfigFullSnapshot]
    split_ifs with hempty
    · exact iff_of_true rfl hempty
    · exact iff_of_false (hmark t) hempty

end HomeIoControl.TuningSnapshots
