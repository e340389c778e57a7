import HomeIoControl.FrameLogLines
import HomeIoControl.ProbeIndices
import HomeIoControl.RadioLinks
import Mathlib.Data.List.DropRight
import Mathlib.Data.Rat.Init

/-!
# Tuning

The tunable parameters, as YAML declares them and as the entities of Home Assistant show and change
them, and the settings that a radio driver keeps of them.
-/

namespace HomeIoControl.TuningConfigs

open ProtocolFrames
open DeviceRegistries (hexByte hexPairs)
open FrameLogLines (unsignedText)
open ProbeIndices (isBlank)

/-- `BandwidthOption`, its bandwidth in tenths of a kHz. -/
structure BandwidthOption where
  reg : UInt8
  khz : ℕ

def sx1262Bandwidths : List BandwidthOption :=
  [⟨0x1C, 390⟩, ⟨0x14, 469⟩, ⟨0x0C, 586⟩, ⟨0x1B, 782⟩, ⟨0x0B, 1173⟩, ⟨0x1A, 1562⟩, ⟨0x12, 1872⟩]

def sx1276Bandwidths : List BandwidthOption :=
  [⟨0x14, 208⟩, ⟨0x13, 417⟩, ⟨0x03, 625⟩, ⟨0x12, 833⟩, ⟨0x02, 1250⟩]

def lr1121Bandwidths : List BandwidthOption :=
  [⟨0x1C, 390⟩, ⟨0x14, 469⟩, ⟨0x0C, 586⟩, ⟨0x1B, 782⟩, ⟨0x0B, 1173⟩, ⟨0x1A, 1562⟩, ⟨0x12, 1872⟩]

def sx1262BwFallbackKhz : ℕ := 1173
def sx1276BwFallbackKhz : ℕ := 417
def lr1121BwFallbackKhz : ℕ := 1173

/-- A bandwidth that a chip's table lists. -/
abbrev RxBandwidth (table : List BandwidthOption) : Type :=
  { reg : UInt8 // reg ∈ table.map BandwidthOption.reg }

def bandwidthToKhz (table : List BandwidthOption) (reg : UInt8) (fallback : ℕ) : ℕ :=
  ((table.find? fun option => option.reg = reg).map BandwidthOption.khz).getD fallback

/-- `"%.1f"`. -/
def bandwidthToString (khz : ℕ) : List Char :=
  unsignedText (khz / 10) ++ '.' :: unsignedText (khz % 10)

/-- The spelling without blanks, in small letters and without its unit. -/
def normalizedBandwidth (value : List Char) : List Char :=
  let normalized := (value.filter fun ch => !isBlank ch).map Char.toLower
  if 3 < normalized.length ∧ "khz".toList <:+ normalized then
    normalized.take (normalized.length - 3)
  else normalized

def bandwidthFromString (table : List BandwidthOption) (value : List Char) : Option UInt8 :=
  (table.find? fun option =>
    normalizedBandwidth value = bandwidthToString option.khz ||
      normalizedBandwidth value = unsignedText (option.khz / 10)).map BandwidthOption.reg

/-- The common part of the typed lookups. -/
def rxBandwidthFromString (table : List BandwidthOption) (value : List Char) :
    Option (RxBandwidth table) :=
  (bandwidthFromString table value).bind fun reg =>
    if h : reg ∈ table.map BandwidthOption.reg then some ⟨reg, h⟩ else none

def sx1262BandwidthToString (bw : RxBandwidth sx1262Bandwidths) : List Char :=
  bandwidthToString (bandwidthToKhz sx1262Bandwidths bw.1 sx1262BwFallbackKhz)

def sx1276BandwidthToString (bw : RxBandwidth sx1276Bandwidths) : List Char :=
  bandwidthToString (bandwidthToKhz sx1276Bandwidths bw.1 sx1276BwFallbackKhz)

def lr1121BandwidthToString (bw : RxBandwidth lr1121Bandwidths) : List Char :=
  bandwidthToString (bandwidthToKhz lr1121Bandwidths bw.1 lr1121BwFallbackKhz)

def sx1262BandwidthFromString : List Char → Option (RxBandwidth sx1262Bandwidths) :=
  rxBandwidthFromString sx1262Bandwidths

def sx1276BandwidthFromString : List Char → Option (RxBandwidth sx1276Bandwidths) :=
  rxBandwidthFromString sx1276Bandwidths

def lr1121BandwidthFromString : List Char → Option (RxBandwidth lr1121Bandwidths) :=
  rxBandwidthFromString lr1121Bandwidths

/-- `TuningConfig` whole: what transmitting, listening and pairing read, and each chip's own. -/
structure TuningConfig extends RadioLinks.TuningConfig where
  sx1262RxBandwidth : RxBandwidth sx1262Bandwidths
  sx1262ResponsePreamble : UInt16
  sx1262PostTxSettleUs : UInt16
  sx1276RxBandwidth : RxBandwidth sx1276Bandwidths
  sx1276ResponsePreamble : UInt16
  sx1276DiscoveryHopSliceMs : UInt16
  sx1262DiscoveryHopSliceMs : UInt16
  lr1121RxBandwidth : RxBandwidth lr1121Bandwidths
  lr1121ResponsePreamble : UInt16
  lr1121PostTxSettleUs : UInt16
  lr1121DiscoveryHopSliceMs : UInt16

/-- The values of a `TuningConfig` that nothing has changed. -/
def defaults : TuningConfig where
  sx1262RxBandwidth := ⟨0x0C, by decide⟩
  sx1262ResponsePreamble := 8
  sx1262PostTxSettleUs := 500
  sx1276RxBandwidth := ⟨0x13, by decide⟩
  sx1276ResponsePreamble := 12
  sx1276DiscoveryHopSliceMs := 5
  sx1262DiscoveryHopSliceMs := 7
  lr1121RxBandwidth := ⟨0x0B, by decide⟩
  lr1121ResponsePreamble := 8
  lr1121PostTxSettleUs := 500
  lr1121DiscoveryHopSliceMs := 7

def discover : UInt8 := 0x28
def discoverSpe : UInt8 := 0x2A
def discoverAlt : UInt8 := 0x2E

/-- `discovery_command_from_string`. -/
def discoveryCommandFromString (value : List Char) : Option UInt8 :=
  let normalized := value.map Char.toLower
  if normalized = "0x28".toList ∨ normalized = "discover".toList then some discover
  else if normalized = "0x2a".toList ∨ normalized = "discover_spe".toList then some discoverSpe
  else if normalized = "0x2e".toList ∨ normalized = "discover_alt".toList then some discoverAlt
  else none

/-- `"0x%02X"`. -/
def discoveryCommandToString (command : UInt8) : List Char := '0' :: 'x' :: hexByte command

def discoveryCommandsToCsv (commands : List UInt8) : List Char :=
  List.intercalate [','] (commands.map discoveryCommandToString)

def discoveryCommandsToString (commands : List UInt8) : List Char :=
  '[' :: (discoveryCommandsToCsv commands ++ [']'])

def isGap (ch : Char) : Bool := ch = ' ' || ch = '\t'

/-- A token without the gaps around it. -/
def trimmedToken (token : List Char) : List Char := (token.dropWhile isGap).rdropWhile isGap

/-- The commands of a comma-separated list; what is none is passed over. -/
def discoveryCommandsFromCsv (value : List Char) : List UInt8 :=
  (value.splitOn ',').filterMap fun token => discoveryCommandFromString (trimmedToken token)

def discoveryDestinationToString (destinationAuto : Bool) (destination : NodeId) : List Char :=
  if destinationAuto then "auto".toList
  else '0' :: 'x' :: (hexByte destination.b0 ++ (hexByte destination.b1 ++ hexByte destination.b2))

def discoveryPayloadToString (payloadEnabled : Bool) (payload : UInt8) : List Char :=
  if payloadEnabled then '0' :: 'x' :: hexByte payload else "none".toList

def addressSuffixDiscovery : UInt8 := 0x3B
def addressSuffixBroadcast : UInt8 := 0x3F

/-- The rows of `NUMBER_PARAMS`. -/
inductive NumberName where
  | sx1262ResponsePreamble
  | sx1262PostTxSettleUs
  | sx1276ResponsePreamble
  | sx1276DiscoveryHopSliceMs
  | sx1262DiscoveryHopSliceMs
  | lr1121ResponsePreamble
  | lr1121PostTxSettleUs
  | lr1121DiscoveryHopSliceMs
  | coldBroadcastReplyPreamble
  | normalStartPreamble
  | lbtMaxRetries
  | lbtRssiThresholdDbm
  | exchangeStartResponseWaitMs
  | exchangeResponseWaitMs
  | exchangeTotalBudgetMs
  | pairingDiscoveryWaitMs
  | pairingDiscoveryInitialDwellMs
  | pairingKeyExchangeRetries
  deriving DecidableEq

def numberNames : List NumberName :=
  [.sx1262ResponsePreamble, .sx1262PostTxSettleUs, .sx1276ResponsePreamble,
    .sx1276DiscoveryHopSliceMs, .sx1262DiscoveryHopSliceMs, .lr1121ResponsePreamble,
    .lr1121PostTxSettleUs, .lr1121DiscoveryHopSliceMs, .coldBroadcastReplyPreamble,
    .normalStartPreamble, .lbtMaxRetries, .lbtRssiThresholdDbm, .exchangeStartResponseWaitMs,
    .exchangeResponseWaitMs, .exchangeTotalBudgetMs, .pairingDiscoveryWaitMs,
    .pairingDiscoveryInitialDwellMs, .pairingKeyExchangeRetries]

/-- A number as a cast to an integer type leaves it. -/
def truncated (value : ℚ) : ℤ := value.num.tdiv value.den

structure TuningNumberParam where
  name : String
  get : TuningConfig → ℤ
  set : TuningConfig → ℚ → TuningConfig
  appliesToRadio : Bool

/-- A parameter kept in sixteen bits. -/
def wordParam (name : String) (get : TuningConfig → UInt16)
    (set : TuningConfig → UInt16 → TuningConfig) (appliesToRadio : Bool) : TuningNumberParam where
  name := name
  get := fun t => (get t).toNat
  set := fun t value => set t (UInt16.ofNat (truncated value).toNat)
  appliesToRadio := appliesToRadio

/-- A parameter kept in eight bits. -/
def byteParam (name : String) (get : TuningConfig → UInt8)
    (set : TuningConfig → UInt8 → TuningConfig) (appliesToRadio : Bool) : TuningNumberParam where
  name := name
  get := fun t => (get t).toNat
  set := fun t value => set t (UInt8.ofNat (truncated value).toNat)
  appliesToRadio := appliesToRadio

/-- `NUMBER_PARAMS`. -/
def numberParam : NumberName → TuningNumberParam
  | .sx1262ResponsePreamble =>
    wordParam "sx1262_response_preamble" (fun t => t.sx1262ResponsePreamble)
      (fun t v => { t with sx1262ResponsePreamble := v }) true
  | .sx1262PostTxSettleUs =>
    wordParam "sx1262_post_tx_settle_us" (fun t => t.sx1262PostTxSettleUs)
      (fun t v => { t with sx1262PostTxSettleUs := v }) true
  | .sx1276ResponsePreamble =>
    wordParam "sx1276_response_preamble" (fun t => t.sx1276ResponsePreamble)
      (fun t v => { t with sx1276ResponsePreamble := v }) true
  | .sx1276DiscoveryHopSliceMs =>
    wordParam "sx1276_discovery_hop_slice_ms" (fun t => t.sx1276DiscoveryHopSliceMs)
      (fun t v => { t with sx1276DiscoveryHopSliceMs := v }) false
  | .sx1262DiscoveryHopSliceMs =>
    wordParam "sx1262_discovery_hop_slice_ms" (fun t => t.sx1262DiscoveryHopSliceMs)
      (fun t v => { t with sx1262DiscoveryHopSliceMs := v }) false
  | .lr1121ResponsePreamble =>
    wordParam "lr1121_response_preamble" (fun t => t.lr1121ResponsePreamble)
      (fun t v => { t with lr1121ResponsePreamble := v }) true
  | .lr1121PostTxSettleUs =>
    wordParam "lr1121_post_tx_settle_us" (fun t => t.lr1121PostTxSettleUs)
      (fun t v => { t with lr1121PostTxSettleUs := v }) true
  | .lr1121DiscoveryHopSliceMs =>
    wordParam "lr1121_discovery_hop_slice_ms" (fun t => t.lr1121DiscoveryHopSliceMs)
      (fun t v => { t with lr1121DiscoveryHopSliceMs := v }) false
  | .coldBroadcastReplyPreamble =>
    wordParam "cold_broadcast_reply_preamble" (fun t => t.coldBroadcastReplyPreamble)
      (fun t v => { t with coldBroadcastReplyPreamble := v }) false
  | .normalStartPreamble =>
    wordParam "normal_start_preamble" (fun t => t.normalStartPreamble)
      (fun t v => { t with normalStartPreamble := v }) false
  | .lbtMaxRetries =>
    byteParam "lbt_max_retries" (fun t => t.lbtMaxRetries)
      (fun t v => { t with lbtMaxRetries := v }) false
  | .lbtRssiThresholdDbm =>
    { name := "lbt_rssi_threshold_dbm"
      get := fun t => t.lbtRssiThresholdDbm.toInt
      set := fun t value => { t with lbtRssiThresholdDbm := Int16.ofInt (truncated value) }
      appliesToRadio := false }
  | .exchangeStartResponseWaitMs =>
    wordParam "exchange_start_response_wait_ms" (fun t => t.exchangeStartResponseWaitMs)
      (fun t v => { t with exchangeStartResponseWaitMs := v }) false
  | .exchangeResponseWaitMs =>
    wordParam "exchange_response_wait_ms" (fun t => t.exchangeResponseWaitMs)
      (fun t v => { t with exchangeResponseWaitMs := v }) false
  | .exchangeTotalBudgetMs =>
    wordParam "exchange_total_budget_ms" (fun t => t.exchangeTotalBudgetMs)
      (fun t v => { t with exchangeTotalBudgetMs := v }) false
  | .pairingDiscoveryWaitMs =>
    wordParam "pairing_discovery_wait_ms" (fun t => t.pairingDiscoveryWaitMs)
      (fun t v => { t with pairingDiscoveryWaitMs := v }) false
  | .pairingDiscoveryInitialDwellMs =>
    wordParam "pairing_discovery_initial_dwell_ms" (fun t => t.pairingDiscoveryInitialDwellMs)
      (fun t v => { t with pairingDiscoveryInitialDwellMs := v }) false
  | .pairingKeyExchangeRetries =>
    byteParam "pairing_key_exchange_retries" (fun t => t.pairingKeyExchangeRetries)
      (fun t v => { t with pairingKeyExchangeRetries := v }) false

def findTuningNumber (name : String) : Option NumberName :=
  numberNames.find? fun a => (numberParam a).name = name

/-- `_NUMBER_PARAMS`: the bounds of the YAML schema and of the entities. -/
def numberRange : NumberName → ℤ × ℤ
  | .sx1262ResponsePreamble => (8, 256)
  | .sx1262PostTxSettleUs => (0, 2000)
  | .sx1276ResponsePreamble => (8, 256)
  | .sx1276DiscoveryHopSliceMs => (5, 200)
  | .sx1262DiscoveryHopSliceMs => (0, 500)
  | .lr1121ResponsePreamble => (8, 256)
  | .lr1121PostTxSettleUs => (0, 2000)
  | .lr1121DiscoveryHopSliceMs => (0, 500)
  | .coldBroadcastReplyPreamble => (8, 256)
  | .normalStartPreamble => (8, 256)
  | .lbtMaxRetries => (0, 10)
  | .lbtRssiThresholdDbm => (-95, -70)
  | .exchangeStartResponseWaitMs => (200, 4000)
  | .exchangeResponseWaitMs => (200, 4000)
  | .exchangeTotalBudgetMs => (500, 12000)
  | .pairingDiscoveryWaitMs => (500, 5000)
  | .pairingDiscoveryInitialDwellMs => (0, 500)
  | .pairingKeyExchangeRetries => (1, 5)

/-- The rows of `SELECT_PARAMS`. -/
inductive SelectName where
  | sx1262RxBandwidth
  | sx1276RxBandwidth
  | lr1121RxBandwidth
  | pairingDiscoveryCommands
  | pairingDiscoveryDestination
  | pairingDiscoveryPayload
  | pairingDiscoveryLowPower
  deriving DecidableEq

def selectNames : List SelectName :=
  [.sx1262RxBandwidth, .sx1276RxBandwidth, .lr1121RxBandwidth, .pairingDiscoveryCommands,
    .pairingDiscoveryDestination, .pairingDiscoveryPayload, .pairingDiscoveryLowPower]

structure TuningSelectParam where
  name : String
  get : TuningConfig → List Char
  set : TuningConfig → List Char → TuningConfig × Bool
  appliesToRadio : Bool

/-- `SELECT_PARAMS`. -/
def selectParam : SelectName → TuningSelectParam
  | .sx1262RxBandwidth =>
    { name := "sx1262_rx_bandwidth"
      get := fun t => sx1262BandwidthToString t.sx1262RxBandwidth
      set := fun t v =>
        match sx1262BandwidthFromString v with
        | none => (t, false)
        | some bw => ({ t with sx1262RxBandwidth := bw }, true)
      appliesToRadio := true }
  | .sx1276RxBandwidth =>
    { name := "sx1276_rx_bandwidth"
      get := fun t => sx1276BandwidthToString t.sx1276RxBandwidth
      set := fun t v =>
        match sx1276BandwidthFromString v with
        | none => (t, false)
        | some bw => ({ t with sx1276RxBandwidth := bw }, true)
      appliesToRadio := true }
  | .lr1121RxBandwidth =>
    { name := "lr1121_rx_bandwidth"
      get := fun t => lr1121BandwidthToString t.lr1121RxBandwidth
      set := fun t v =>
        match lr1121BandwidthFromString v with
        | none => (t, false)
        | some bw => ({ t with lr1121RxBandwidth := bw }, true)
      appliesToRadio := true }
  | .pairingDiscoveryCommands =>
    { name := "pairing_discovery_commands"
      get := fun t => discoveryCommandsToCsv t.pairingDiscoveryCommands
      set := fun t v => ({ t with pairingDiscoveryCommands := discoveryCommandsFromCsv v }, true)
      appliesToRadio := false }
  | .pairingDiscoveryDestination =>
    { name := "pairing_discovery_destination"
      get := fun t => discoveryDestinationToString t.pairingDiscoveryDestinationAuto
        t.pairingDiscoveryDestination
      set := fun t v =>
        if v = "auto".toList then ({ t with pairingDiscoveryDestinationAuto := true }, true)
        else if v = "0x00003B".toList then
          ({ t with
              pairingDiscoveryDestinationAuto := false
              pairingDiscoveryDestination := ⟨0, 0, addressSuffixDiscovery⟩ }, true)
        else if v = "0x00003F".toList then
          ({ t with
              pairingDiscoveryDestinationAuto := false
              pairingDiscoveryDestination := ⟨0, 0, addressSuffixBroadcast⟩ }, true)
        else (t, false)
      appliesToRadio := false }
  | .pairingDiscoveryPayload =>
    { name := "pairing_discovery_payload"
      get := fun t => discoveryPayloadToString t.pairingDiscoveryPayloadEnabled
        t.pairingDiscoveryPayload
      set := fun t v =>
        if v = "none".toList then ({ t with pairingDiscoveryPayloadEnabled := false }, true)
        else if v = "0x00".toList then
          ({ t with pairingDiscoveryPayloadEnabled := true, pairingDiscoveryPayload := 0 }, true)
        else (t, false)
      appliesToRadio := false }
  | .pairingDiscoveryLowPower =>
    { name := "pairing_discovery_low_power"
      get := fun t => if t.pairingDiscoveryLowPower then "On".toList else "Off".toList
      set := fun t v => ({ t with pairingDiscoveryLowPower := decide (v = "On".toList) }, true)
      appliesToRadio := false }

def findTuningSelect (name : String) : Option SelectName :=
  selectNames.find? fun a => (selectParam a).name = name

inductive ChipModel where
  | sx1262
  | sx1276
  | lr1121

/-- What a driver keeps of the configuration; the SX1276 waits for no settling. -/
structure RadioSettings where
  rxBandwidth : UInt8
  responsePreamble : UInt16
  postTxSettleUs : Option UInt16

/-- `apply_tuning` of the drivers. -/
def applyTuning : ChipModel → TuningConfig → RadioSettings
  | .sx1262, t => ⟨t.sx1262RxBandwidth.1, t.sx1262ResponsePreamble, some t.sx1262PostTxSettleUs⟩
  | .sx1276, t => ⟨t.sx1276RxBandwidth.1, t.sx1276ResponsePreamble, none⟩
  | .lr1121, t => ⟨t.lr1121RxBandwidth.1, t.lr1121ResponsePreamble, some t.lr1121PostTxSettleUs⟩

/-- `hop_dwell_ms` of the drivers. -/
def hopDwellMs : ChipModel → TuningConfig → UInt16
  | .sx1262, t => t.sx1262DiscoveryHopSliceMs
  | .sx1276, t => t.sx1276DiscoveryHopSliceMs
  | .lr1121, t => t.lr1121DiscoveryHopSliceMs

/-- The hub's configuration and what its radio keeps of it. -/
structure TunedHub where
  tuning : TuningConfig
  radio : RadioSettings

variable (chip : ChipModel)

/-- The hub at the end of `setup`. -/
def booted (tuning : TuningConfig) : TunedHub := ⟨tuning, applyTuning chip tuning⟩

def updateTuningNumber (hub : TunedHub) (name : String) (value : ℚ) : TunedHub :=
  match findTuningNumber name with
  | none => hub
  | some a =>
    let tuning := (numberParam a).set hub.tuning value
    ⟨tuning, if (numberParam a).appliesToRadio then applyTuning chip tuning else hub.radio⟩

def updateTuningSelect (hub : TunedHub) (name : String) (value : List Char) : TunedHub :=
  match findTuningSelect name with
  | none => hub
  | some a =>
    let (tuning, parsed) := (selectParam a).set hub.tuning value
    ⟨tuning, if parsed && (selectParam a).appliesToRadio then applyTuning chip tuning
      else hub.radio⟩

def getTuningNumberValue (hub : TunedHub) (name : String) : ℤ :=
  match findTuningNumber name with
  | none => 0
  | some a => (numberParam a).get hub.tuning

def getTuningSelectValue (hub : TunedHub) (name : String) : List Char :=
  match findTuningSelect name with
  | none => []
  | some a => (selectParam a).get hub.tuning

/-- What an entity sends to the hub. -/
inductive Update where
  | number (name : String) (value : ℚ)
  | select (name : String) (value : List Char)

def update (hub : TunedHub) : Update → TunedHub
  | .number name value => updateTuningNumber chip hub name value
  | .select name value => updateTuningSelect chip hub name value

def sx1262BandwidthOptions : List (List Char × RxBandwidth sx1262Bandwidths) :=
  [("39.0".toList, ⟨0x1C, by decide⟩), ("46.9".toList, ⟨0x14, by decide⟩),
    ("58.6".toList, ⟨0x0C, by decide⟩), ("78.2".toList, ⟨0x1B, by decide⟩),
    ("117.3".toList, ⟨0x0B, by decide⟩), ("156.2".toList, ⟨0x1A, by decide⟩),
    ("187.2".toList, ⟨0x12, by decide⟩)]

def sx1276BandwidthOptions : List (List Char × RxBandwidth sx1276Bandwidths) :=
  [("20.8".toList, ⟨0x14, by decide⟩), ("41.7".toList, ⟨0x13, by decide⟩),
    ("62.5".toList, ⟨0x03, by decide⟩), ("83.3".toList, ⟨0x12, by decide⟩),
    ("125.0".toList, ⟨0x02, by decide⟩)]

def lr1121BandwidthOptions : List (List Char × RxBandwidth lr1121Bandwidths) :=
  [("39.0".toList, ⟨0x1C, by decide⟩), ("46.9".toList, ⟨0x14, by decide⟩),
    ("58.6".toList, ⟨0x0C, by decide⟩), ("78.2".toList, ⟨0x1B, by decide⟩),
    ("117.3".toList, ⟨0x0B, by decide⟩), ("156.2".toList, ⟨0x1A, by decide⟩),
    ("187.2".toList, ⟨0x12, by decide⟩)]

def discoveryCommandOptions : List (List Char × UInt8) :=
  [("0x28".toList, discover), ("0x2E".toList, discoverAlt)]

def discoveryCommandPresets : List (List Char) :=
  ["0x28".toList, "0x2E".toList, "0x28,0x2E".toList]

def discoveryDestinationOptions : List (List Char) :=
  ["auto".toList, "0x00003B".toList, "0x00003F".toList]

def pairingDiscoveryPayloadOptions : List (List Char) := ["none".toList, "0x00".toList]

/-- `_SELECT_OPTIONS`: what the entities offer. -/
def selectOptions : SelectName → List (List Char)
  | .pairingDiscoveryCommands => discoveryCommandPresets
  | .pairingDiscoveryDestination => discoveryDestinationOptions
  | .pairingDiscoveryPayload => pairingDiscoveryPayloadOptions
  | .pairingDiscoveryLowPower => ["Off".toList, "On".toList]
  | .sx1262RxBandwidth => sx1262BandwidthOptions.map Prod.fst
  | .sx1276RxBandwidth => sx1276BandwidthOptions.map Prod.fst
  | .lr1121RxBandwidth => lr1121BandwidthOptions.map Prod.fst

/-- A key of the `tuning` block with a value that the schema accepts. -/
inductive YamlEntry where
  | sx1262RxBandwidth (option : { o // o ∈ sx1262BandwidthOptions })
  | sx1276RxBandwidth (option : { o // o ∈ sx1276BandwidthOptions })
  | lr1121RxBandwidth (option : { o // o ∈ lr1121BandwidthOptions })
  | pairingDiscoveryCommands
    (options : { os : List (List Char × UInt8) // os ≠ [] ∧ ∀ o ∈ os, o ∈ discoveryCommandOptions })
  | pairingDiscoveryDestination (option : { o // o ∈ discoveryDestinationOptions })
  | pairingDiscoveryPayload (option : { o // o ∈ pairingDiscoveryPayloadOptions })
  | pairingDiscoveryLowPower (value : Bool)
  | number (a : NumberName)
    (value : { n : ℤ // (numberRange a).1 ≤ n ∧ n ≤ (numberRange a).2 })

/-- The bytes of an address behind its mark. -/
def parseDestinationToBytes (value : List Char) : NodeId :=
  match hexPairs (value.drop 2) with
  | some [b0, b1, b2] => ⟨b0, b1, b2⟩
  | _ => ⟨0, 0, 0⟩

def parsePayload (value : List Char) : UInt8 := ((hexPairs (value.drop 2)).getD []).headD 0

/-- The assignments of `_apply_tuning_config`. -/
def assign (t : TuningConfig) : YamlEntry → TuningConfig
  | .sx1262RxBandwidth option => { t with sx1262RxBandwidth := option.1.2 }
  | .sx1276RxBandwidth option => { t with sx1276RxBandwidth := option.1.2 }
  | .lr1121RxBandwidth option => { t with lr1121RxBandwidth := option.1.2 }
  | .pairingDiscoveryCommands options =>
    { t with pairingDiscoveryCommands := options.1.map Prod.snd }
  | .pairingDiscoveryDestination option =>
    if option.1 = "auto".toList then { t with pairingDiscoveryDestinationAuto := true }
    else
      { t with
        pairingDiscoveryDestinationAuto := false
        pairingDiscoveryDestination := parseDestinationToBytes option.1 }
  | .pairingDiscoveryPayload option =>
    if option.1 = "none".toList then { t with pairingDiscoveryPayloadEnabled := false }
    else
      { t with
        pairingDiscoveryPayloadEnabled := true
        pairingDiscoveryPayload := parsePayload option.1 }
  | .pairingDiscoveryLowPower value => { t with pairingDiscoveryLowPower := value }
  | .number a value => (numberParam a).set t value.1

/-- `_apply_tuning_config`. -/
def applyTuningConfig (entries : List YamlEntry) : TuningConfig := entries.foldl assign defaults

end HomeIoControl.TuningConfigs
