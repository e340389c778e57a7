import HomeIoControl.PairingRecords
import HomeIoControl.TextPieces
import Mathlib.Data.List.Sublists

/-!
# The line of the result sensor

The line of an attempt that has ended fits its buffer whatever it reports, and what it reports
can be read back from it: no value contains a separator.
-/

namespace HomeIoControl.ResultSensors

open ProtocolFrames DeviceModels DeviceRegistries TextPieces PairingTelemetry PairingRecords
open FrameLogLines (unsignedText isAsciiDigit_of_mem)
open LogIngestion (isAsciiDigit)

theorem name_injective {a b : PairingOutcome} (h : a.name = b.name) : a = b := by
  cases a <;> cases b <;> first | rfl | exact absurd h (by decide)

theorem stageName_injective {a b : PairingState} (h : a.stageName = b.stageName) : a = b := by
  cases a <;> cases b <;> first | rfl | exact absurd h (by decide)

/-- The characters of the values: no separator is among them. -/
def IsPlain (text : List Char) : Prop := ';' ∉ text

instance (text : List Char) : Decidable (IsPlain text) :=
  inferInstanceAs (Decidable (';' ∉ text))

theorem name_plain (outcome : PairingOutcome) :
    IsPlain outcome.name.toList ∧ outcome.name.toList.length ≤ 19 := by
  cases outcome <;> exact ⟨by decide, by decide⟩

theorem stageName_plain (state : PairingState) :
    IsPlain state.stageName.toList ∧ state.stageName.toList.length ≤ 22 := by
  cases state <;> exact ⟨by decide, by decide⟩

theorem lookup_mem {α β : Type} [DecidableEq α] {key : α} {value : β} {table : List (α × β)}
    (h : table.lookup key = some value) : ∃ key', (key', value) ∈ table := by
  induction table with
  | nil => cases h
  | cons row rest ih =>
    obtain ⟨key', value'⟩ := row
    rw [List.lookup_cons] at h
    split at h
    · exact ⟨key', Option.some.inj h ▸ List.mem_cons_self⟩
    · obtain ⟨key'', hmem⟩ := ih h
      exact ⟨key'', List.mem_cons_of_mem _ hmem⟩

theorem deviceTypeName_plain (type : DeviceType) :
    IsPlain (deviceTypeName type).toList ∧ (deviceTypeName type).toList.length ≤ 29 := by
  have hall : ∀ row ∈ deviceTypeNames, IsPlain row.2.toList ∧ row.2.toList.length ≤ 29 := by
    decide
  rw [deviceTypeName]
  cases hlookup : deviceTypeNames.lookup type with
  | none => exact hall (.unknown, "unknown") List.mem_cons_self
  | some name =>
    obtain ⟨type', hmem⟩ := lookup_mem hlookup
    exact hall _ hmem

theorem unsignedText_injective {m n : ℕ} (h : unsignedText m = unsignedText n) : m = n := by
  rw [← Nat.ofDigitChars_ten_toDigits (n := m), ← Nat.ofDigitChars_ten_toDigits (n := n)]
  exact congrArg (fun digits => Nat.ofDigitChars 10 digits 0) h

theorem unsignedText_plain (n : ℕ) : IsPlain (unsignedText n) := by
  intro hmem
  exact absurd (isAsciiDigit_of_mem hmem) (by decide)

theorem length_unsignedText {n k : ℕ} (hk : 0 < k) (h : n < 10 ^ k) :
    (unsignedText n).length ≤ k :=
  (Nat.length_toDigits_le_iff (by decide) hk).mpr h

theorem nodeIdToString_inj {a b : NodeId} : nodeIdToString a = nodeIdToString b ↔ a = b := by
  constructor
  · intro h
    have hread := congrArg hexToNodeId h
    simpa using hread
  · rintro rfl
    rfl

theorem length_nodeIdToString (id : NodeId) : (nodeIdToString id).toList.length = 6 := by
  simp [nodeIdToString, hexByte]

theorem nodeIdToString_plain (id : NodeId) : IsPlain (nodeIdToString id).toList := by
  intro hmem
  have hdigit {b : UInt8} (hb : ';' ∈ hexByte b) : False :=
    absurd (FrameLogLines.isHexDigit_of_mem hb) (by decide)
  rw [nodeIdToString, String.toList_ofList, List.mem_append, List.mem_append] at hmem
  rcases hmem with (hb | hb) | hb
  · exact hdigit hb
  · exact hdigit hb
  · exact hdigit hb

theorem nodeText_plain (t : Telemetry) : IsPlain (nodeText t) ∧ (nodeText t).length ≤ 6 := by
  rw [nodeText]
  cases t.pairedDevice with
  | none => exact ⟨by decide, by decide⟩
  | some device => exact ⟨nodeIdToString_plain _, (length_nodeIdToString _).le⟩

theorem typeText_plain (t : Telemetry) : IsPlain (typeText t) ∧ (typeText t).length ≤ 29 := by
  rw [typeText]
  cases t.pairedDevice with
  | none => exact ⟨by decide, by decide⟩
  | some device => exact deviceTypeName_plain _

/-- No address looks like the mark that there is none. -/
theorem nodeText_inj {t t' : Telemetry} :
    nodeText t = nodeText t' ↔ t.pairedDevice.map Prod.fst = t'.pairedDevice.map Prod.fst := by
  have hmark (id : NodeId) : ['-'] ≠ (nodeIdToString id).toList := by
    intro h
    have hlength := congrArg List.length h
    rw [length_nodeIdToString] at hlength
    exact absurd hlength (by decide)
  rw [nodeText, nodeText]
  cases t.pairedDevice with
  | none =>
    cases t'.pairedDevice with
    | none => exact iff_of_true rfl rfl
    | some device' => exact iff_of_false (hmark _) (by simp)
  | some device =>
    cases t'.pairedDevice with
    | none => exact iff_of_false (hmark _).symm (by simp)
    | some device' =>
      simp only [String.toList_inj, nodeIdToString_inj, Option.map_some, Option.some.injEq]

/-- What an attempt that has ended can advise: one list out of a few. -/
def advices : List (List AdviceCode) :=
  [.rfSilent] :: [AdviceCode.oneWayPairingTraffic, .channelBusyLbtDelayed,
    .foreignControllerPairing].sublists'

theorem codes_mem (t : Telemetry) (ownNodeId : NodeId) :
    (analyzePairingTelemetry t ownNodeId).map PairingAdvice.code ∈ advices := by
  rw [analyze_codes]
  split
  · exact List.mem_cons_self
  · exact List.mem_cons_of_mem _ (List.mem_sublists'.mpr (reasons_sublist t ownNodeId))

/-- The text of some advice. -/
def codesText (codes : List AdviceCode) : List Char :=
  if List.intercalate [','] (codes.map fun code => code.name.toList) = [] then "none".toList
  else List.intercalate [','] (codes.map fun code => code.name.toList)

theorem codesText_plain :
    ∀ codes ∈ advices, IsPlain (codesText codes) ∧ (codesText codes).length ≤ 42 := by
  decide

theorem codesText_inj :
    ∀ codes ∈ advices, ∀ codes' ∈ advices, codesText codes = codesText codes' → codes = codes' := by
  decide

/-- The codes of an attempt that has ended. -/
def codesOf (t : Telemetry) (now : UInt32) (outcome : PairingOutcome) (ownNodeId : NodeId) :
    List AdviceCode :=
  (analyzePairingTelemetry (t.setOutcome now outcome) ownNodeId).map PairingAdvice.code

theorem adviceText_finish (t : Telemetry) (now : UInt32) (outcome : PairingOutcome)
    (ownNodeId : NodeId) :
    adviceText (finishPairingAttempt t now outcome ownNodeId) =
      codesText (codesOf t now outcome ownNodeId) := by
  rw [codesText, codesOf, List.map_map]
  rfl

/-- An attempt that has ended, as its record tells. -/
structure Ended where
  telemetry : Telemetry
  now : UInt32
  outcome : PairingOutcome
  ownNodeId : NodeId

namespace Ended

/-- The record when the attempt has ended. -/
def finished (e : Ended) : Telemetry :=
  finishPairingAttempt e.telemetry e.now e.outcome e.ownNodeId

def codes (e : Ended) : List AdviceCode := codesOf e.telemetry e.now e.outcome e.ownNodeId

def duration (e : Ended) : UInt32 := e.now - e.telemetry.startMs

end Ended

/-- Two attempts that ended alike: nothing that the sensor shows tells them apart. -/
structure EndedAlike (e e' : Ended) : Prop where
  outcome : e.outcome = e'.outcome
  phase : e.telemetry.phase = e'.telemetry.phase
  node : e.telemetry.pairedDevice.map Prod.fst = e'.telemetry.pairedDevice.map Prod.fst
  type : typeText e.telemetry = typeText e'.telemetry
  attempts : e.telemetry.discoveryAttempts = e'.telemetry.discoveryAttempts
  lbtRetries : e.telemetry.lbtRetries = e'.telemetry.lbtRetries
  duration : e.duration = e'.duration
  heard : e.telemetry.heardCount = e'.telemetry.heardCount
  advice : e.codes = e'.codes

/-- The values that an ended attempt shows. -/
theorem resultValues_finished (e : Ended) (shown : UInt32) :
    resultValues e.finished shown =
      [e.outcome.name.toList, e.telemetry.phase.stageName.toList, nodeText e.telemetry,
        typeText e.telemetry, unsignedText e.telemetry.discoveryAttempts.toNat,
        unsignedText e.telemetry.lbtRetries.toNat, unsignedText e.duration.toNat,
        unsignedText e.telemetry.heardCount.toNat, codesText e.codes] := by
  rw [resultValues, Ended.finished, adviceText_finish]
  rfl

/-- The parts of the line between its separators. -/
def parts (e : Ended) (shown : UInt32) : List (List Char) :=
  "v1".toList :: List.zipWith (· ++ ·) resultKeys (resultValues e.finished shown)

theorem resultValues_plain (e : Ended) (shown : UInt32) :
    ∀ value ∈ resultValues e.finished shown, IsPlain value := by
  rw [resultValues_finished]
  simp only [List.forall_mem_cons, List.not_mem_nil, false_implies, implies_true, and_true]
  exact ⟨(name_plain _).1, (stageName_plain _).1, (nodeText_plain _).1, (typeText_plain _).1,
    unsignedText_plain _, unsignedText_plain _, unsignedText_plain _, unsignedText_plain _,
    (codesText_plain _ (codes_mem _ _)).1⟩

theorem parts_plain (e : Ended) (shown : UInt32) : ∀ part ∈ parts e shown, IsPlain part := by
  have hkeys : ∀ key ∈ resultKeys, IsPlain key := by decide
  refine List.forall_mem_cons.mpr ⟨by decide, fun part hpart => ?_⟩
  obtain ⟨key, hkey, value, hvalue, rfl⟩ := mem_zipWith_append hpart
  intro hmem
  exact (List.mem_append.mp hmem).elim (hkeys key hkey)
    (resultValues_plain e shown value hvalue)

/-- The line fits its buffer. -/
theorem length_resultLine (e : Ended) (shown : UInt32) :
    (resultLine e.finished shown).length < resultSensorStringBufferSize := by
  have hkeys : resultKeys.flatten.length = 66 := by decide
  have hnumber {n k : ℕ} (hk : 0 < k) (h : n < 10 ^ k) := length_unsignedText hk h
  have hjoined := length_zipWith_append resultKeys (resultValues e.finished shown)
  have houtcome := (name_plain e.outcome).2
  have hphase := (stageName_plain e.telemetry.phase).2
  have hnode := (nodeText_plain e.telemetry).2
  have htype := (typeText_plain e.telemetry).2
  have hattempts : (unsignedText e.telemetry.discoveryAttempts.toNat).length ≤ 3 :=
    hnumber (by decide) (e.telemetry.discoveryAttempts.toNat_lt.trans (by decide))
  have hlbt : (unsignedText e.telemetry.lbtRetries.toNat).length ≤ 3 :=
    hnumber (by decide) (e.telemetry.lbtRetries.toNat_lt.trans (by decide))
  have hduration : (unsignedText e.duration.toNat).length ≤ 10 :=
    hnumber (by decide) (e.duration.toNat_lt.trans (by decide))
  have hheard : (unsignedText e.telemetry.heardCount.toNat).length ≤ 5 :=
    hnumber (by decide) (e.telemetry.heardCount.toNat_lt.trans (by decide))
  have hadvice : (codesText e.codes).length ≤ 42 := (codesText_plain _ (codes_mem _ _)).2
  have hparts : (List.zipWith (· ++ ·) resultKeys (resultValues e.finished shown)).length = 9 := rfl
  have hfront : "v1".toList.length = 2 := by decide
  have hvalues : (resultValues e.finished shown).flatten.length ≤ 139 := by
    rw [resultValues_finished]
    simp only [List.flatten_cons, List.flatten_nil, List.length_append, List.length_nil]
    omega
  rw [resultLine, length_intercalate, List.flatten_cons, List.length_append, List.length_cons,
    hparts, hfront]
  have hbuffer : resultSensorStringBufferSize = 256 := rfl
  omega

theorem resultSensorString_eq (e : Ended) (shown : UInt32) :
    resultSensorString e.finished shown = resultLine e.finished shown :=
  List.take_of_length_le (Nat.le_sub_one_of_lt (length_resultLine e shown))

/-- The line can be taken apart again. -/
theorem resultLine_inj {e e' : Ended} {shown shown' : UInt32} :
    resultLine e.finished shown = resultLine e'.finished shown' ↔
      resultValues e.finished shown = resultValues e'.finished shown' := by
  constructor
  · intro h
    have hparts : parts e shown = parts e' shown' :=
      intercalate_inj (List.cons_ne_nil _ _) (List.cons_ne_nil _ _) (parts_plain e shown)
        (parts_plain e' shown') h
    refine zipWith_append_inj ?_ ?_ (List.cons.inj hparts).2
    · rfl
    · rfl
  · intro h
    rw [resultLine, resultLine, h]

/-- The texts of the numbers of two attempts. -/
theorem unsignedText_inj {m n : ℕ} : unsignedText m = unsignedText n ↔ m = n :=
  ⟨unsignedText_injective, congrArg unsignedText⟩

theorem codesText_codes_inj {e e' : Ended} : codesText e.codes = codesText e'.codes ↔
    e.codes = e'.codes :=
  ⟨codesText_inj _ (codes_mem _ _) _ (codes_mem _ _), congrArg codesText⟩

/-- The values of two attempts are the same exactly if they ended alike. -/
theorem resultValues_inj {e e' : Ended} {shown shown' : UInt32} :
    resultValues e.finished shown = resultValues e'.finished shown' ↔ EndedAlike e e' := by
  have houtcome : e.outcome.name.toList = e'.outcome.name.toList ↔ e.outcome = e'.outcome :=
    ⟨fun h => name_injective (String.toList_inj.mp h), fun h => by rw [h]⟩
  have hphase : e.telemetry.phase.stageName.toList = e'.telemetry.phase.stageName.toList ↔
      e.telemetry.phase = e'.telemetry.phase :=
    ⟨fun h => stageName_injective (String.toList_inj.mp h), fun h => by rw [h]⟩
  rw [resultValues_finished, resultValues_finished]
  simp only [List.cons.injEq, and_true, houtcome, hphase, nodeText_inj, unsignedText_inj,
    UInt8.toNat_inj, UInt16.toNat_inj, UInt32.toNat_inj, codesText_codes_inj]
  constructor
  · rintro ⟨houtcome, hphase, hnode, htype, hattempts, hlbt, hduration, hheard, hadvice⟩
    exact ⟨houtcome, hphase, hnode, htype, hattempts, hlbt, hduration, hheard, hadvice⟩
  · intro h
    exact ⟨h.outcome, h.phase, h.node, h.type, h.attempts, h.lbtRetries, h.duration, h.heard,
      h.advice⟩

/-- The line of an attempt that has ended is never cut, stays the same whenever it is shown, and
tells apart any two attempts that did not end alike. -/
theorem result_string_tells (e e' : Ended) (shown shown' : UInt32) :
    resultSensorString e.finished shown = resultLine e.finished shown ∧
      resultSensorString e.finished shown = resultSensorString e.finished shown' ∧
      (resultSensorString e.finished shown = resultSensorString e'.finished shown' ↔
        EndedAlike e e') := by
  refine ⟨resultSensorString_eq e shown, ?_, ?_⟩
  · rw [resultSensorString_eq, resultSensorString_eq, resultLine_inj, resultValues_finished,
      resultValues_finished]
  · rw [resultSensorString_eq, resultSensorString_eq, resultLine_inj, resultValues_inj]

end HomeIoControl.ResultSensors
