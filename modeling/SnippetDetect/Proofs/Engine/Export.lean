import SnippetDetect.Engine.Exchange
import SnippetDetect.Proofs.Detection
import SnippetDetect.Proofs.Engine.Reachable
import SnippetDetect.Proofs.Json.RoundTrip
import Mathlib.Data.List.Perm.Subperm

/-!
The text of an export.

The configuration of an engine is a value that the reader can give (`readable_configuration`), so
an export is read back as the configuration (`parse_exportText`). What it says is what the engine
has (`ofJson_configuration`).
-/

namespace SnippetDetect

namespace Json

theorem stringList?_ofStrings (names : List String) :
    (ofStrings names).stringList? = some names := by
  rw [ofStrings, stringList?, strings?]
  induction names with
  | nil => rfl
  | cons name rest ih => simp [List.mapM_cons, ih]

theorem readable_ofStrings (depth : Nat) (names : List String) :
    Readable (depth + 1) (ofStrings names) := by
  refine .arr fun item mem => ?_
  obtain ⟨name, -, rfl⟩ := List.mem_map.mp mem
  exact .str name

/-- A count that has few enough digits to be read. -/
def Countable (n : Nat) : Prop := n < 10 ^ Number.maxDigits

theorem countable_of_le_hundred {n : Nat} (le : n ≤ 100) : Countable n :=
  calc n < 10 ^ 3 := Nat.lt_of_le_of_lt le (by decide)
    _ ≤ 10 ^ Number.maxDigits := Nat.pow_le_pow_right (by decide) (by decide)

theorem isShort_of_countable {n : Int} (countable : Countable n.natAbs) : IsShort n :=
  (Decimal.length_digits_le_iff (by decide)).mpr countable

theorem readable_ofNat (depth : Nat) {n : Nat} (countable : Countable n) :
    Readable depth (ofNat n) := by
  refine .num fun m same => ?_
  cases same
  exact isShort_of_countable countable

theorem readable_float (depth : Nat) (x : Binary64) : Readable depth (.num (.float x)) :=
  .num nofun

end Json

open SnippetDetect.Json (Readable Countable readable_ofStrings readable_ofNat readable_float)

/-! ### The parts of an export -/

theorem readable_detectorInfo (depth : Nat) (i : DetectorInfo) :
    Readable (depth + 1) i.toJson := by
  refine .obj ?_ (by simp [entryNames])
  intro entry mem
  simp only [List.mem_cons, List.not_mem_nil, or_false] at mem
  rcases mem with rfl | rfl | rfl | rfl
  · exact .str _
  · exact .str _
  · exact .str _
  · exact .bool _

/-- What a bundled detector tells of its configuration. -/
theorem readable_detectorConfiguration {d : Detector} (bundled : d.IsBundled) {payload : Members}
    (told : d.configuration? = some payload) (depth : Nat) :
    Readable (depth + 2) (.obj payload) := by
  unfold Detector.configuration? at told
  cases strategy : d.strategy with
  | fingerprints f =>
    simp only [strategy, Option.some.injEq] at told
    subst told
    refine .obj ?_ (by simp [entryNames])
    intro entry mem
    simp only [List.mem_cons, List.not_mem_nil, or_false] at mem
    rcases mem with rfl | rfl | rfl
    · exact readable_ofStrings depth _
    · exact readable_ofStrings depth _
    · exact readable_float _ _
  | lexers ls => simp [strategy] at told
  | classifier c =>
    simp only [strategy, Option.some.injEq] at told
    subst told
    refine .obj ?_ (by simp [entryNames])
    intro entry mem
    simp only [List.mem_cons, List.not_mem_nil, or_false] at mem
    rcases mem with rfl | rfl | rfl
    · exact readable_float _ _
    · exact .bool _
    · exact .bool _
  | custom c => exact absurd strategy (bundled c)

theorem Detector.threshold_le (d : Detector) : d.threshold ≤ 100 := by
  unfold threshold
  cases made : confidenceOf (.float d.scoreGate) with
  | error fault => exact Nat.zero_le _
  | ok n => exact confidenceOf_le made

namespace Engine

/-- The counts that an export tells. -/
structure Counted (e : Engine) : Prop where
  detectors : Countable e.registry.size
  allowed : Countable e.allowed.length
  languages : Countable e.languages.length

section Parts

variable {e : Engine}

theorem Counted.enabled (counted : e.Counted) (consistent : e.Consistent) :
    Countable e.registry.order.length := by
  have known : e.registry.order ⊆ e.registry.names := fun name mem =>
    Registry.isRegistered_iff.mp (consistent.registry.known name mem)
  have fewer := (consistent.registry.ordered.subperm known).length_le
  rw [show e.registry.names.length = e.registry.size from List.length_map _] at fewer
  exact Nat.lt_of_le_of_lt fewer counted.detectors

theorem readable_threshold (consistent : e.Consistent) (depth : Nat) :
    Readable depth (.num e.threshold) := by
  refine .num fun n same => ?_
  have kept := consistent.threshold
  rw [same] at kept
  apply Json.isShort_of_countable
  apply Json.countable_of_le_hundred
  rcases clampThreshold_cases (.int n) with low | high | ⟨-, low, high⟩
  · cases kept.symm.trans low
    decide
  · cases kept.symm.trans high
    decide
  · rw [Number.int_lt_int] at low high
    omega

theorem readable_registryInfo (consistent : e.Consistent) (counted : e.Counted) (depth : Nat) :
    Readable (depth + 3) e.registry.info := by
  refine .obj ?_ (by simp [entryNames])
  intro entry mem
  simp only [List.mem_cons, List.not_mem_nil, or_false] at mem
  rcases mem with rfl | rfl | rfl | rfl | rfl
  · exact readable_ofNat _ counted.detectors
  · exact readable_ofNat _ (counted.enabled consistent)
  · exact readable_ofStrings _ _
  · exact readable_ofStrings _ _
  · refine .arr fun item mem => ?_
    obtain ⟨d, -, rfl⟩ := List.mem_map.mp mem
    exact readable_detectorInfo depth d.info

theorem readable_metrics (consistent : e.Consistent) (counted : e.Counted) (depth : Nat) :
    Readable (depth + 1) e.metrics := by
  refine .obj ?_ (by simp [entryNames])
  intro entry mem
  simp only [List.mem_cons, List.not_mem_nil, or_false] at mem
  rcases mem with rfl | rfl | rfl | rfl | rfl
  · exact readable_ofNat _ counted.detectors
  · exact readable_ofNat _ (counted.enabled consistent)
  · exact readable_threshold consistent _
  · exact readable_ofNat _ counted.allowed
  · exact readable_ofNat _ counted.languages

/-- Single detectors are told of under different names. -/
theorem names_perDetector (ds : List Detector) (tell : Detector → Option Json) :
    (entryNames (ds.filterMap fun d => (tell d).map (d.name, ·))).Sublist (ds.map (·.name)) := by
  induction ds with
  | nil => exact .slnil
  | cons d rest ih =>
    cases told : tell d with
    | none =>
      rw [List.filterMap_cons_none (by rw [told]; rfl)]
      exact ih.cons _
    | some value =>
      rw [List.filterMap_cons_some (by rw [told]; rfl)]
      exact ih.cons_cons _

theorem readable_thresholds (consistent : e.Consistent) (depth : Nat) :
    Readable (depth + 1)
      (.obj (e.registry.all.map fun d => (d.name, .ofNat d.threshold))) := by
  refine .obj ?_ ?_
  · intro entry mem
    obtain ⟨d, -, rfl⟩ := List.mem_map.mp mem
    exact readable_ofNat _ (Json.countable_of_le_hundred d.threshold_le)
  · rw [entryNames, List.map_map]
    exact consistent.registry.map_name_all ▸ consistent.registry.distinct

theorem readable_payloads (consistent : e.Consistent)
    (bundled : ∀ name d, e.registry.get? name = some d → d.IsBundled) (depth : Nat) :
    Readable (depth + 3) (.obj (e.registry.all.filterMap fun d =>
      d.configuration?.map fun c => (d.name, .obj c))) := by
  refine .obj ?_ ?_
  · intro entry mem
    obtain ⟨d, there, told⟩ := List.mem_filterMap.mp mem
    obtain ⟨payload, known, rfl⟩ := Option.map_eq_some_iff.mp told
    have found := consistent.registry.mem_all_iff.mp there
    exact readable_detectorConfiguration (bundled d.name d found) known depth
  · have names := names_perDetector e.registry.all fun d => d.configuration?.map Json.obj
    simp only [Option.map_map] at names
    refine names.nodup ?_
    rw [consistent.registry.map_name_all]
    exact consistent.registry.distinct

theorem readable_configuration (consistent : e.Consistent)
    (bundled : ∀ name d, e.registry.get? name = some d → d.IsBundled) (counted : e.Counted)
    (depth : Nat) : Readable (depth + 4) e.configuration := by
  refine .obj ?_ (by simp [entryNames])
  intro entry mem
  simp only [List.mem_cons, List.not_mem_nil, or_false] at mem
  rcases mem with rfl | rfl | rfl | rfl | rfl | rfl | rfl | rfl
  · exact readable_ofStrings _ _
  · exact readable_threshold consistent _
  · exact readable_ofStrings _ _
  · exact readable_thresholds consistent _
  · exact readable_payloads consistent bundled depth
  · exact readable_ofStrings _ _
  · exact readable_registryInfo consistent counted depth
  · exact readable_metrics consistent counted _

/-- An export is read back as the configuration; its containers nest four deep. -/
theorem parse_exportText (consistent : e.Consistent)
    (bundled : ∀ name d, e.registry.get? name = some d → d.IsBundled) (counted : e.Counted)
    {depth : Nat} (deep : 4 ≤ depth) (step : Option Nat) :
    Json.parse depth (e.exportText step) = .ok e.configuration := by
  obtain ⟨more, rfl⟩ := Nat.exists_eq_add_of_le' deep
  exact Json.parse_text (readable_configuration consistent bundled counted more) step

end Parts

/-! ### What an export says -/

def exportedPayloads (e : Engine) : List (String × Members) :=
  e.registry.all.filterMap fun d => d.configuration?.map (d.name, ·)

def exportedThresholds (e : Engine) : List (String × Number) :=
  e.registry.all.map fun d => (d.name, .int d.threshold)

theorem field_of_some {α : Type} {members : Members} {name : String} {read : Json → Option α}
    {value : Json} {part : α} (there : valueOf? members name = some value)
    (known : read value = some part) (fault : ChangeFault) :
    Changes.field members name read fault = (some part, []) := by
  simp only [Changes.field, there, known]

theorem perDetector_of_all {α : Type} {members entries : Members} {name : String}
    {read : Json → Option α} (there : valueOf? members name = some (.obj entries))
    (known : ∀ entry ∈ entries, (read entry.2).isSome = true) (fault : ChangeFault)
    (faultOf : String → ChangeFault) :
    Changes.perDetector members name read fault faultOf =
      (entries.filterMap fun (detector, value) => (read value).map (detector, ·), []) := by
  have none : (entries.filter fun (_, value) => (read value).isNone) = [] := by
    rw [List.filter_eq_nil_iff]
    intro entry mem
    have some := known entry mem
    cases value : read entry.2 with
    | none => simp [value] at some
    | some part => simp [value]
  simp only [Changes.perDetector, there, none, List.map_nil]

/-- The members of an export that are read. -/
theorem configuration_members (e : Engine) :
    ∃ members, e.configuration = .obj members ∧
      valueOf? members "detection_order" = some (.ofStrings e.registry.order) ∧
      valueOf? members "confidence_threshold" = some (.num e.threshold) ∧
      valueOf? members "enabled_pattern_languages" = some (.ofStrings e.allowed) ∧
      valueOf? members "detector_configs" = some (.obj (e.registry.all.filterMap fun d =>
        d.configuration?.map fun c => (d.name, .obj c))) ∧
      valueOf? members "detector_thresholds" =
        some (.obj (e.registry.all.map fun d => (d.name, .ofNat d.threshold))) :=
  ⟨_, rfl, rfl, rfl, rfl, rfl, rfl⟩

/-- An export has the right shape and says what the engine has. -/
theorem ofJson_configuration (e : Engine) :
    Changes.ofJson e.configuration =
      .ok ⟨some e.registry.order, some e.threshold, some e.allowed, e.exportedPayloads,
        e.exportedThresholds⟩ := by
  have payloads : (e.registry.all.filterMap fun d =>
        d.configuration?.map fun c => (d.name, Json.obj c)).filterMap
          (fun (detector, value) => (Changes.members? value).map (detector, ·)) =
      e.exportedPayloads := by
    rw [List.filterMap_filterMap]
    apply List.filterMap_congr
    intro d _
    cases d.configuration? <;> rfl
  have thresholds : (e.registry.all.map fun d => (d.name, Json.ofNat d.threshold)).filterMap
        (fun (detector, value) => value.number?.map (detector, ·)) = e.exportedThresholds := by
    rw [List.filterMap_map]
    exact congrFun List.filterMap_eq_map e.registry.all
  have configurable : ∀ entry ∈ (e.registry.all.filterMap fun d =>
      d.configuration?.map fun c => (d.name, Json.obj c)),
        (Changes.members? entry.2).isSome = true := by
    intro entry mem
    obtain ⟨d, -, told⟩ := List.mem_filterMap.mp mem
    obtain ⟨payload, -, rfl⟩ := Option.map_eq_some_iff.mp told
    rfl
  have numbers : ∀ entry ∈ (e.registry.all.map fun d => (d.name, Json.ofNat d.threshold)),
      entry.2.number?.isSome = true := by
    intro entry mem
    obtain ⟨d, -, rfl⟩ := List.mem_map.mp mem
    rfl
  obtain ⟨members, shape, order, threshold, allowed, configs, overrides⟩ :=
    configuration_members e
  rw [shape]
  simp only [Changes.ofJson, field_of_some order (Json.stringList?_ofStrings _),
    field_of_some threshold (show Json.number? (.num e.threshold) = some e.threshold from rfl),
    field_of_some allowed (Json.stringList?_ofStrings _),
    perDetector_of_all configs configurable, perDetector_of_all overrides numbers, payloads,
    thresholds]
  rfl

end Engine

end SnippetDetect
