import SnippetDetect.Proofs.Engine.AllowList
import SnippetDetect.Proofs.Engine.BulkWrite
import SnippetDetect.Proofs.Engine.Export

/-!
What becomes of an engine that imports its own export.

An export has the gates of detectors twice, as they are and as whole thresholds, and the whole
ones count. It has the allow-list twice as well when a detector keeps one, and what the detector
keeps counts. So a gate stays only when it is a whole number of hundredths, and the allow-list
only when it has no repetitions and no blank names (`import_of_export`).
-/

namespace SnippetDetect

open SnippetDetect.Engine (clampThreshold normalLanguages)

/-! ### Whole thresholds -/

theorem Engine.clampThreshold_int {n : Int} (low : 0 ≤ n) (high : n ≤ 100) :
    clampThreshold (.int n) = .int n := by
  have hundred : (Number.int 0).lt (.int 100) = true := Number.int_lt_int.mpr (by decide)
  rw [clampThreshold_eq]
  by_cases below : (Number.int n).lt (.int 100) = true
  · rw [if_pos below]
    by_cases above : (Number.int 0).lt (.int n) = true
    · rw [if_pos above]
    · rw [Number.int_lt_int] at above
      rw [if_neg (Number.int_lt_int.not.mpr above), show n = 0 by omega]
  · rw [Number.int_lt_int] at below
    rw [if_neg (Number.int_lt_int.not.mpr below), if_pos hundred, show n = 100 by omega]

/-- The threshold of a gate as a whole number. -/
def wholeThreshold (gate : Binary64) : Nat :=
  ((confidenceOf (.float (gate.mul (Binary64.ofNat 100)))).toOption).getD 0

theorem Detector.threshold_eq (d : Detector) : d.threshold = wholeThreshold d.gate := by
  rw [threshold, wholeThreshold, scoreGate]
  cases confidenceOf (.float (d.gate.mul (Binary64.ofNat 100))) <;> rfl

theorem wholeThreshold_le (gate : Binary64) : wholeThreshold gate ≤ 100 := by
  unfold wholeThreshold
  cases made : confidenceOf (.float (gate.mul (Binary64.ofNat 100))) with
  | error fault => exact Nat.zero_le _
  | ok n => exact confidenceOf_le made

theorem wholeThreshold_table : ∀ n ∈ List.range 101,
    (gateOfThreshold (.int (n : Int))).toOption.map wholeThreshold = some n := by
  decide +kernel

/-- The gate of a whole threshold has that threshold. -/
theorem wholeThreshold_of_gateOfThreshold {n : Nat} (high : n ≤ 100) {gate : Binary64}
    (made : gateOfThreshold (.int n) = .ok gate) : wholeThreshold gate = n := by
  have here := wholeThreshold_table n (List.mem_range.mpr (by omega))
  rw [made] at here
  exact Option.some.inj here

/-- A gate is that of its own whole threshold when it is that of any. -/
theorem gateOfThreshold_wholeThreshold_iff (gate : Binary64) :
    gateOfThreshold (.int (wholeThreshold gate)) = .ok gate ↔
      ∃ n : Nat, n ≤ 100 ∧ gateOfThreshold (.int n) = .ok gate := by
  constructor
  · intro made
    exact ⟨wholeThreshold gate, wholeThreshold_le gate, made⟩
  · rintro ⟨n, high, made⟩
    rw [wholeThreshold_of_gateOfThreshold high made, made]

/-! ### What is exported is accepted -/

theorem Detector.valueOf?_configuration {d : Detector} (bundled : d.IsBundled) {payload : Members}
    (told : d.configuration? = some payload) :
    valueOf? payload "min_confidence" = some (.num (.float d.gate)) ∧
      (valueOf? payload "enabled_languages").bind Json.stringList? = d.allowed? := by
  unfold configuration? at told
  cases strategy : d.strategy with
  | fingerprints f =>
    simp only [strategy, Option.some.injEq] at told
    subst told
    refine ⟨rfl, ?_⟩
    rw [allowed?, strategy]
    exact Json.stringList?_ofStrings f.allowed
  | lexers ls => simp [strategy] at told
  | classifier c =>
    simp only [strategy, Option.some.injEq] at told
    subst told
    refine ⟨rfl, ?_⟩
    rw [allowed?, strategy]
    rfl
  | custom c => exact absurd strategy (bundled c)

namespace Engine

section Import

variable {before e : Engine}

/-- Bundled detectors refuse no payload with a number that fits. -/
theorem applyPayload_fst (unfinished : Unfinished before e)
    (bundled : ∀ name d, before.registry.get? name = some d → d.IsBundled) (name : String)
    {payload : Members}
    (fits : ∀ value, (valueOf? payload "min_confidence").bind Json.number? = some value →
      ∃ gate, gateOf value = .ok gate) : (e.applyPayload name payload).1 = none := by
  rcases e.configurable_or_other name with ⟨d, found, configurable⟩ | other
  · obtain ⟨routed, there, unlisted, after⟩ :=
      applyPayload_of_configurable found configurable payload
    have accepted : (routed.configure (e.routeAllowed d payload).1).1 = .ok () := by
      apply Detector.configure_fst
      · exact (unfinished.route d payload).isBundled bundled there
      · exact unlisted
      · rw [valueOf?_routeAllowed, if_neg (by simp)]
        exact fits
    rw [after, accepted]
    rfl
  · rw [applyPayload_of_other other]

theorem applyPayloads_fst (unfinished : Unfinished before e)
    (bundled : ∀ name d, before.registry.get? name = some d → d.IsBundled)
    {payloads : List (String × Members)}
    (fits : ∀ entry ∈ payloads, ∀ value,
      (valueOf? entry.2 "min_confidence").bind Json.number? = some value →
        ∃ gate, gateOf value = .ok gate) : (e.applyPayloads payloads).1 = [] := by
  induction payloads generalizing e with
  | nil => rfl
  | cons entry rest ih =>
    have first := applyPayload_fst unfinished bundled entry.1 (fits entry List.mem_cons_self)
    have later := ih (unfinished.applyPayload entry.1 entry.2) fun other mem =>
      fits other (List.mem_cons_of_mem _ mem)
    rw [applyPayloads_cons, first, later]
    rfl

/-- What an engine exports it accepts. -/
theorem configure_configuration (consistent : e.Consistent)
    (bundled : ∀ name d, e.registry.get? name = some d → d.IsBundled) :
    ∃ e', e.configure e.configuration = (.ok (), e') := by
  have fits : ∀ entry ∈ e.exportedPayloads, ∀ value,
      (valueOf? entry.2 "min_confidence").bind Json.number? = some value →
        ∃ gate, gateOf value = .ok gate := by
    intro entry mem value same
    obtain ⟨d, there, told⟩ := List.mem_filterMap.mp mem
    obtain ⟨payload, known, rfl⟩ := Option.map_eq_some_iff.mp told
    have found := consistent.registry.mem_all_iff.mp there
    rw [(Detector.valueOf?_configuration (bundled d.name d found) known).1] at same
    cases same
    exact ⟨_, gateOf_float d.gate⟩
  have shape := ofJson_configuration e
  rcases configure_cases e e.configuration with
    ⟨_, other, _⟩ | ⟨c, _, _, accepted⟩ | ⟨c, same, refused, _⟩
  · rw [shape] at other
    cases other
  · exact ⟨_, accepted⟩
  · rw [shape] at same
    cases same
    exact absurd (applyPayloads_fst ((Unfinished.refl consistent.registry).begin _) bundled fits)
      refused

/-! ### What an import leaves -/

theorem lastOf_of_all_eq {α : Type} (before : α) {values : List α} {x : α}
    (all : ∀ value ∈ values, value = x) :
    lastOf before values = if values = [] then before else x := by
  cases last : values.getLast? with
  | none =>
    rw [List.getLast?_eq_none_iff] at last
    rw [if_pos last, last]
    rfl
  | some value =>
    have mem := List.mem_of_getLast? last
    rw [if_neg (List.ne_nil_of_mem mem), lastOf, last, Option.getD_some, all value mem]

/-- The allow-list after an import of one's own export. -/
def importedAllowed (e : Engine) : List String :=
  if e.registry.all.any Detector.isSelectable then Fingerprints.normalAllowed e.allowed
  else e.allowed

/-- A bundled detector with an allow-list keeps that of the engine in a form of its own. -/
theorem allowed?_of_handed {d : Detector} (bundled : d.IsBundled)
    (handed : d.setAllowed e.allowed = d) {languages : List String}
    (selectable : d.allowed? = some languages) :
    languages = Fingerprints.normalAllowed e.allowed := by
  unfold Detector.allowed? at selectable
  cases strategy : d.strategy with
  | fingerprints f =>
    simp only [strategy, Option.some.injEq] at selectable
    rw [← selectable, Detector.allowed_of_handed handed strategy]
  | custom c => exact absurd strategy (bundled c)
  | _ => simp [strategy] at selectable

/-- The allow-list that an exported payload has for the engine is the one of its detector. -/
theorem entryAllowed?_exported (consistent : e.Consistent)
    (bundled : ∀ name d, e.registry.get? name = some d → d.IsBundled) {d : Detector}
    (there : d ∈ e.registry.all) {payload : Members}
    (told : d.configuration? = some payload) :
    e.entryAllowed? (d.name, payload) = d.allowed? := by
  have found := consistent.registry.mem_all_iff.mp there
  have listed := (Detector.valueOf?_configuration (bundled d.name d found) told).2
  rw [entryAllowed?, found, Option.bind_some, routedList?, listed]
  cases known : d.allowed? with
  | none => simp
  | some languages => simp [Detector.isSelectable, known]

theorem mem_entryAllowed?_exported (consistent : e.Consistent)
    (bundled : ∀ name d, e.registry.get? name = some d → d.IsBundled) {languages : List String} :
    languages ∈ e.exportedPayloads.filterMap e.entryAllowed? ↔
      ∃ d ∈ e.registry.all, d.allowed? = some languages := by
  constructor
  · intro mem
    obtain ⟨entry, exported, known⟩ := List.mem_filterMap.mp mem
    obtain ⟨d, there, told⟩ := List.mem_filterMap.mp exported
    obtain ⟨payload, configured, rfl⟩ := Option.map_eq_some_iff.mp told
    rw [entryAllowed?_exported consistent bundled there configured] at known
    exact ⟨d, there, known⟩
  · rintro ⟨d, there, known⟩
    have found := consistent.registry.mem_all_iff.mp there
    obtain ⟨payload, told⟩ : ∃ payload, d.configuration? = some payload := by
      cases strategy : d.strategy with
      | custom c => exact absurd strategy (bundled d.name d found c)
      | fingerprints f => simp [Detector.configuration?, strategy]
      | _ => simp [Detector.allowed?, strategy] at known
    refine List.mem_filterMap.mpr ⟨(d.name, payload), ?_, ?_⟩
    · exact List.mem_filterMap.mpr ⟨d, there, by rw [told]; rfl⟩
    · rw [entryAllowed?_exported consistent bundled there told, known]

/-- The allow-lists of an export are that of the engine, and for every detector that has one the
same as that detector keeps it. -/
theorem lastOf_allowLists (consistent : e.Consistent)
    (bundled : ∀ name d, e.registry.get? name = some d → d.IsBundled) :
    lastOf e.allowed (([e.allowed] ++ e.exportedPayloads.filterMap e.entryAllowed?).map
      normalLanguages) = e.importedAllowed := by
  have kept : ∀ languages ∈ (e.exportedPayloads.filterMap e.entryAllowed?).map normalLanguages,
      languages = Fingerprints.normalAllowed e.allowed := by
    intro languages mem
    obtain ⟨list, listed, rfl⟩ := List.mem_map.mp mem
    obtain ⟨d, there, known⟩ := (mem_entryAllowed?_exported consistent bundled).mp listed
    have found := consistent.registry.mem_all_iff.mp there
    rw [allowed?_of_handed (bundled d.name d found) (consistent.handed d.name d found) known]
    exact Fingerprints.normalLanguages_normalAllowed e.allowed
  have some_iff : (e.exportedPayloads.filterMap e.entryAllowed?).map normalLanguages = [] ↔
      e.registry.all.any Detector.isSelectable = false := by
    rw [List.map_eq_nil_iff, List.eq_nil_iff_forall_not_mem, List.any_eq_false]
    constructor
    · intro none d there selectable
      obtain ⟨languages, known⟩ := Option.isSome_iff_exists.mp selectable
      exact none languages ((mem_entryAllowed?_exported consistent bundled).mpr ⟨d, there, known⟩)
    · intro none languages mem
      obtain ⟨d, there, known⟩ := (mem_entryAllowed?_exported consistent bundled).mp mem
      exact none d there (by rw [Detector.isSelectable, known]; rfl)
  rw [List.map_append, lastOf_append, lastOf_of_all_eq _ kept]
  simp only [some_iff, importedAllowed]
  cases e.registry.all.any Detector.isSelectable with
  | true => rfl
  | false => exact consistent.allowed

theorem thresholdGate?_whole {n : Nat} (high : n ≤ 100) :
    ∃ gate, gateOfThreshold (.int n) = .ok gate ∧ thresholdGate? (.int n) = some gate := by
  obtain ⟨gate, made⟩ := gateOfThreshold_clampThreshold (.int n)
  have whole : gateOfThreshold (.int n) = .ok gate := by
    rw [clampThreshold_int (by omega) (by omega)] at made
    exact made
  exact ⟨gate, whole, thresholdGate?_eq made⟩

/-- The gates of an export end with that of the whole threshold. -/
theorem lastOf_exportedThresholds (consistent : e.Consistent) {name : String} {d : Detector}
    (found : e.registry.get? name = some d) (earlier : Binary64) :
    lastOf earlier (e.exportedThresholds.filterMap (entryThreshold? d)) =
      (thresholdGate? (.int d.threshold)).getD earlier := by
  obtain ⟨gate, -, made⟩ := thresholdGate?_whole d.threshold_le
  have named : e.registry.get? d.name = some d := by
    rw [consistent.registry.name_of_get? found]
    exact found
  have same : ∀ value ∈ e.exportedThresholds.filterMap (entryThreshold? d), value = gate := by
    intro value mem
    obtain ⟨entry, exported, known⟩ := List.mem_filterMap.mp mem
    obtain ⟨other, there, rfl⟩ := List.mem_map.mp exported
    rw [entryThreshold?] at known
    split at known
    · next here =>
      have also := consistent.registry.mem_all_iff.mp there
      rw [show other.name = d.name from here, named] at also
      cases also
      rw [made] at known
      exact (Option.some.inj known).symm
    · cases known
  have there : gate ∈ e.exportedThresholds.filterMap (entryThreshold? d) := by
    refine List.mem_filterMap.mpr ⟨(d.name, .int d.threshold), ?_, ?_⟩
    · exact List.mem_map.mpr ⟨d, consistent.registry.mem_all_iff.mpr named, rfl⟩
    · rw [entryThreshold?, if_pos rfl, made]
  rw [lastOf_of_all_eq _ same, if_neg (List.ne_nil_of_mem there), made, Option.getD_some]

/-- An engine that imports its own export keeps the order and the threshold; the allow-list is the
one that detectors keep, and the gates are those of the whole thresholds. -/
theorem import_exported (consistent : e.Consistent)
    (bundled : ∀ name d, e.registry.get? name = some d → d.IsBundled) (counted : e.Counted)
    {depth : Nat} (deep : 4 ≤ depth) (step : Option Nat) :
    ∃ report e', e.importText depth (e.exportText step) = (.ok report, e') ∧
      e'.registry.order = e.registry.order ∧ e'.threshold = e.threshold ∧
      e'.allowed = e.importedAllowed ∧
      e'.registry.detectors =
        mapEntries (fun d => d.dress e.importedAllowed
          ((thresholdGate? (.int d.threshold)).getD d.gate)) e.registry.detectors := by
  obtain ⟨e', accepted⟩ := configure_configuration consistent bundled
  obtain ⟨members, shape, -⟩ := configuration_members e
  have written : BulkWrite e members e' := by
    rw [shape] at accepted
    exact bulkWrite_of_accepted consistent bundled accepted
  have parts := Changes.ofJson_eq (shape ▸ ofJson_configuration e)
  rw [Changes.mk.injEq] at parts
  obtain ⟨order, threshold, allowed, payloads, thresholds⟩ := parts
  have list : e'.allowed = e.importedAllowed := by
    rw [written.allowed, allowLists, ← allowed, ← payloads]
    exact lastOf_allowLists consistent bundled
  refine ⟨(e.apply e.configuration).1, e', ?_, ?_, ?_, list, ?_⟩
  · rw [importText, parse_exportText consistent bundled counted deep step]
    show (Except.ok (e.apply e.configuration).1, (e.apply e.configuration).2) = _
    rw [apply_snd, accepted]
  · rw [written.order, ← order, Option.elim_some, ← Registry.setOrder_order]
    exact Registry.setOrder_eq_self consistent.registry.ordered consistent.registry.known
  · rw [written.threshold, ← threshold]
    exact consistent.threshold
  · rw [written.detectors, list]
    refine mapEntries_congr fun entry mem => ?_
    have found := valueOf?_of_mem consistent.registry.distinct mem
    rw [gates, ← thresholds, lastOf_append, lastOf_exportedThresholds consistent found]
    obtain ⟨gate, -, made⟩ := thresholdGate?_whole entry.2.threshold_le
    rw [made]
    rfl

/-- The allow-list stays in an import when no detector keeps it in a form of its own, or when the
two forms are the same. -/
theorem importedAllowed_eq_iff (consistent : e.Consistent) :
    e.importedAllowed = e.allowed ↔
      ((∃ d ∈ e.registry.all, d.isSelectable = true) → e.allowed.Nodup ∧ "" ∉ e.allowed) := by
  rw [← List.any_eq_true, importedAllowed]
  cases e.registry.all.any Detector.isSelectable with
  | true => simpa using Fingerprints.normalAllowed_eq_self_iff consistent.allowed
  | false => simp

/-- After an import of its own export an engine has every detector with the gate of its whole
threshold. -/
theorem import_exported_get? (consistent : e.Consistent)
    (bundled : ∀ name d, e.registry.get? name = some d → d.IsBundled) (counted : e.Counted)
    {depth : Nat} (deep : 4 ≤ depth) (step : Option Nat) {name : String} {d : Detector}
    (found : e.registry.get? name = some d) :
    ∃ gate, gateOfThreshold (.int d.threshold) = .ok gate ∧
      (e.importText depth (e.exportText step)).2.registry.get? name =
        some (d.dress e.importedAllowed gate) := by
  obtain ⟨report, e', imported, -, -, -, detectors⟩ :=
    import_exported consistent bundled counted deep step
  obtain ⟨gate, whole, made⟩ := thresholdGate?_whole d.threshold_le
  rw [Registry.get?] at found
  refine ⟨gate, whole, ?_⟩
  rw [imported, Registry.get?, detectors, valueOf?_mapEntries, found, Option.map_some, made,
    Option.getD_some]

end Import

/-- What becomes of an engine with bundled detectors that imports its own export, on one line or
laid out, where containers may nest as deep as an export does. The import is reported, the order and the threshold stay, and every detector gets the gate
of its whole threshold. So a gate stays only when it is that of some whole threshold, and the
allow-list, where a detector keeps it as well, only without repetitions and blank names. -/
theorem import_of_export {e : Engine} (reached : Reachable Action.Bundled e)
    (counted : e.Counted) {depth : Nat} (deep : 4 ≤ depth) (step : Option Nat) :
    ∃ report e', e.importText depth (e.exportText step) = (.ok report, e') ∧
      e'.registry.order = e.registry.order ∧ e'.threshold = e.threshold ∧
      (e'.allowed = e.allowed ↔
        ((∃ d ∈ e.registry.all, d.isSelectable = true) → e.allowed.Nodup ∧ "" ∉ e.allowed)) ∧
      e'.registry.names = e.registry.names ∧
      ∀ name d, e.registry.get? name = some d →
        ∃ d', e'.registry.get? name = some d' ∧
          gateOfThreshold (.int d.threshold) = .ok d'.gate ∧
          (d'.gate = d.gate ↔ ∃ n : Nat, n ≤ 100 ∧ gateOfThreshold (.int n) = .ok d.gate) := by
  have consistent := reached.consistent_of_bundled
  have bundled := reached.isBundled
  obtain ⟨report, e', imported, order, threshold, allowed, detectors⟩ :=
    import_exported consistent bundled counted deep step
  refine ⟨report, e', imported, order, threshold, ?_, ?_, ?_⟩
  · rw [allowed]
    exact importedAllowed_eq_iff consistent
  · exact (congrArg entryNames detectors).trans (entryNames_mapEntries _ _)
  · intro name d found
    obtain ⟨gate, whole, there⟩ := import_exported_get? consistent bundled counted deep step found
    rw [imported] at there
    refine ⟨_, there, whole, ?_⟩
    rw [← gateOfThreshold_wholeThreshold_iff, ← Detector.threshold_eq, whole, Detector.dress_gate,
      Except.ok.injEq]

/-- An engine with one detector, an allow-list and a gate between two whole thresholds. -/
def unrounded : Engine :=
  plain.run [.unregister "pygments", .unregister "ml-model", .changeAllowed ["Go"],
    .changeDetectorThreshold "pattern-matching" (.float (Binary64.ofRatio false 25 2))]

theorem reachable_unrounded : Reachable Action.Bundled unrounded := by
  refine reachable_plain.run fun action mem => ?_
  simp only [List.mem_cons, List.not_mem_nil, or_false] at mem
  rcases mem with rfl | rfl | rfl | rfl <;> trivial

theorem counted_unrounded : unrounded.Counted where
  detectors := Json.countable_of_le_hundred (by decide +kernel)
  allowed := Json.countable_of_le_hundred (by decide +kernel)
  languages := by
    apply Json.countable_of_le_hundred
    rw [languages, Registry.languages, sortedSet, List.length_mergeSort]
    decide +kernel

theorem import_of_export_unrounded :
    ∃ report e', unrounded.importText 4 (unrounded.exportText (some 2)) = (.ok report, e') ∧
      e'.registry.order = ["pattern-matching"] ∧ e'.allowed = unrounded.allowed := by
  obtain ⟨report, e', imported, order, -, allowed, -⟩ :=
    import_of_export reachable_unrounded counted_unrounded (Nat.le_refl 4) (some 2)
  refine ⟨report, e', imported, order.trans (by decide +kernel), allowed.mpr fun _ => ?_⟩
  decide +kernel

theorem gate_unrounded : (unrounded.registry.get? "pattern-matching").any (fun d =>
    gateOfThreshold (.int d.threshold) != .ok d.gate) = true := by
  decide +kernel

/-- An import of one's own export need not keep the gates. -/
theorem not_export_keeps_gates :
    ¬ ∀ e, Reachable Action.Bundled e → ∀ depth step name d, e.registry.get? name = some d →
      ∃ d', (e.importText depth (e.exportText step)).2.registry.get? name = some d' ∧
        d'.gate = d.gate := by
  intro keeps
  obtain ⟨d, found, differ⟩ := (Option.any_eq_true _ _).mp gate_unrounded
  obtain ⟨d', later, same⟩ :=
    keeps unrounded reachable_unrounded 4 none "pattern-matching" d found
  obtain ⟨gate, whole, there⟩ := import_exported_get? reachable_unrounded.consistent_of_bundled
    reachable_unrounded.isBundled counted_unrounded (Nat.le_refl 4) none found
  rw [there] at later
  cases later
  rw [whole] at differ
  simp [show gate = d.gate from same] at differ

end Engine

end SnippetDetect
