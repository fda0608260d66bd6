import SnippetDetect.Proofs.Engine.AllowList

/-!
What is warned of when the allow-list is not in force.

A detector whose own allow-list is empty accepts every language (`accepts_of_isUnrestricted`). The
engine warns of the enabled ones when its own list is empty, and then all that could have a list are
without one. A list of nothing but blank names is not empty, but the copies that compare
fingerprints keep none of them: these detectors are the only ones that accept every language
unannounced (`warnings_of_reachable`).
-/

namespace SnippetDetect

open SnippetDetect.Text

namespace Detector

variable {d : Detector}

/-- The detector could have an allow-list, and has an empty one. -/
def IsUnrestricted (d : Detector) : Prop := d.allowed? = some []

instance (d : Detector) : Decidable d.IsUnrestricted :=
  inferInstanceAs (Decidable (d.allowed? = some []))

/-- The warning of a detector that uses all languages it has loaded. -/
def unrestrictedWarning (d : Detector) : String :=
  d.info.displayName ++ " is enabled but no languages are configured; all loaded languages " ++
    "will be used"

/-- The detector compares a snippet with the fingerprints of languages. -/
def ComparesFingerprints (d : Detector) : Prop := ∃ f, d.strategy = .fingerprints f

theorem accepts_of_isUnrestricted (unrestricted : d.IsUnrestricted) (language : String) :
    d.accepts language = true := by
  unfold IsUnrestricted allowed? at unrestricted
  unfold accepts
  cases strategy : d.strategy with
  | fingerprints f =>
    simp only [strategy, Option.some.injEq] at unrestricted
    simp [Fingerprints.allows, unrestricted]
  | custom c =>
    cases capability : c.capability with
    | selectable payloads allowed =>
      simp only [strategy, capability, Option.some.injEq] at unrestricted
      simp [Custom.allows, Custom.allowed, capability, unrestricted]
    | _ => simp [strategy, capability] at unrestricted
  | _ => rfl

/-- What a detector has been handed leaves it unrestricted when there is nothing on the list, or
nothing but blank names and the detector compares fingerprints. -/
theorem isUnrestricted_iff_of_handed {languages : List String}
    (handed : d.setAllowed languages = d) (kept : Engine.normalLanguages languages = languages) :
    d.IsUnrestricted ↔
      if languages = [] then d.isSelectable = true
      else d.ComparesFingerprints ∧ ∀ language ∈ languages, isBlankText language = true := by
  unfold IsUnrestricted isSelectable ComparesFingerprints
  cases strategy : d.strategy with
  | fingerprints f =>
    have copy : f.allowed = (languages.filter fun language => !isBlankText language).eraseDups :=
      (allowed_of_handed handed strategy).trans (Fingerprints.normalAllowed_of_kept kept)
    have none : f.allowed = [] ↔ ∀ language ∈ languages, isBlankText language = true := by
      rw [copy, List.eq_nil_iff_forall_not_mem]
      simp only [List.mem_eraseDups, List.mem_filter, not_and, Bool.not_eq_true', Bool.not_eq_false]
    simp only [allowed?, strategy, Option.some.injEq, none, Option.isSome_some]
    split
    · next empty => simp [empty]
    · simp
  | custom c =>
    cases capability : c.capability with
    | selectable payloads allowed =>
      have same := congrArg Detector.strategy handed
      simp only [setAllowed, strategy, Custom.setAllowed, capability, Strategy.custom.injEq] at same
      have copy := congrArg Custom.allowed same
      simp only [Custom.allowed, capability] at copy
      subst copy
      simp only [allowed?, strategy, capability, Option.some.injEq, List.map_eq_nil_iff]
      split
      · next empty => simp [empty]
      · next some => simp [some]
    | _ => simp [allowed?, strategy, capability]
  | _ => simp [allowed?, strategy]

end Detector

namespace Engine

/-- The enabled detectors whose own allow-list is empty, in the order of detection. -/
def unrestricted (e : Engine) : List Detector :=
  e.registry.inOrder.filter fun d => d.IsUnrestricted

theorem Consistent.isUnrestricted_iff {e : Engine} (consistent : e.Consistent) {d : Detector}
    (enabled : d ∈ e.registry.inOrder) :
    d.IsUnrestricted ↔
      if e.allowed = [] then d.isSelectable = true
      else d.ComparesFingerprints ∧ ∀ language ∈ e.allowed, isBlankText language = true := by
  obtain ⟨name, -, found⟩ := List.mem_filterMap.mp enabled
  exact Detector.isUnrestricted_iff_of_handed (consistent.handed name d found) consistent.allowed

/-- Where the list of the engine is empty, the unrestricted detectors are all that could have one.
-/
theorem Consistent.unrestricted_eq {e : Engine} (consistent : e.Consistent)
    (empty : e.allowed = []) :
    e.unrestricted = e.registry.inOrder.filter (·.isSelectable) := by
  apply List.filter_congr
  intro d enabled
  have iff := consistent.isUnrestricted_iff enabled
  rw [if_pos empty] at iff
  rw [Bool.eq_iff_iff, decide_eq_true_iff]
  exact iff

/-- An unrestricted detector accepts every language. Whatever was done to an engine, its judgement
warns of the unrestricted detectors, each of them in the order of detection, if its own allow-list
is empty, and of none if it is not. In the second case the unrestricted ones are those that
compare fingerprints, when nothing but blank names is on the list, and none otherwise. -/
theorem warnings_of_reachable {e : Engine} (reached : Reachable Action.WellFormed e) :
    (∀ d ∈ e.unrestricted, ∀ language, d.accepts language = true) ∧
    e.validate.warnings = e.thresholdWarnings ++
      (if e.allowed = [] then e.unrestricted.map Detector.unrestrictedWarning else []) ++
      e.coverageWarnings ∧
    (e.allowed ≠ [] → ∀ d, d ∈ e.unrestricted ↔ d ∈ e.registry.inOrder ∧
      d.ComparesFingerprints ∧ ∀ language ∈ e.allowed, isBlankText language = true) := by
  have consistent := reached.consistent
  refine ⟨?_, ?_, ?_⟩
  · intro d mem
    exact Detector.accepts_of_isUnrestricted (of_decide_eq_true (List.mem_filter.mp mem).2)
  · have told : e.allowedWarnings =
        if e.allowed = [] then e.unrestricted.map Detector.unrestrictedWarning else [] := by
      unfold allowedWarnings
      by_cases empty : e.allowed = []
      · rw [if_pos (List.isEmpty_iff.mpr empty), if_pos empty, consistent.unrestricted_eq empty]
        rfl
      · rw [if_neg (List.isEmpty_iff.not.mpr empty), if_neg empty]
    rw [← told]
    rfl
  · intro some d
    rw [unrestricted, List.mem_filter, decide_eq_true_iff]
    apply and_congr_right
    intro enabled
    rw [consistent.isUnrestricted_iff enabled, if_neg some]

/-- An engine with two blank names on its allow-list. -/
def blanked : Engine := plain.run [.changeAllowed ["  ", "\t"]]

theorem reachable_blanked : Reachable Action.WellFormed blanked := by
  have plain := reachable_plain.mono fun _ => Action.Bundled.wellFormed
  refine plain.run fun action mem => ?_
  rw [List.mem_singleton.mp mem]
  trivial

theorem warnings_of_reachable_blanked :
    blanked.allowed = ["", ""] ∧ blanked.validate.warnings = blanked.coverageWarnings ∧
      ∃ d ∈ blanked.unrestricted, d.accepts "perl" = true := by
  obtain ⟨accepts, warnings, unannounced⟩ := warnings_of_reachable reachable_blanked
  have allowed : blanked.allowed = ["", ""] := by decide
  have some : blanked.allowed ≠ [] := by
    rw [allowed]
    simp
  have usual : blanked.thresholdWarnings = [] := by decide +kernel
  have made : (blanked.registry.inOrder.any fun d =>
      match d.strategy with
      | .fingerprints _ => true
      | _ => false) = true := by
    decide +kernel
  obtain ⟨d, enabled, compares⟩ := List.any_eq_true.mp made
  have mem : d ∈ blanked.unrestricted := by
    refine (unannounced some d).mpr ⟨enabled, ?_, ?_⟩
    · cases strategy : d.strategy with
      | fingerprints f => exact ⟨f, strategy⟩
      | _ => simp [strategy] at compares
    · rw [allowed]
      decide
  refine ⟨allowed, ?_, d, mem, accepts d mem "perl"⟩
  rw [warnings, if_neg some, usual]
  rfl

/-- A judgement does not warn of every enabled detector whose allow-list is empty. -/
theorem not_warns_of_unrestricted :
    ¬ ∀ e : Engine, Reachable Action.WellFormed e →
      e.validate.warnings = e.thresholdWarnings ++
        e.unrestricted.map Detector.unrestrictedWarning ++ e.coverageWarnings := by
  intro warns
  have told := congrArg List.length (warns blanked reachable_blanked)
  have silent : blanked.allowedWarnings.length = 0 := by decide
  have unannounced : blanked.unrestricted.length = 1 := by decide +kernel
  simp only [validate, List.length_append, List.length_map, silent, unannounced] at told
  omega

end Engine

end SnippetDetect
