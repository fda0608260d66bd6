import SnippetDetect.Proofs.Engine.Reachable

/-!
The allow-list and its copies.

The engine owns the allow-list. A detector that compares fingerprints keeps a copy, in which blank
names and repetitions are left out (`Fingerprints.normalAllowed_eq`). Whatever a session does to the
engine and its detectors, the copies are those of the list that the engine has
(`allow_list_of_reachable`).
-/

namespace SnippetDetect

open SnippetDetect.Engine (normalLanguages)

/-! ### Allow-lists as detectors keep them -/

namespace Fingerprints

theorem normalAllowed_eq (languages : List String) :
    normalAllowed languages =
      ((normalLanguages languages).filter fun language => !language.isEmpty).eraseDups := by
  have kept := Registry.foldl_firstOccurrences (fun language => !language.isEmpty)
    (normalLanguages languages) []
  have all (names : List String) : (names.filter fun _ => true) = names :=
    List.filter_eq_self.mpr fun _ _ => rfl
  simp only [List.nil_append, List.contains_nil, Bool.not_false, all] at kept
  rw [← kept, normalAllowed, normalLanguages, List.foldl_map]
  have step (order : List String) (name : String) :
      (if name.isEmpty || order.contains name then order else order ++ [name]) =
        if !name.isEmpty && !order.contains name then order ++ [name] else order := by
    cases name.isEmpty <;> cases order.contains name <;> rfl
  simp only [step]

theorem mem_normalAllowed {languages : List String} {language : String}
    (mem : language ∈ normalAllowed languages) : language ∈ normalLanguages languages := by
  rw [normalAllowed_eq, List.mem_eraseDups] at mem
  exact (List.mem_filter.mp mem).1

/-- What a detector keeps of an allow-list is kept by the engine as it is. -/
theorem normalLanguages_normalAllowed (languages : List String) :
    normalLanguages (normalAllowed languages) = normalAllowed languages := by
  refine (List.map_congr_left fun language mem => ?_).trans (List.map_id _)
  obtain ⟨other, -, rfl⟩ := List.mem_map.mp (mem_normalAllowed mem)
  exact Text.normalName_idempotent other

/-- A list that the engine keeps is kept by a detector as well when it has neither repetitions nor
blank names. -/
theorem normalAllowed_eq_self_iff {languages : List String}
    (kept : normalLanguages languages = languages) :
    normalAllowed languages = languages ↔ languages.Nodup ∧ "" ∉ languages := by
  rw [normalAllowed_eq, kept]
  constructor
  · intro same
    constructor
    · rw [← same]
      exact nodup_eraseDups _
    · intro blank
      rw [← same, List.mem_eraseDups, List.mem_filter] at blank
      cases blank.2
  · rintro ⟨distinct, named⟩
    have all : languages.filter (fun language => !language.isEmpty) = languages := by
      rw [List.filter_eq_self]
      intro language mem
      have some : language ≠ "" := fun same => named (same ▸ mem)
      simpa using some
    rw [all, eraseDups_of_nodup distinct]

end Fingerprints

/-- A text without blank ends is blank when it is empty. -/
theorem Text.isBlankText_of_strip {s : String} (stripped : strip s = s) :
    isBlankText s = s.isEmpty := by
  rw [Bool.eq_iff_iff, String.isEmpty_iff, isBlankText, ← trim_eq_nil_iff]
  nth_rewrite 2 [← stripped]
  exact String.ofList_eq_empty_iff.symm

/-- A name that is kept has no blank ends. -/
theorem Text.strip_normalName (name : String) : strip (normalName name) = normalName name := by
  simp [normalName, strip, stripBlanks]

/-- The copy of a list that the engine keeps: blank names and repetitions are left out. -/
theorem Fingerprints.normalAllowed_of_kept {languages : List String}
    (kept : normalLanguages languages = languages) :
    normalAllowed languages =
      (languages.filter fun language => !Text.isBlankText language).eraseDups := by
  have blank : ∀ language ∈ languages, Text.isBlankText language = language.isEmpty := by
    intro language mem
    rw [← kept] at mem
    obtain ⟨other, -, rfl⟩ := List.mem_map.mp mem
    exact Text.isBlankText_of_strip (Text.strip_normalName other)
  rw [normalAllowed_eq, kept]
  congr 1
  apply List.filter_congr
  intro language mem
  rw [blank language mem]

/-- A detector that has the allow-list it is handed keeps it in its own form. -/
theorem Detector.allowed_of_handed {d : Detector} {languages : List String}
    (handed : d.setAllowed languages = d) {f : Fingerprints}
    (strategy : d.strategy = .fingerprints f) :
    f.allowed = Fingerprints.normalAllowed languages := by
  have same := congrArg Detector.strategy handed
  simp only [setAllowed, strategy, Strategy.fingerprints.injEq] at same
  exact (congrArg Fingerprints.allowed same).symm

namespace Engine

/-- Whatever was done to an engine, the allow-list of every registered detector that compares
fingerprints is that of the engine, with the blank names left out and every other name kept at its
first occurrence. -/
theorem allow_list_of_reachable {e : Engine} (reached : Reachable Action.WellFormed e)
    {d : Detector} (registered : d ∈ e.registry.all) {f : Fingerprints}
    (strategy : d.strategy = .fingerprints f) :
    f.allowed = (e.allowed.filter fun language => !Text.isBlankText language).eraseDups := by
  have consistent := reached.consistent
  have found := consistent.registry.mem_all_iff.mp registered
  have handed := consistent.handed d.name d found
  rw [Detector.allowed_of_handed handed strategy]
  exact Fingerprints.normalAllowed_of_kept consistent.allowed

/-- A detector that compares fingerprints, made with an allow-list of its own. -/
def narrow : Detector where
  name := "pattern-matching"
  displayName := ""
  description := ""
  gate := Binary64.one
  strategy := .fingerprints ⟨[], ["perl"]⟩

/-- An engine whose allow-list came with a payload, before the detector was replaced and another
configuration was refused. -/
def handedOn : Engine :=
  plain.run [
    .configureDetector "pattern-matching"
      (.obj [("enabled_languages", .arr [.str "Go", .str " ", .str "C ", .str "go"])]),
    .register narrow,
    .apply (.obj [("enabled_pattern_languages", .arr [.str "java"]),
      ("detector_configs", .obj [("ml-model", .obj [("min_confidence", .num (.int (10 ^ 400)))])])])]

theorem reachable_handedOn : Reachable Action.WellFormed handedOn := by
  have plain := reachable_plain.mono fun _ => Action.Bundled.wellFormed
  refine plain.run fun action mem => ?_
  simp only [List.mem_cons, List.not_mem_nil, or_false] at mem
  rcases mem with rfl | rfl | rfl
  · trivial
  · exact ⟨isGate_one, nofun⟩
  · trivial

theorem allow_list_of_reachable_handedOn :
    ∃ d f, d ∈ handedOn.registry.all ∧ d.strategy = .fingerprints f ∧
      handedOn.allowed = ["go", "", "c", "go"] ∧ f.allowed = ["go", "c"] := by
  have made : (handedOn.registry.all.any fun d =>
      match d.strategy with
      | .fingerprints _ => true
      | _ => false) = true := by
    decide +kernel
  obtain ⟨d, registered, compares⟩ := List.any_eq_true.mp made
  cases strategy : d.strategy with
  | fingerprints f =>
    have copy := allow_list_of_reachable reachable_handedOn registered strategy
    refine ⟨d, f, registered, strategy, by decide +kernel, copy.trans ?_⟩
    decide +kernel
  | _ => simp [strategy] at compares

end Engine

end SnippetDetect
