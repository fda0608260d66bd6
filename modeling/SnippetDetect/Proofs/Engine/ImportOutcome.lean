import SnippetDetect.Proofs.Engine.BulkWrite
import SnippetDetect.Proofs.Json.Limits

/-!
What becomes of an imported text.

With bundled detectors a refused write leaves the engine exactly as it was, memory included
(`configure_refused_eq`): all that a write and its undoing do to a bundled detector is to dress it
in an allow-list and a gate (`Redressed`). So an import ends in a report, after a complete accepted
write or after no change at all, unless the text exceeds a limit of the JSON reader, which is a
failure (`import_outcome`).
-/

namespace SnippetDetect

open SnippetDetect.Number (maxDigits)

/-! ### Detectors in other settings -/

namespace Detector

/-- Whatever a payload says, a bundled detector keeps all but its allow-list and its gate. -/
theorem configure_dress {d : Detector} (bundled : d.IsBundled) (allowed : List String)
    (gate : Binary64) (payload : Members) :
    ∃ allowed' gate', ((d.dress allowed gate).configure payload).2 = d.dress allowed' gate' := by
  obtain ⟨name, displayName, description, old, strategy⟩ := d
  cases strategy with
  | fingerprints f =>
    simp only [dress, setAllowed, configure]
    split
    · exact ⟨allowed, gate, rfl⟩
    · exact ⟨allowed, _, configureGate_snd _ payload⟩
    · next languages _ => exact ⟨languages, _, configureGate_snd _ payload⟩
  | lexers ls => exact ⟨allowed, gate, rfl⟩
  | classifier c => exact ⟨allowed, _, configureGate_snd _ payload⟩
  | custom c => exact absurd rfl (bundled c)

/-- To dress a bundled detector does not touch its memory. -/
theorem dress_eq_self_of_memoryless {d : Detector} (bundled : d.IsBundled) {allowed : List String}
    {gate : Binary64} (same : (d.dress allowed gate).memoryless = d.memoryless) :
    d.dress allowed gate = d := by
  obtain ⟨name, displayName, description, old, strategy⟩ := d
  cases strategy with
  | fingerprints f => exact same
  | lexers ls => exact same
  | classifier c =>
    have gates : gate = old := congrArg Detector.gate same
    rw [gates]
    rfl
  | custom c => exact absurd rfl (bundled c)

end Detector

namespace Engine

/-- An engine whose detectors are those from before, each with some allow-list and some gate. -/
def Redressed (before e : Engine) : Prop :=
  ∀ name, ∃ allowed gate,
    e.registry.get? name = (before.registry.get? name).map fun d => d.dress allowed gate

namespace Redressed

variable {before e : Engine}

theorem of_dressed {gate : Detector → Binary64} (dressed : Dressed before gate e) :
    Redressed before e := by
  intro name
  rw [dressed.get?]
  cases before.registry.get? name with
  | none => exact ⟨[], Binary64.zero, rfl⟩
  | some d => exact ⟨e.allowed, gate d, rfl⟩

theorem setAllowed (redressed : Redressed before e) (languages : List String) :
    Redressed before (e.setAllowed languages) := by
  intro name
  obtain ⟨allowed, gate, there⟩ := redressed name
  refine ⟨normalLanguages languages, gate, ?_⟩
  rw [get?_setAllowed, there, Option.map_map]
  congr 1
  funext d
  exact Detector.setAllowed_dress d allowed gate _

theorem setOrder (redressed : Redressed before e) (names : List String) :
    Redressed before { e with registry := e.registry.setOrder names } := redressed

theorem setThreshold (redressed : Redressed before e) (value : Number) :
    Redressed before (e.setThreshold value) := redressed

/-- A detector may be dressed anew. -/
theorem put (redressed : Redressed before e) (wellFormed : before.registry.WellFormed)
    {name : String} {d : Detector} (found : before.registry.get? name = some d)
    (allowed : List String) (gate : Binary64) :
    Redressed before { e with registry := e.registry.put (d.dress allowed gate) } := by
  intro other
  have here : (d.dress allowed gate).name = name :=
    (Detector.dress_name d allowed gate).trans (wellFormed.name_of_get? found)
  rw [Registry.get?_put, here]
  split
  · next same => exact ⟨allowed, gate, by rw [same, found, Option.map_some]⟩
  · exact redressed other

/-- What is found is a detector from before in other settings. -/
theorem of_get? (redressed : Redressed before e) {name : String} {d : Detector}
    (found : e.registry.get? name = some d) :
    ∃ b allowed gate, before.registry.get? name = some b ∧ d = b.dress allowed gate := by
  obtain ⟨allowed, gate, there⟩ := redressed name
  obtain ⟨b, old, rfl⟩ := Option.map_eq_some_iff.mp (there.symm.trans found)
  exact ⟨b, allowed, gate, old, rfl⟩

theorem restorePayload (redressed : Redressed before e) (wellFormed : before.registry.WellFormed)
    (bundled : ∀ name d, before.registry.get? name = some d → d.IsBundled) (name : String)
    (payload : Members) : Redressed before (e.restorePayload name payload) := by
  unfold Engine.restorePayload
  split
  · exact redressed
  · next d found =>
    obtain ⟨b, allowed, gate, old, rfl⟩ := redressed.of_get? found
    obtain ⟨allowed', gate', configured⟩ :=
      Detector.configure_dress (bundled name b old) allowed gate payload
    rw [configured]
    exact redressed.put wellFormed old allowed' gate'

theorem restoreGate (redressed : Redressed before e) (wellFormed : before.registry.WellFormed)
    (name : String) (gate : Binary64) : Redressed before (e.restoreGate name gate) := by
  unfold Engine.restoreGate
  split
  · exact redressed
  · next d found =>
    obtain ⟨b, allowed, old, there, rfl⟩ := redressed.of_get? found
    split
    · next made =>
      unfold Detector.setGate at made
      cases taken : gateOf (.float gate) with
      | error fault =>
        rw [taken] at made
        cases made
      | ok gate' =>
        rw [taken] at made
        cases made
        exact redressed.put wellFormed there allowed gate'
    · exact redressed

/-- To put an engine back dresses its detectors only. -/
theorem restore (redressed : Redressed before e) (wellFormed : before.registry.WellFormed)
    (bundled : ∀ name d, before.registry.get? name = some d → d.IsBundled) :
    Redressed before (e.restore before) := by
  unfold Engine.restore
  dsimp only
  apply List.foldlRecOn
  · apply setAllowed
    apply setThreshold
    apply setOrder
    apply List.foldlRecOn
    · exact redressed
    · intro e start d _
      split
      · exact start.restorePayload wellFormed bundled _ _
      · exact start
  · intro e start d _
    exact start.restoreGate wellFormed d.name d.gate

/-- Detectors in the settings from before are those from before. -/
theorem eq_of_sameDetectors (redressed : Redressed before e)
    (bundled : ∀ name d, before.registry.get? name = some d → d.IsBundled)
    (same : before.SameDetectors e) (cache : e.cache = before.cache) : e = before := by
  have forgot (name : String) : (e.registry.get? name).map Detector.memoryless =
      (before.registry.get? name).map Detector.memoryless := by
    rw [← Registry.get?_memoryless, ← Registry.get?_memoryless, same.memoryless]
  have found (name : String) : e.registry.get? name = before.registry.get? name := by
    obtain ⟨allowed, gate, there⟩ := redressed name
    have memory := forgot name
    rw [there] at memory ⊢
    cases old : before.registry.get? name with
    | none => rfl
    | some d =>
      rw [old] at memory
      rw [Option.map_some, Detector.dress_eq_self_of_memoryless (bundled name d old)
        (Option.some.inj memory)]
  have names : e.registry.names = before.registry.names := by
    rw [← Registry.names_memoryless, same.memoryless, Registry.names_memoryless]
  have detectors : e.registry.detectors = before.registry.detectors :=
    entries_ext names same.registry.distinct found
  have order : e.registry.memoryless.order = before.registry.memoryless.order := by
    rw [same.memoryless]
  replace order : e.registry.order = before.registry.order := order
  have registry : e.registry = before.registry := by
    have parts : e.registry = ⟨e.registry.detectors, e.registry.order⟩ := rfl
    rw [parts, detectors, order]
  have whole : e = ⟨e.registry, e.threshold, e.allowed, e.cache, e.clock⟩ := rfl
  rw [whole, registry, same.threshold, same.allowed, cache, same.clock]

end Redressed

/-- With bundled detectors a refused configuration leaves an engine exactly as it was. -/
theorem configure_refused_eq {e changed : Engine} (consistent : e.Consistent)
    (bundled : ∀ name d, e.registry.get? name = some d → d.IsBundled) {config : Json}
    {faults : List ChangeFault} (refused : e.configure config = (.error faults, changed)) :
    changed = e := by
  obtain ⟨same, cache⟩ := configure_refused consistent refused
  rcases configure_cases e config with ⟨_, _, shape⟩ | ⟨c, _, _, accepted⟩ | ⟨c, _, _, undone⟩
  · rw [shape] at refused
    cases refused
    rfl
  · rw [accepted] at refused
    cases refused
  · rw [undone] at refused
    cases refused
    obtain ⟨begun, -, -, -⟩ := Dressed.begin consistent c
    have applied := (begun.applyPayloads consistent.registry bundled c.payloads).1
    have redressed := (Redressed.of_dressed applied).restore consistent.registry bundled
    exact redressed.eq_of_sameDetectors bundled same cache

/-! ### Reports -/

/-- A configuration of the wrong shape is refused for a reason. -/
theorem ofJson_faults {config : Json} {faults : List ChangeFault}
    (refused : Changes.ofJson config = .error faults) : faults ≠ [] := by
  unfold Changes.ofJson at refused
  split at refused
  · dsimp only at refused
    split at refused
    · cases refused
    · next told =>
      cases refused
      exact told
  · cases refused
    simp

theorem configure_faults {e changed : Engine} {config : Json} {faults : List ChangeFault}
    (refused : e.configure config = (.error faults, changed)) : faults ≠ [] := by
  rcases configure_cases e config with
    ⟨_, shape, told⟩ | ⟨c, _, _, accepted⟩ | ⟨c, _, told, undone⟩
  · rw [told] at refused
    cases refused
    exact ofJson_faults shape
  · rw [accepted] at refused
    cases refused
  · rw [undone] at refused
    cases refused
    exact told

/-- A report has errors or tells of success, whether the configuration is refused or judged. -/
theorem apply_errors (e : Engine) (config : Json) :
    (e.apply config).1.errors = [] ↔ (e.apply config).1.success = true := by
  unfold apply
  rcases written : e.configure config with ⟨answer, changed⟩
  cases answer with
  | error faults =>
    have some : faults.map ChangeFault.message ≠ [] := by
      simpa using configure_faults written
    exact ⟨fun none => absurd none some, nofun⟩
  | ok _ => exact List.isEmpty_iff.symm

theorem parseFailure_errors (reason : String) :
    (parseFailure reason).errors = [] ↔ (parseFailure reason).success = true := by
  constructor
  · intro none
    cases none
  · intro success
    cases success

/-- All that a text can lead to: it is read and what it says is applied, it is malformed and told to
be, or it exceeds a limit and is a failure. -/
theorem importText_cases (e : Engine) (depth : Nat) (text : String) :
    (∃ config, Json.parse depth text = .ok config ∧
      e.importText depth text = (.ok (e.apply config).1, (e.configure config).2)) ∨
    (∃ problem place, Json.parse depth text = .error (.malformed problem place) ∧
      e.importText depth text =
        (.ok (parseFailure (Json.Fault.malformed problem place).message), e)) ∨
    ∃ fault, Json.parse depth text = .error fault ∧
      (fault = .tooDeep ∨ ∃ count, fault = .tooManyDigits count) ∧
      e.importText depth text = (.error (.json fault), e) := by
  unfold importText
  cases Json.parse depth text with
  | ok config =>
    left
    refine ⟨config, rfl, ?_⟩
    rw [← apply_snd]
  | error fault =>
    right
    cases fault with
    | malformed problem place => exact .inl ⟨problem, place, rfl, rfl⟩
    | tooManyDigits count => exact .inr ⟨.tooManyDigits count, rfl, .inr ⟨count, rfl⟩, rfl⟩
    | tooDeep => exact .inr ⟨.tooDeep, rfl, .inl rfl, rfl⟩

/-- A configuration changes nothing, or it is one of members and completely written. -/
theorem configure_kept_or_written {e : Engine} (consistent : e.Consistent)
    (bundled : ∀ name d, e.registry.get? name = some d → d.IsBundled) (config : Json) :
    (e.configure config).2 = e ∨
      ∃ members, config = .obj members ∧
        e.configure (.obj members) = (.ok (), (e.configure config).2) ∧
        BulkWrite e members (e.configure config).2 := by
  rcases written : e.configure config with ⟨answer, later⟩
  cases answer with
  | error faults => exact .inl (configure_refused_eq consistent bundled written)
  | ok _ =>
    right
    cases config with
    | obj members =>
      exact ⟨members, rfl, written, bulkWrite_of_accepted consistent bundled written⟩
    | _ => cases written

/-- What becomes of a text that is imported where all detectors are bundled.

Within the limits of the JSON reader there is a report; beyond them there may be a failure, which
changes nothing. A report has no errors exactly when it tells of success. The engine is left as it
was, or a complete accepted write was done; what is accepted is written. -/
theorem import_outcome {e : Engine} (reached : Reachable Action.Bundled e) (depth : Nat)
    (text : String) :
    (Json.WithinLimits depth text → ∃ report, (e.importText depth text).1 = .ok report) ∧
    (∀ fault, (e.importText depth text).1 = .error fault →
      (fault = .json .tooDeep ∨ ∃ count, fault = .json (.tooManyDigits count)) ∧
        (e.importText depth text).2 = e) ∧
    (∀ report, (e.importText depth text).1 = .ok report →
      (report.errors = [] ↔ report.success = true)) ∧
    ((e.importText depth text).2 = e ∨
      ∃ members, Json.parse depth text = .ok (.obj members) ∧
        e.configure (.obj members) = (.ok (), (e.importText depth text).2) ∧
        BulkWrite e members (e.importText depth text).2) ∧
    ∀ members e', Json.parse depth text = .ok (.obj members) →
      e.configure (.obj members) = (.ok (), e') → (e.importText depth text).2 = e' := by
  have written : ∀ members e', Json.parse depth text = .ok (.obj members) →
      e.configure (.obj members) = (.ok (), e') → (e.importText depth text).2 = e' := by
    intro members e' read accepted
    rw [importText_of_ok e read, accepted]
  rcases importText_cases e depth text with
    ⟨config, read, done⟩ | ⟨problem, place, read, done⟩ | ⟨fault, read, limit, done⟩
  · rw [done]
    refine ⟨fun _ => ⟨_, rfl⟩, ?_, ?_, ?_, done ▸ written⟩
    · intro fault failed
      cases failed
    · intro report reported
      cases reported
      exact apply_errors e config
    · have outcome :=
        configure_kept_or_written reached.consistent_of_bundled reached.isBundled config
      rcases outcome with kept | ⟨members, rfl, written, effect⟩
      · exact .inl kept
      · exact .inr ⟨members, read, written, effect⟩
  · rw [done]
    refine ⟨fun _ => ⟨_, rfl⟩, ?_, ?_, .inl rfl, done ▸ written⟩
    · intro fault failed
      cases failed
    · intro report reported
      cases reported
      exact parseFailure_errors _
  · rw [done]
    refine ⟨?_, ?_, ?_, .inl rfl, done ▸ written⟩
    · intro within
      obtain ⟨problem, place, rfl⟩ := Json.malformed_of_withinLimits within read
      rcases limit with same | ⟨count, same⟩ <;> cases same
    · intro told failed
      cases failed
      refine ⟨?_, rfl⟩
      rcases limit with rfl | ⟨count, rfl⟩
      · exact .inl rfl
      · exact .inr ⟨count, rfl⟩
    · intro report reported
      cases reported

/-- A configuration that is accepted, though nothing can be detected afterwards. -/
def disabling : String := "\x7b\"detection_order\": []\x7d"

/-- A write that is accepted and found wanting is reported as such, and it is done. -/
theorem import_outcome_disabling :
    ∃ report, (plain.importText 2 disabling).1 = .ok report ∧ report.success = false ∧
      report.errors ≠ [] ∧ (plain.importText 2 disabling).2.registry.order = [] := by
  obtain ⟨reports, -, told, -, -⟩ := import_outcome reachable_plain 2 disabling
  obtain ⟨report, reported⟩ := reports (Json.withinLimits_of_length_le (by decide) (by decide))
  have judged : (plain.importText 2 disabling).1.toOption.map (·.success) = some false := by
    decide +kernel
  rw [reported] at judged
  have success : report.success = false := Option.some.inj judged
  refine ⟨report, reported, success, ?_, by decide⟩
  intro none
  have wrong := (told report reported).mp none
  rw [success] at wrong
  cases wrong

/-! ### A text that is not reported -/

/-- One digit more than an integer may have. -/
def longInteger : String := String.ofList (List.replicate (maxDigits + 1) '1')

theorem parse_longInteger (depth : Nat) :
    Json.parse depth longInteger = .error (.tooManyDigits (maxDigits + 1)) := by
  -- The number of digits stays a variable, or the text would be spelled out.
  have ones (n : Nat) (long : maxDigits < n + 1) :
      Json.parse depth (String.ofList (List.replicate (n + 1) '1')) =
        .error (.tooManyDigits (n + 1)) := by
    have row : Json.Row ('1' :: List.replicate n '1') := by
      intro c mem
      rw [← List.replicate_succ] at mem
      rw [List.eq_of_mem_replicate mem]
      rfl
    have size : ('1' :: List.replicate n '1').length = n + 1 := by
      rw [List.length_cons, List.length_replicate]
    have refused := Json.parse_long depth false row (by decide) (size ▸ long)
    rw [size] at refused
    exact refused
  exact ones maxDigits (Nat.lt_succ_self maxDigits)

theorem importText_of_tooManyDigits (e : Engine) {depth : Nat} {text : String} {count : Nat}
    (refused : Json.parse depth text = .error (.tooManyDigits count)) :
    e.importText depth text = (.error (.json (.tooManyDigits count)), e) := by
  simp only [importText, refused]

/-- An import need not end in a report, however deep containers may nest. -/
theorem not_import_reports :
    ¬ ∃ depth, ∀ e, Reachable Action.Bundled e →
      ∀ text, ∃ report, (e.importText depth text).1 = .ok report := by
  rintro ⟨depth, reports⟩
  obtain ⟨report, told⟩ := reports plain reachable_plain longInteger
  rw [importText_of_tooManyDigits plain (parse_longInteger depth)] at told
  cases told

end Engine

end SnippetDetect
