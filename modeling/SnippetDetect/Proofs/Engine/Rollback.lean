import SnippetDetect.Proofs.Engine.Invariant

/-!
Putting an engine back.

A write of a configuration that is refused half-way has changed the order, the threshold, the
allow-list, gates and the memory of detectors, and nothing else (`Unfinished`). Whatever part of
it was done, `restore` undoes it, memory aside (`restore_sameDetectors`): so a refused write
leaves an engine with the same detectors in the same settings, and the cache as it was.
-/

namespace SnippetDetect

/-- The registered detectors without memory, allow-lists and gates. -/
def Registry.bare (r : Registry) : List (String × Detector) :=
  mapEntries Detector.bare r.detectors

theorem Registry.names_eq_of_bare {r other : Registry} (same : r.bare = other.bare) :
    r.names = other.names := by
  have := congrArg entryNames same
  rwa [bare, bare, entryNames_mapEntries, entryNames_mapEntries] at this

theorem Registry.get?_bare {r other : Registry} (same : r.bare = other.bare) (name : String) :
    (r.get? name).map Detector.bare = (other.get? name).map Detector.bare := by
  have := congrArg (valueOf? · name) same
  simpa [bare, valueOf?_mapEntries, get?] using this

theorem Registry.bare_put {r : Registry} {d old : Detector} (found : r.get? d.name = some old)
    (same : d.bare = old.bare) : (r.put d).bare = r.bare := by
  rw [bare, put, mapEntries_setEntry]
  apply setEntry_eq_self
  rw [valueOf?_mapEntries, show valueOf? r.detectors d.name = some old from found, Option.map_some,
    same]

theorem Registry.bare_mapDetectors (r : Registry) {f : Detector → Detector}
    (same : ∀ d, (f d).bare = d.bare) : (r.mapDetectors f).bare = r.bare := by
  simp [bare, mapDetectors, mapEntries, same]

theorem Registry.bare_memoryless (r : Registry) : r.memoryless.bare = r.bare := by
  rw [bare, memoryless, show (r.mapDetectors Detector.memoryless).detectors =
    mapEntries Detector.memoryless r.detectors from rfl, mapEntries_mapEntries]
  apply mapEntries_congr
  intro entry _
  exact Detector.bare_congr (Detector.memoryless_memoryless entry.2)

theorem Registry.bare_of_memoryless {r other : Registry}
    (same : other.memoryless = r.memoryless) : other.bare = r.bare := by
  rw [← bare_memoryless other, same, bare_memoryless]

namespace Engine

/-- An engine on which a write may have begun, and what the write leaves alone. -/
structure Unfinished (before changed : Engine) : Prop where
  registry : changed.registry.WellFormed
  bare : changed.registry.bare = before.registry.bare
  cache : changed.cache = before.cache
  clock : changed.clock = before.clock

namespace Unfinished

variable {before e : Engine}

theorem refl (wellFormed : e.registry.WellFormed) : Unfinished e e := ⟨wellFormed, rfl, rfl, rfl⟩

theorem names (unfinished : Unfinished before e) : e.registry.names = before.registry.names :=
  Registry.names_eq_of_bare unfinished.bare

theorem setOrder (unfinished : Unfinished before e) (order : List String) :
    Unfinished before (e.setOrder order) :=
  ⟨unfinished.registry.setOrder order, unfinished.bare, unfinished.cache, unfinished.clock⟩

theorem setThreshold (unfinished : Unfinished before e) (value : Number) :
    Unfinished before (e.setThreshold value) :=
  ⟨unfinished.registry, unfinished.bare, unfinished.cache, unfinished.clock⟩

theorem setAllowed (unfinished : Unfinished before e) (languages : List String) :
    Unfinished before (e.setAllowed languages) where
  registry := unfinished.registry.mapDetectors (fun d => Detector.setAllowed_name d _)
    fun _ part => Detector.wellFormed_setAllowed part _
  bare := (Registry.bare_mapDetectors _ fun d => Detector.bare_setAllowed d _).trans unfinished.bare
  cache := unfinished.cache
  clock := unfinished.clock

theorem pushThreshold (unfinished : Unfinished before e) (value : Number) :
    Unfinished before (e.pushThreshold value) := by
  obtain ⟨gate, made, pushed⟩ := pushThreshold_eq e value
  have part (d : Detector) (old : d.WellFormed) : ({ d with gate } : Detector).WellFormed :=
    Detector.wellFormed_withGate old (isGate_of_gateOfThreshold made)
  rw [pushed]
  refine ⟨?_, ?_, unfinished.cache, unfinished.clock⟩
  · exact unfinished.registry.mapDetectors (f := fun d => { d with gate }) (fun _ => rfl) part
  · exact (Registry.bare_mapDetectors _ fun d => Detector.bare_withGate d gate).trans
      unfinished.bare

/-- A detector may have another memory, another allow-list and another gate. -/
theorem put (unfinished : Unfinished before e) {d old : Detector}
    (found : e.registry.get? d.name = some old) (part : d.WellFormed) (same : d.bare = old.bare) :
    Unfinished before { e with registry := e.registry.put d } where
  registry := unfinished.registry.put (Registry.isRegistered_of_get? found) part
  bare := (Registry.bare_put found same).trans unfinished.bare
  cache := unfinished.cache
  clock := unfinished.clock

theorem putConfigured (unfinished : Unfinished before e) {name : String} {d : Detector}
    (found : e.registry.get? name = some d) (payload : Members) :
    Unfinished before { e with registry := e.registry.put (d.configure payload).2 } := by
  have here : d.name = name := unfinished.registry.name_of_get? found
  apply unfinished.put
  · rw [Detector.configure_name, here, found]
  · exact Detector.wellFormed_configure (unfinished.registry.of_get? found) payload
  · exact Detector.bare_configure d payload

theorem route (unfinished : Unfinished before e) (d : Detector) (payload : Members) :
    Unfinished before (e.routeAllowed d payload).2 := by
  rw [routeAllowed_snd]
  cases routedList? d payload with
  | none => exact unfinished
  | some languages => exact unfinished.setAllowed languages

theorem applyPayload (unfinished : Unfinished before e) (name : String) (payload : Members) :
    Unfinished before (e.applyPayload name payload).2 := by
  rcases e.configurable_or_other name with ⟨d, found, configurable⟩ | other
  · obtain ⟨routed, there, -, after⟩ := applyPayload_of_configurable found configurable payload
    rw [after]
    exact (unfinished.route d payload).putConfigured there _
  · rw [applyPayload_of_other other]
    exact unfinished

theorem applyPayloads (unfinished : Unfinished before e) (payloads : List (String × Members)) :
    Unfinished before (e.applyPayloads payloads).2 := by
  induction payloads generalizing e with
  | nil => exact unfinished
  | cons entry rest ih => exact ih (unfinished.applyPayload entry.1 entry.2)

theorem overrideThreshold (unfinished : Unfinished before e) (name : String) (value : Number) :
    Unfinished before (e.overrideThreshold name value) := by
  cases found : e.registry.get? name with
  | none =>
    rw [overrideThreshold_of_none found]
    exact unfinished
  | some d =>
    obtain ⟨gate, made, overridden⟩ := overrideThreshold_eq found value
    have here : d.name = name := unfinished.registry.name_of_get? found
    rw [overridden]
    exact unfinished.put (here ▸ found)
      (Detector.wellFormed_withGate (unfinished.registry.of_get? found)
        (isGate_of_gateOfThreshold made))
      (Detector.bare_withGate d gate)

theorem overrideThresholds (unfinished : Unfinished before e)
    (thresholds : List (String × Number)) :
    Unfinished before
      (thresholds.foldl (fun e (name, value) => e.overrideThreshold name value) e) := by
  induction thresholds generalizing e with
  | nil => exact unfinished
  | cons entry rest ih => exact ih (unfinished.overrideThreshold entry.1 entry.2)

theorem restorePayload (unfinished : Unfinished before e) (name : String) (payload : Members) :
    Unfinished before (e.restorePayload name payload) := by
  unfold Engine.restorePayload
  split
  · exact unfinished
  · next d found => exact unfinished.putConfigured found payload

theorem restorePayloads (unfinished : Unfinished before e) (ds : List Detector) :
    Unfinished before (ds.foldl (fun e d =>
      match d.configuration? with
      | some payload => e.restorePayload d.name payload
      | none => e) e) := by
  induction ds generalizing e with
  | nil => exact unfinished
  | cons d rest ih =>
    rw [List.foldl_cons]
    apply ih
    split
    · exact unfinished.restorePayload _ _
    · exact unfinished

end Unfinished

/-! ### Gates put back -/

section Gates

variable {before e : Engine}

theorem restoreGate_eq {name : String} {d : Detector} (found : e.registry.get? name = some d)
    {gate : Binary64} (isGate : IsGate gate) :
    e.restoreGate name gate = { e with registry := e.registry.put { d with gate } } := by
  have kept : gateOf (.float gate) = .ok gate := isGate
  simp only [restoreGate, found, Detector.setGate, kept, Except.map]

/-- All settings but some gates are back. -/
structure GatesLeft (before e : Engine) : Prop where
  unfinished : Unfinished before e
  order : e.registry.order = before.registry.order
  threshold : e.threshold = before.threshold
  allowed : e.allowed = before.allowed
  handed : ∀ name d, e.registry.get? name = some d → d.setAllowed e.allowed = d

/-- The gate under a name is back. -/
def GateBack (before e : Engine) (name : String) : Prop :=
  (e.registry.get? name).map Detector.gate = (before.registry.get? name).map Detector.gate

theorem GatesLeft.restoreGate (left : GatesLeft before e) {b : Detector}
    (there : before.registry.get? b.name = some b) (isGate : IsGate b.gate) :
    GatesLeft before (e.restoreGate b.name b.gate) ∧
      GateBack before (e.restoreGate b.name b.gate) b.name ∧
      ∀ name, GateBack before e name → GateBack before (e.restoreGate b.name b.gate) name := by
  obtain ⟨d, found⟩ : ∃ d, e.registry.get? b.name = some d := by
    rw [← Option.isSome_iff_exists]
    exact (Registry.isRegistered_congr left.unfinished.names b.name).trans
      (Registry.isRegistered_of_get? there)
  have here : d.name = b.name := left.unfinished.registry.name_of_get? found
  rw [restoreGate_eq found isGate]
  have back : GateBack before { e with registry := e.registry.put { d with gate := b.gate } }
      b.name := by
    simp [GateBack, Registry.get?_put, here, there]
  refine ⟨⟨?_, left.order, left.threshold, left.allowed, ?_⟩, back, ?_⟩
  · exact left.unfinished.put (here ▸ found)
      (Detector.wellFormed_withGate (left.unfinished.registry.of_get? found) isGate)
      (Detector.bare_withGate d b.gate)
  · intro name other put
    rw [Registry.get?_put] at put
    split at put
    · cases put
      exact Detector.withGate_setAllowed_eq_self (left.handed b.name d found) b.gate
    · exact left.handed name other put
  · intro name earlier
    by_cases same : name = b.name
    · rw [same]
      exact back
    · simpa [GateBack, Registry.get?_put, here, same] using earlier

/-- The gates of the listed detectors are put back, the others stay as they are. -/
theorem GatesLeft.restoreGates (left : GatesLeft before e) {ds : List Detector}
    (there : ∀ b ∈ ds, before.registry.get? b.name = some b ∧ IsGate b.gate)
    (rest : ∀ name, name ∈ ds.map (·.name) ∨ GateBack before e name) :
    GatesLeft before (ds.foldl (fun e d => e.restoreGate d.name d.gate) e) ∧
      ∀ name, GateBack before (ds.foldl (fun e d => e.restoreGate d.name d.gate) e) name := by
  induction ds generalizing e with
  | nil => exact ⟨left, fun name => (rest name).resolve_left (by simp)⟩
  | cons b later ih =>
    have first := there b List.mem_cons_self
    obtain ⟨leftAfter, back, kept⟩ := left.restoreGate first.1 first.2
    apply ih leftAfter fun other mem => there other (List.mem_cons_of_mem _ mem)
    intro name
    rcases rest name with mem | earlier
    · rw [List.map_cons, List.mem_cons] at mem
      rcases mem with rfl | mem
      · exact .inr back
      · exact .inl mem
    · exact .inr (kept name earlier)

/-- With every gate back, the detectors are those of before, memory aside. -/
theorem GatesLeft.sameDetectors (left : GatesLeft before e) (consistent : before.Consistent)
    (back : ∀ name, GateBack before e name) : before.SameDetectors e := by
  have detectors : e.registry.memoryless.detectors = before.registry.memoryless.detectors := by
    apply entries_ext
    · exact (Registry.names_memoryless _).trans
        (left.unfinished.names.trans (Registry.names_memoryless _).symm)
    · rw [show entryNames e.registry.memoryless.detectors = e.registry.memoryless.names from rfl,
        Registry.names_memoryless]
      exact left.unfinished.registry.distinct
    · intro name
      show e.registry.memoryless.get? name = before.registry.memoryless.get? name
      rw [Registry.get?_memoryless, Registry.get?_memoryless]
      have bare := Registry.get?_bare left.unfinished.bare name
      have gate := back name
      unfold GateBack at gate
      cases found : e.registry.get? name with
      | none =>
        rw [found] at bare
        cases old : before.registry.get? name with
        | none => rfl
        | some b => simp [old] at bare
      | some d =>
        rw [found] at bare gate
        cases old : before.registry.get? name with
        | none => simp [old] at bare
        | some b =>
          rw [old] at bare gate
          simp only [Option.map_some, Option.some.injEq] at bare gate ⊢
          have handed := left.handed name d found
          rw [left.allowed] at handed
          exact Detector.memoryless_eq_of_bare bare gate handed (consistent.handed name b old)
  refine ⟨left.unfinished.registry, ?_, left.threshold, left.allowed, left.unfinished.clock⟩
  show Registry.mk e.registry.memoryless.detectors e.registry.order =
    Registry.mk before.registry.memoryless.detectors before.registry.order
  rw [detectors, left.order]

end Gates

/-! ### Refused writes -/

/-- Whatever part of a write was done, it is undone, memory aside. -/
theorem restore_sameDetectors {before changed : Engine} (consistent : before.Consistent)
    (unfinished : Unfinished before changed) :
    before.SameDetectors (changed.restore before) ∧
      (changed.restore before).cache = before.cache := by
  have payloads := unfinished.restorePayloads before.registry.all
  set settings := (((before.registry.all.foldl (fun e d =>
      match d.configuration? with
      | some payload => e.restorePayload d.name payload
      | none => e) changed).setOrder before.registry.order).setThreshold
    before.threshold).setAllowed before.allowed with hsettings
  have left : GatesLeft before settings := by
    have ordered := payloads.setOrder before.registry.order
    refine ⟨(ordered.setThreshold _).setAllowed _, ?_, consistent.threshold, consistent.allowed, ?_⟩
    · apply Registry.setOrder_eq_self consistent.registry.ordered
      intro name mem
      rw [Registry.isRegistered_congr payloads.names]
      exact consistent.registry.known name mem
    · intro name d found
      exact handed_setAllowed found
  have there : ∀ b ∈ before.registry.all, before.registry.get? b.name = some b ∧ IsGate b.gate := by
    intro b mem
    have found := consistent.registry.mem_all_iff.mp mem
    exact ⟨found, (consistent.registry.of_get? found).gate⟩
  have all : ∀ name, name ∈ before.registry.all.map (·.name) ∨ GateBack before settings name := by
    intro name
    cases found : before.registry.get? name with
    | some b =>
      have here := consistent.registry.name_of_get? found
      refine .inl (List.mem_map.mpr ⟨b, consistent.registry.mem_all_iff.mpr ?_, here⟩)
      rw [here, found]
    | none =>
      have bare := Registry.get?_bare left.unfinished.bare name
      rw [found, Option.map_none, Option.map_eq_none_iff] at bare
      exact .inr (by rw [GateBack, bare, found])
  have gates := left.restoreGates there all
  exact ⟨gates.1.sameDetectors consistent gates.2, gates.1.unfinished.cache⟩

/-- The engine after the first three parts of a write. -/
def begin (e : Engine) (c : Changes) : Engine :=
  let e := c.order.elim e e.setOrder
  let e := c.threshold.elim e e.pushThreshold
  c.allowed.elim e e.setAllowed

/-- What each of the first three parts of a write preserves, they preserve together. -/
theorem begin_preserves {P : Engine → Prop} {e : Engine} (start : P e) (c : Changes)
    (order : ∀ {e : Engine}, P e → ∀ names, P (e.setOrder names))
    (threshold : ∀ {e : Engine}, P e → ∀ value, P (e.pushThreshold value))
    (allowed : ∀ {e : Engine}, P e → ∀ languages, P (e.setAllowed languages)) : P (e.begin c) := by
  have ordered : P (c.order.elim e e.setOrder) := by
    cases c.order with
    | none => exact start
    | some names => exact order start names
  have pushed : P (c.threshold.elim (c.order.elim e e.setOrder)
      (c.order.elim e e.setOrder).pushThreshold) := by
    cases c.threshold with
    | none => exact ordered
    | some value => exact threshold ordered value
  unfold begin
  cases c.allowed with
  | none => exact pushed
  | some languages => exact allowed pushed languages

theorem Unfinished.begin {before e : Engine} (unfinished : Unfinished before e) (c : Changes) :
    Unfinished before (e.begin c) :=
  begin_preserves unfinished c setOrder pushThreshold setAllowed

/-- The engine after an accepted write. -/
def settle (e : Engine) (c : Changes) : Engine :=
  (c.thresholds.foldl (fun e (name, value) => e.overrideThreshold name value)
    ((e.begin c).applyPayloads c.payloads).2).clearCache

theorem write_eq (e : Engine) (c : Changes) :
    e.write c =
      match (e.begin c).applyPayloads c.payloads with
      | ([], e') =>
          (.ok (), (c.thresholds.foldl (fun e (name, value) => e.overrideThreshold name value)
            e').clearCache)
      | (faults, changed) => (.error faults, changed.restore e) := rfl

/-- All that a configuration can lead to: it has the wrong shape, it is accepted, or it is refused by
a detector and undone. -/
theorem configure_cases (e : Engine) (config : Json) :
    (∃ faults, Changes.ofJson config = .error faults ∧ e.configure config = (.error faults, e)) ∨
    (∃ c, Changes.ofJson config = .ok c ∧ ((e.begin c).applyPayloads c.payloads).1 = [] ∧
      e.configure config = (.ok (), e.settle c)) ∨
    ∃ c, Changes.ofJson config = .ok c ∧ ((e.begin c).applyPayloads c.payloads).1 ≠ [] ∧
      e.configure config = (.error ((e.begin c).applyPayloads c.payloads).1,
        ((e.begin c).applyPayloads c.payloads).2.restore e) := by
  cases shape : Changes.ofJson config with
  | error faults => exact .inl ⟨faults, rfl, by simp [configure, shape]⟩
  | ok c =>
    have written : e.configure config = e.write c := by simp only [configure, shape]
    rw [write_eq] at written
    rcases applied : (e.begin c).applyPayloads c.payloads with ⟨faults, changed⟩
    rw [applied] at written
    cases faults with
    | nil => exact .inr (.inl ⟨c, rfl, by rw [applied], by rw [written, settle, applied]⟩)
    | cons fault rest => exact .inr (.inr ⟨c, rfl, by simp [applied], by rw [written, applied]⟩)

/-- The members that reach a detector, if it is there and takes payloads. -/
def payloadFor? (e : Engine) (name : String) (payload : Json) : Option Members :=
  match e.registry.get? name with
  | none => none
  | some d => if d.isConfigurable then (membersOf payload).toOption else none

/-- All that a payload for one detector can lead to: there is nothing to write, the detector takes
it, or the detector refuses it and is put back. -/
theorem configureDetector_cases (e : Engine) (name : String) (payload : Json) :
    (e.payloadFor? name payload = none ∧
      ∃ answer, e.configureDetector name payload = (answer, e)) ∨
    (∃ members, e.payloadFor? name payload = some members ∧
      (e.applyPayload name members).1 = none ∧
      e.configureDetector name payload = (.ok true, (e.applyPayload name members).2.clearCache)) ∨
    ∃ members fault, e.payloadFor? name payload = some members ∧
      (e.applyPayload name members).1 = some fault ∧
      e.configureDetector name payload =
        (.error (.configuration [fault]), (e.applyPayload name members).2.restore e) := by
  unfold configureDetector payloadFor?
  cases e.registry.get? name with
  | none => exact .inl ⟨rfl, _, rfl⟩
  | some d =>
    dsimp only
    by_cases configurable : d.isConfigurable
    · simp only [if_pos configurable]
      cases membersOf payload with
      | error reason => exact .inl ⟨rfl, _, rfl⟩
      | ok members =>
        rcases applied : e.applyPayload name members with ⟨refusal, changed⟩
        cases refusal with
        | none => exact .inr (.inl ⟨members, rfl, by rw [applied], by simp only [applied]⟩)
        | some fault =>
          exact .inr (.inr ⟨members, fault, rfl, by rw [applied], by simp only [applied]⟩)
    · simp only [if_neg configurable]
      exact .inl ⟨trivial, _, rfl⟩

/-- A refused configuration changes no setting and leaves the cache as it was. -/
theorem configure_refused {e changed : Engine} (consistent : e.Consistent) {config : Json}
    {faults : List ChangeFault} (refused : e.configure config = (.error faults, changed)) :
    e.SameDetectors changed ∧ changed.cache = e.cache := by
  rcases configure_cases e config with ⟨_, _, shape⟩ | ⟨c, _, _, accepted⟩ | ⟨c, _, _, undone⟩
  · rw [shape] at refused
    cases refused
    exact ⟨.refl consistent, rfl⟩
  · rw [accepted] at refused
    cases refused
  · rw [undone] at refused
    cases refused
    exact restore_sameDetectors consistent
      (((Unfinished.refl consistent.registry).begin c).applyPayloads c.payloads)

/-- A payload that a detector refuses changes no setting and leaves the cache as it was. -/
theorem configureDetector_refused {e changed : Engine} (consistent : e.Consistent)
    {name : String} {payload : Json} {fault : Fault}
    (refused : e.configureDetector name payload = (.error fault, changed)) :
    e.SameDetectors changed ∧ changed.cache = e.cache := by
  rcases configureDetector_cases e name payload with
    ⟨_, _, kept⟩ | ⟨members, _, _, accepted⟩ | ⟨members, _, _, _, undone⟩
  · rw [kept] at refused
    cases refused
    exact ⟨.refl consistent, rfl⟩
  · rw [accepted] at refused
    cases refused
  · rw [undone] at refused
    cases refused
    exact restore_sameDetectors consistent
      ((Unfinished.refl consistent.registry).applyPayload name members)

end Engine

end SnippetDetect
