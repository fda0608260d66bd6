import SnippetDetect.Proofs.Engine.Reachable

/-!
Engines that differ in memory and cache only stay so.

`SameDetectors` relates two engines with the same detectors in the same settings. Every write
takes such engines to such engines and answers alike (`SameDetectors.configure_fst` and its like),
and so does every action (`SameDetectors.after`).
-/

namespace SnippetDetect

namespace Registry

/-- A registry that differs in memory only finds the same detectors. -/
theorem get?_of_memoryless {r other : Registry} (same : other.memoryless = r.memoryless)
    {name : String} {d : Detector} (found : r.get? name = some d) :
    ∃ d', other.get? name = some d' ∧ d'.memoryless = d.memoryless := by
  have there : (other.get? name).map Detector.memoryless = some d.memoryless := by
    rw [← get?_memoryless, same, get?_memoryless, found, Option.map_some]
  exact Option.map_eq_some_iff.mp there

theorem get?_none_of_memoryless {r other : Registry} (same : other.memoryless = r.memoryless)
    {name : String} (absent : r.get? name = none) : other.get? name = none := by
  have there : (other.get? name).map Detector.memoryless = none := by
    rw [← get?_memoryless, same, get?_memoryless, absent, Option.map_none]
  exact Option.map_eq_none_iff.mp there

theorem names_of_memoryless {r other : Registry} (same : other.memoryless = r.memoryless) :
    other.names = r.names := by
  rw [← names_memoryless other, same, names_memoryless]

theorem memoryless_setOrder (r : Registry) (names : List String) :
    (r.setOrder names).memoryless = r.memoryless.setOrder names := by
  have registered : r.isRegistered = r.memoryless.isRegistered :=
    funext fun name => (isRegistered_memoryless r name).symm
  simp only [setOrder, registered]
  rfl

theorem memoryless_enable (r : Registry) (name : String) :
    (r.enable name).memoryless = r.memoryless.enable name := by
  unfold enable
  rw [isRegistered_memoryless]
  show _ = if r.isRegistered name && !r.isEnabled name then _ else _
  split <;> rfl

theorem memoryless_setEnabled (r : Registry) (name : String) (enabled : Bool) :
    (r.setEnabled name enabled).memoryless = r.memoryless.setEnabled name enabled := by
  cases enabled with
  | false => rfl
  | true => exact memoryless_enable r name

theorem memoryless_enableAll (r : Registry) (names : List String) :
    (names.foldl enable r).memoryless = names.foldl enable r.memoryless := by
  induction names generalizing r with
  | nil => rfl
  | cons name rest ih => exact (ih (r.enable name)).trans (by rw [memoryless_enable]; rfl)

theorem memoryless_register (r : Registry) (d : Detector) :
    (r.register d).memoryless = r.memoryless.register d.memoryless := by
  have put := memoryless_put r d
  have detectors : (r.put d).memoryless.detectors = (r.memoryless.put d.memoryless).detectors := by
    rw [put]
  have registered := isRegistered_memoryless r d.name
  show Registry.mk (r.put d).memoryless.detectors _ = Registry.mk _ _
  rw [detectors]
  simp only [register, Detector.memoryless_name, registered]
  rfl

theorem memoryless_unregister (r : Registry) (name : String) :
    (r.unregister name).2.memoryless = (r.memoryless.unregister name).2 :=
  congrArg (fun detectors =>
      ({ detectors, order := r.order.filter (· ≠ name) } : Registry))
    (mapEntries_eraseEntry Detector.memoryless name r.detectors)

end Registry

namespace Engine

section Writes

variable {e other : Engine}

theorem SameDetectors.symm (same : e.SameDetectors other) (consistent : e.Consistent) :
    other.SameDetectors e :=
  ⟨consistent.registry, same.memoryless.symm, same.threshold.symm, same.allowed.symm,
    same.clock.symm⟩

theorem SameDetectors.clearCache (same : e.SameDetectors other) :
    e.clearCache.SameDetectors other.clearCache :=
  ⟨same.registry, same.memoryless, same.threshold, same.allowed, same.clock⟩

/-- Registries changed in the same way. -/
theorem SameDetectors.withRegistry (same : e.SameDetectors other) {left right : Registry}
    (wellFormed : right.WellFormed) (memoryless : right.memoryless = left.memoryless) :
    ({ e with registry := left } : Engine).SameDetectors { other with registry := right } :=
  ⟨wellFormed, memoryless, same.threshold, same.allowed, same.clock⟩

theorem SameDetectors.setOrder (same : e.SameDetectors other) (names : List String) :
    (e.setOrder names).SameDetectors (other.setOrder names) := by
  apply same.withRegistry (same.registry.setOrder names)
  rw [Registry.memoryless_setOrder, same.memoryless, Registry.memoryless_setOrder]

theorem SameDetectors.setEnabled (same : e.SameDetectors other) (name : String) (enabled : Bool) :
    ({ e with registry := e.registry.setEnabled name enabled } : Engine).SameDetectors
      { other with registry := other.registry.setEnabled name enabled } := by
  apply same.withRegistry (same.registry.setEnabled name enabled)
  rw [Registry.memoryless_setEnabled, same.memoryless, Registry.memoryless_setEnabled]

theorem SameDetectors.setAllowed (same : e.SameDetectors other) (consistent : e.Consistent)
    (languages : List String) : (e.setAllowed languages).SameDetectors (other.setAllowed languages) := by
  refine ⟨((same.consistent consistent).setAllowed languages).registry, ?_, same.threshold, rfl,
    same.clock⟩
  have commutes (d : Detector) := Detector.memoryless_setAllowed d (normalLanguages languages)
  show (Registry.mapDetectors _ _).memoryless = (Registry.mapDetectors _ _).memoryless
  rw [Registry.memoryless_mapDetectors _ commutes, same.memoryless,
    Registry.memoryless_mapDetectors _ commutes]

theorem SameDetectors.pushThreshold (same : e.SameDetectors other) (consistent : e.Consistent)
    (value : Number) : (e.pushThreshold value).SameDetectors (other.pushThreshold value) := by
  have wellFormed := ((same.consistent consistent).pushThreshold value).registry
  obtain ⟨gate, made, pushed⟩ := pushThreshold_eq e value
  obtain ⟨gate', made', pushed'⟩ := pushThreshold_eq other value
  obtain rfl : gate' = gate := by
    rw [made] at made'
    cases made'
    rfl
  rw [pushed'] at wellFormed ⊢
  rw [pushed]
  refine ⟨wellFormed, ?_, rfl, same.allowed, same.clock⟩
  have commutes (d : Detector) :
      ({ d with gate := gate' } : Detector).memoryless = { d.memoryless with gate := gate' } := rfl
  show (Registry.mapDetectors _ _).memoryless = (Registry.mapDetectors _ _).memoryless
  rw [Registry.memoryless_mapDetectors (f := fun d => { d with gate := gate' }) _ commutes,
    same.memoryless, Registry.memoryless_mapDetectors (f := fun d => { d with gate := gate' }) _ commutes]

/-- The same detector is put under the same name. -/
theorem SameDetectors.put (same : e.SameDetectors other) {d d' : Detector}
    (part : d'.WellFormed) (registered : other.registry.isRegistered d'.name = true)
    (memoryless : d'.memoryless = d.memoryless) :
    ({ e with registry := e.registry.put d } : Engine).SameDetectors
      { other with registry := other.registry.put d' } := by
  apply same.withRegistry (same.registry.put registered part)
  rw [Registry.memoryless_put, same.memoryless, memoryless, Registry.memoryless_put]

theorem SameDetectors.overrideThreshold (same : e.SameDetectors other) (name : String)
    (value : Number) :
    (e.overrideThreshold name value).SameDetectors (other.overrideThreshold name value) := by
  cases found : e.registry.get? name with
  | none =>
    rw [overrideThreshold_of_none found,
      overrideThreshold_of_none (Registry.get?_none_of_memoryless same.memoryless found)]
    exact same
  | some d =>
    obtain ⟨d', found', memoryless⟩ := Registry.get?_of_memoryless same.memoryless found
    obtain ⟨gate, made, overridden⟩ := overrideThreshold_eq found value
    obtain ⟨gate', made', overridden'⟩ := overrideThreshold_eq found' value
    obtain rfl : gate' = gate := by
      rw [made] at made'
      cases made'
      rfl
    rw [overridden, overridden']
    have here : d'.name = name := same.registry.name_of_get? found'
    apply same.put
    · exact Detector.wellFormed_withGate (same.registry.of_get? found')
        (isGate_of_gateOfThreshold made)
    · exact Registry.isRegistered_of_get? (here ▸ found')
    · show { d'.memoryless with gate := gate' } = { d.memoryless with gate := gate' }
      rw [memoryless]

theorem SameDetectors.overrideThresholds (same : e.SameDetectors other)
    (thresholds : List (String × Number)) :
    (thresholds.foldl (fun e (name, value) => e.overrideThreshold name value) e).SameDetectors
      (thresholds.foldl (fun e (name, value) => e.overrideThreshold name value) other) := by
  induction thresholds generalizing e other with
  | nil => exact same
  | cons entry rest ih => exact ih (same.overrideThreshold entry.1 entry.2)

theorem SameDetectors.register (same : e.SameDetectors other) {d : Detector}
    (part : d.WellFormed) : (e.register d).SameDetectors (other.register d) := by
  have registered : ({ e with registry := e.registry.register (d.setAllowed e.allowed) } :
      Engine).SameDetectors
      { other with registry := other.registry.register (d.setAllowed other.allowed) } := by
    apply same.withRegistry (same.registry.register (Detector.wellFormed_setAllowed part _))
    rw [Registry.memoryless_register, same.memoryless, same.allowed, Registry.memoryless_register]
  have isNew : other.registry.isRegistered d.name = e.registry.isRegistered d.name :=
    Registry.isRegistered_congr (Registry.names_of_memoryless same.memoryless) d.name
  have overridden {left right : Engine} (same : left.SameDetectors right) {v v' : Number}
      (values : v' = v) : (left.overrideThreshold d.name v).SameDetectors
        (right.overrideThreshold d.name v') := by
    subst values
    exact same.overrideThreshold d.name v'
  unfold Engine.register
  dsimp only
  rw [isNew]
  split
  · exact (overridden registered same.threshold).clearCache
  · exact registered.clearCache

theorem SameDetectors.unregister (same : e.SameDetectors other) (name : String) :
    (e.unregister name).2.SameDetectors (other.unregister name).2 := by
  have removed : ({ e with registry := (e.registry.unregister name).2 } : Engine).SameDetectors
      { other with registry := (other.registry.unregister name).2 } := by
    apply same.withRegistry (same.registry.unregister name)
    rw [Registry.memoryless_unregister, same.memoryless, Registry.memoryless_unregister]
  have there : other.registry.isRegistered name = e.registry.isRegistered name :=
    Registry.isRegistered_congr (Registry.names_of_memoryless same.memoryless) name
  rw [unregister_snd, unregister_snd, there]
  split
  · exact removed.clearCache
  · exact removed

/-! ### Payloads -/

theorem SameDetectors.route (same : e.SameDetectors other) (consistent : e.Consistent)
    {d d' : Detector} (memoryless : d'.memoryless = d.memoryless) (payload : Members) :
    (e.routeAllowed d payload).2.SameDetectors (other.routeAllowed d' payload).2 ∧
      (other.routeAllowed d' payload).1 = (e.routeAllowed d payload).1 := by
  have selectable : d'.isSelectable = d.isSelectable := by
    rw [← Detector.isSelectable_memoryless, memoryless, Detector.isSelectable_memoryless]
  constructor
  · rw [routeAllowed_snd, routeAllowed_snd, routedList?, routedList?, selectable]
    split
    · cases (valueOf? payload "enabled_languages").bind Json.stringList? with
      | none => exact same
      | some languages => exact same.setAllowed consistent languages
    · exact same
  · simp only [routeAllowed, selectable]
    split <;> rfl

/-- A payload is refused by both engines for the same reason, or by neither. -/
theorem SameDetectors.applyPayload (same : e.SameDetectors other) (consistent : e.Consistent)
    (name : String) (payload : Members) :
    (e.applyPayload name payload).2.SameDetectors (other.applyPayload name payload).2 ∧
      (other.applyPayload name payload).1 = (e.applyPayload name payload).1 := by
  cases found : e.registry.get? name with
  | none =>
    have absent := Registry.get?_none_of_memoryless same.memoryless found
    simp only [Engine.applyPayload, found, absent]
    exact ⟨same, trivial⟩
  | some d =>
    obtain ⟨d', found', memoryless⟩ := Registry.get?_of_memoryless same.memoryless found
    have configurable : d'.isConfigurable = d.isConfigurable := by
      rw [← Detector.isConfigurable_memoryless, memoryless, Detector.isConfigurable_memoryless]
    obtain ⟨route, left⟩ := same.route consistent memoryless payload
    cases target : d.isConfigurable with
    | false => simpa [Engine.applyPayload, found, found', configurable, target] using same
    | true =>
      obtain ⟨routed, there, unlisted, applied⟩ :=
        applyPayload_of_configurable found target payload
      obtain ⟨routed', there', -, applied'⟩ :=
        applyPayload_of_configurable found' (configurable.trans target) payload
      rw [applied, applied', left]
      have routedSame : routed'.memoryless = routed.memoryless := by
        obtain ⟨routed'', there'', routedSame⟩ :=
          Registry.get?_of_memoryless route.memoryless there
        rw [there'] at there''
        cases there''
        exact routedSame
      have taken := Detector.configure_congr routedSame unlisted
      refine ⟨?_, congrArg (refusal? name) taken.1⟩
      apply route.put
      · exact Detector.wellFormed_configure (route.registry.of_get? there') _
      · have here : routed'.name = name := route.registry.name_of_get? there'
        rw [Detector.configure_name]
        exact Registry.isRegistered_of_get? (here ▸ there')
      · exact taken.2

theorem SameDetectors.applyPayloads (same : e.SameDetectors other) (consistent : e.Consistent)
    (payloads : List (String × Members)) :
    (e.applyPayloads payloads).2.SameDetectors (other.applyPayloads payloads).2 ∧
      (other.applyPayloads payloads).1 = (e.applyPayloads payloads).1 := by
  induction payloads generalizing e other with
  | nil => exact ⟨same, rfl⟩
  | cons entry rest ih =>
    obtain ⟨after, fault⟩ := same.applyPayload consistent entry.1 entry.2
    obtain ⟨later, faults⟩ := ih after (consistent.applyPayload entry.1 entry.2)
    rw [applyPayloads_cons, applyPayloads_cons]
    exact ⟨later, by rw [fault, faults]⟩

/-! ### Whole writes -/

theorem SameDetectors.begin (same : e.SameDetectors other) (consistent : e.Consistent)
    (c : Changes) : (e.begin c).SameDetectors (other.begin c) := by
  have ordered : (c.order.elim e e.setOrder).Consistent ∧
      (c.order.elim e e.setOrder).SameDetectors (c.order.elim other other.setOrder) := by
    cases c.order with
    | none => exact ⟨consistent, same⟩
    | some names => exact ⟨consistent.setOrder names, same.setOrder names⟩
  have pushed : (c.threshold.elim (c.order.elim e e.setOrder)
        (c.order.elim e e.setOrder).pushThreshold).Consistent ∧
      (c.threshold.elim (c.order.elim e e.setOrder)
        (c.order.elim e e.setOrder).pushThreshold).SameDetectors
      (c.threshold.elim (c.order.elim other other.setOrder)
        (c.order.elim other other.setOrder).pushThreshold) := by
    cases c.threshold with
    | none => exact ordered
    | some value => exact ⟨ordered.1.pushThreshold value, ordered.2.pushThreshold ordered.1 value⟩
  unfold Engine.begin
  cases c.allowed with
  | none => exact pushed.2
  | some languages => exact pushed.2.setAllowed pushed.1 languages

theorem SameDetectors.settle (same : e.SameDetectors other) (consistent : e.Consistent)
    (c : Changes) : (e.settle c).SameDetectors (other.settle c) :=
  (((same.begin consistent c).applyPayloads (consistent.begin c) c.payloads).1.overrideThresholds
    c.thresholds).clearCache

/-- A configuration is accepted by both engines or by neither. -/
theorem SameDetectors.configure (same : e.SameDetectors other) (consistent : e.Consistent)
    (config : Json) : (e.configure config).2.SameDetectors (other.configure config).2 := by
  have otherConsistent := same.consistent consistent
  have refusals (c : Changes) : ((other.begin c).applyPayloads c.payloads).1 =
      ((e.begin c).applyPayloads c.payloads).1 :=
    ((same.begin consistent c).applyPayloads (consistent.begin c) c.payloads).2
  rcases configure_cases e config with
    ⟨faults, shape, kept⟩ | ⟨c, shape, taken, accepted⟩ | ⟨c, shape, refused, undone⟩
  all_goals
    rcases configure_cases other config with
      ⟨faults', shape', kept'⟩ | ⟨c', shape', taken', accepted'⟩ | ⟨c', shape', refused', undone'⟩
  all_goals rw [shape] at shape'
  all_goals cases shape'
  · rw [kept, kept']
    exact same
  · rw [accepted, accepted']
    exact same.settle consistent c
  · exact absurd ((refusals c).trans taken) refused'
  · exact absurd ((refusals c).symm.trans taken') refused
  · -- Both engines are put back.
    rw [undone, undone']
    have left := (configure_refused consistent undone).1
    have right := (configure_refused otherConsistent undone').1
    exact ((left.symm consistent).trans same).trans right

theorem SameDetectors.payloadFor? (same : e.SameDetectors other) (name : String)
    (payload : Json) : other.payloadFor? name payload = e.payloadFor? name payload := by
  unfold Engine.payloadFor?
  cases found : e.registry.get? name with
  | none => rw [Registry.get?_none_of_memoryless same.memoryless found]
  | some d =>
    obtain ⟨d', found', memoryless⟩ := Registry.get?_of_memoryless same.memoryless found
    have configurable : d'.isConfigurable = d.isConfigurable := by
      rw [← Detector.isConfigurable_memoryless, memoryless, Detector.isConfigurable_memoryless]
    simp only [found', configurable]

/-- A payload for one detector is refused by both engines or by neither. -/
theorem SameDetectors.configureDetector (same : e.SameDetectors other)
    (consistent : e.Consistent) (name : String) (payload : Json) :
    (e.configureDetector name payload).2.SameDetectors
      (other.configureDetector name payload).2 := by
  have otherConsistent := same.consistent consistent
  have reach := same.payloadFor? name payload
  have refusals (members : Members) := (same.applyPayload consistent name members).2
  rcases configureDetector_cases e name payload with
    ⟨idle, _, kept⟩ | ⟨members, read, taken, accepted⟩ | ⟨members, fault, read, refused, undone⟩
  · rcases configureDetector_cases other name payload with
      ⟨_, _, kept'⟩ | ⟨members', read', _⟩ | ⟨members', _, read', _⟩
    · rw [kept, kept']
      exact same
    · rw [reach, idle] at read'
      cases read'
    · rw [reach, idle] at read'
      cases read'
  · rcases configureDetector_cases other name payload with
      ⟨idle', _⟩ | ⟨members', read', _, accepted'⟩ | ⟨members', _, read', refused', _⟩
    · rw [reach, read] at idle'
      cases idle'
    · rw [reach, read] at read'
      cases read'
      rw [accepted, accepted']
      exact (same.applyPayload consistent name members).1.clearCache
    · rw [reach, read] at read'
      cases read'
      rw [refusals, taken] at refused'
      cases refused'
  · rcases configureDetector_cases other name payload with
      ⟨idle', _⟩ | ⟨members', read', taken', _⟩ | ⟨members', _, _, _, undone'⟩
    · rw [reach, read] at idle'
      cases idle'
    · rw [reach, read] at read'
      cases read'
      rw [refusals, refused] at taken'
      cases taken'
    · -- Both engines are put back.
      rw [undone, undone']
      have left := (configureDetector_refused consistent undone).1
      have right := (configureDetector_refused otherConsistent undone').1
      exact ((left.symm consistent).trans same).trans right

/-! ### Actions -/

theorem SameDetectors.apply (same : e.SameDetectors other) (consistent : e.Consistent)
    (config : Json) : (e.apply config).2.SameDetectors (other.apply config).2 := by
  rw [apply_snd, apply_snd]
  exact same.configure consistent config

theorem SameDetectors.importText (same : e.SameDetectors other) (consistent : e.Consistent)
    (depth : Nat) (text : String) :
    (e.importText depth text).2.SameDetectors (other.importText depth text).2 := by
  cases read : Json.parse depth text with
  | ok config =>
    rw [importText_of_ok e read, importText_of_ok other read]
    exact same.configure consistent config
  | error fault =>
    rw [importText_of_error e read, importText_of_error other read]
    exact same

theorem SameDetectors.reset (same : e.SameDetectors other) (consistent : e.Consistent) :
    e.reset.SameDetectors other.reset := by
  have ordered := consistent.setOrder defaultOrder
  have defaults := ((same.setOrder defaultOrder).pushThreshold ordered defaultThreshold).setAllowed
    (ordered.pushThreshold defaultThreshold) defaultAllowed
  have names := Registry.names_of_memoryless defaults.memoryless
  apply SameDetectors.clearCache
  apply defaults.withRegistry (defaults.registry.enableAll _)
  rw [Registry.memoryless_enableAll, defaults.memoryless, names, Registry.memoryless_enableAll]

/-- Every action takes engines that differ in memory and cache only to such engines. -/
theorem SameDetectors.after (same : e.SameDetectors other) (consistent : e.Consistent)
    {action : Action} (wellFormed : action.WellFormed) :
    (e.after action).SameDetectors (other.after action) := by
  have otherConsistent := same.consistent consistent
  -- An action that changes memory and cache only takes place on either side of `same`.
  have around {left right : Engine} (before : e.SameDetectors left)
      (behind : other.SameDetectors right) : left.SameDetectors right :=
    ((before.symm consistent).trans same).trans behind
  cases action with
  | register d => exact same.register wellFormed
  | unregister name => exact same.unregister name
  | detect code useCache =>
    exact around (sameDetectors_detect consistent code _)
      (sameDetectors_detect otherConsistent code _)
  | detectAll code =>
    exact around (sameDetectors_detectAll consistent code)
      (sameDetectors_detectAll otherConsistent code)
  | detectWith code name =>
    exact around (sameDetectors_detectWith consistent code name)
      (sameDetectors_detectWith otherConsistent code name)
  | analyze code threshold alternatives fallbacks =>
    exact around (sameDetectors_analyze consistent code threshold alternatives fallbacks)
      (sameDetectors_analyze otherConsistent code threshold alternatives fallbacks)
  | configure config => exact same.configure consistent config
  | apply config => exact same.apply consistent config
  | importText depth text => exact same.importText consistent depth text
  | changeThreshold value => exact (same.pushThreshold consistent value).clearCache
  | changeDetectorThreshold name value =>
    have there : other.registry.isRegistered name = e.registry.isRegistered name :=
      Registry.isRegistered_congr (Registry.names_of_memoryless same.memoryless) name
    simp only [Engine.after, changeDetectorThreshold, there]
    split
    · exact (same.overrideThreshold name value).clearCache
    · exact same
  | changeOrder names => exact (same.setOrder names).clearCache
  | changeEnabled name enabled => exact (same.setEnabled name enabled).clearCache
  | changeAllowed languages => exact (same.setAllowed consistent languages).clearCache
  | configureDetector name payload => exact same.configureDetector consistent name payload
  | reset => exact same.reset consistent
  | advance seconds =>
    simp only [Engine.after, advance]
    cases seconds.toBinary64 with
    | error fault => exact same
    | ok x =>
      exact ⟨same.registry, same.memoryless, same.threshold, same.allowed,
        congrArg (·.add x) same.clock⟩

end Writes

end Engine

end SnippetDetect
