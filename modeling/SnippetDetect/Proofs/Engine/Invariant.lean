import SnippetDetect.Engine.Session
import SnippetDetect.Proofs.Registry
import SnippetDetect.Proofs.Snippet
import SnippetDetect.Proofs.Text.LowerCase

/-!
What holds of every engine that can be reached.

* `Engine.Consistent`: the registry is well formed, the threshold and the allow-list are kept in
  the form in which they are set, and every detector has the allow-list of the engine.
* One lemma for each elementary write says what it does: `pushThreshold_eq`,
  `overrideThreshold_eq`, `routeAllowed_snd`, `applyPayload_of_configurable`.
* `Consistent.register` and its like: every write keeps the engine consistent.
-/

namespace SnippetDetect.Engine

/-! ### Elementary writes -/

/-- A list of languages that was kept is kept as it is. -/
theorem normalLanguages_idempotent (languages : List String) :
    normalLanguages (normalLanguages languages) = normalLanguages languages := by
  rw [normalLanguages, normalLanguages, List.map_map]
  apply List.map_congr_left
  intro language _
  exact Text.normalName_idempotent language

theorem pushThreshold_eq (e : Engine) (value : Number) :
    ∃ gate, gateOfThreshold (clampThreshold value) = .ok gate ∧
      e.pushThreshold value =
        { e with
          threshold := clampThreshold value
          registry := e.registry.mapDetectors fun d => { d with gate } } := by
  obtain ⟨gate, made⟩ := gateOfThreshold_clampThreshold value
  exact ⟨gate, made, by simp only [pushThreshold, made]⟩

theorem overrideThreshold_eq {e : Engine} {name : String} {d : Detector}
    (found : e.registry.get? name = some d) (value : Number) :
    ∃ gate, gateOfThreshold (clampThreshold value) = .ok gate ∧
      e.overrideThreshold name value = { e with registry := e.registry.put { d with gate } } := by
  obtain ⟨gate, made⟩ := gateOfThreshold_clampThreshold value
  refine ⟨gate, made, ?_⟩
  simp only [overrideThreshold, found, Detector.setThreshold, made, Except.map]

theorem get?_setAllowed (e : Engine) (languages : List String) (name : String) :
    (e.setAllowed languages).registry.get? name =
      (e.registry.get? name).map fun d => d.setAllowed (normalLanguages languages) :=
  Registry.get?_mapDetectors e.registry _ name

/-- An allow-list that is set is the one that detectors have. -/
theorem handed_setAllowed {e : Engine} {languages : List String} {name : String} {d : Detector}
    (found : (e.setAllowed languages).registry.get? name = some d) :
    d.setAllowed (normalLanguages languages) = d := by
  rw [get?_setAllowed] at found
  obtain ⟨old, -, rfl⟩ := Option.map_eq_some_iff.mp found
  exact Detector.setAllowed_setAllowed old _ _

theorem unregister_snd (e : Engine) (name : String) :
    (e.unregister name).2 =
      if e.registry.isRegistered name then
        ({ e with registry := (e.registry.unregister name).2 } : Engine).clearCache
      else { e with registry := (e.registry.unregister name).2 } := rfl

theorem overrideThreshold_of_none {e : Engine} {name : String}
    (absent : e.registry.get? name = none) (value : Number) :
    e.overrideThreshold name value = e := by
  simp only [overrideThreshold, absent]

/-- The allow-list that a payload for a detector has for the engine. -/
def routedList? (d : Detector) (payload : Members) : Option (List String) :=
  if d.isSelectable then (valueOf? payload "enabled_languages").bind Json.stringList? else none

theorem routeAllowed_snd (e : Engine) (d : Detector) (payload : Members) :
    (e.routeAllowed d payload).2 = (routedList? d payload).elim e e.setAllowed := by
  unfold routeAllowed routedList?
  split
  · next value selectable found =>
    rw [if_pos selectable, found, Option.bind_some]
    cases value.stringList? <;> rfl
  · next other =>
    cases selectable : d.isSelectable with
    | false => rfl
    | true =>
      cases found : valueOf? payload "enabled_languages" with
      | none => rfl
      | some value => exact absurd found (other value selectable)

/-- What is left of a routed payload is the payload without the allow-list. -/
theorem valueOf?_routeAllowed (e : Engine) (d : Detector) (payload : Members) (name : String) :
    valueOf? (e.routeAllowed d payload).1 name =
      if d.isSelectable = true ∧ name = "enabled_languages" then none
      else valueOf? payload name := by
  unfold routeAllowed
  split
  · next value selectable found => simp [valueOf?_eraseEntry, selectable]
  · next other =>
    split
    · next routed =>
      obtain ⟨selectable, rfl⟩ := routed
      cases found : valueOf? payload "enabled_languages" with
      | none => rfl
      | some value => exact absurd found (other value selectable)
    · rfl

theorem routeAllowed_routed (e : Engine) (d : Detector) (payload : Members)
    (selectable : d.isSelectable = true) :
    valueOf? (e.routeAllowed d payload).1 "enabled_languages" = none := by
  rw [valueOf?_routeAllowed, if_pos ⟨selectable, rfl⟩]

/-! ### Consistent engines -/

/-- An engine as its own actions leave it. -/
structure Consistent (e : Engine) : Prop where
  registry : e.registry.WellFormed
  threshold : clampThreshold e.threshold = e.threshold
  allowed : normalLanguages e.allowed = e.allowed
  handed : ∀ name d, e.registry.get? name = some d → d.setAllowed e.allowed = d

theorem Consistent.within_threshold {e : Engine} (consistent : e.Consistent) :
    e.threshold.within 0 100 = true :=
  consistent.threshold ▸ within_clampThreshold e.threshold

/-- A new engine has no detectors, and nothing in its cache, if it has one. -/
theorem create_eq {o : Options} {clock : Binary64} {e : Engine} (made : create o clock = .ok e) :
    ∃ cache : Option Cache,
      ((∀ c, cache = some c → c.entries = []) ∧ cache.isSome = o.useCache) ∧
      e = { threshold := clampThreshold o.threshold, allowed := normalLanguages o.allowed, cache,
            clock } := by
  unfold create at made
  by_cases useCache : o.useCache
  · cases room : Cache.create? o.cacheSize o.cacheAge with
    | none =>
      simp [useCache, room, bind, Except.bind, throw, throwThe, MonadExceptOf.throw] at made
    | some cache =>
      simp only [useCache, room, bind, Except.bind, pure, Except.pure, if_true] at made
      cases made
      refine ⟨some cache, ⟨fun c same => ?_, useCache.symm⟩, rfl⟩
      cases same
      unfold Cache.create? at room
      split at room
      · cases room
      · cases room
        rfl
  · simp only [useCache, bind, Except.bind, pure, Except.pure] at made
    cases made
    exact ⟨none, ⟨nofun, by simpa using useCache⟩, rfl⟩

theorem isSome_cache_create {o : Options} {clock : Binary64} {e : Engine}
    (made : create o clock = .ok e) : e.cache.isSome = o.useCache := by
  obtain ⟨cache, ⟨-, has⟩, rfl⟩ := create_eq made
  exact has

theorem consistent_create {o : Options} {clock : Binary64} {e : Engine}
    (made : create o clock = .ok e) : e.Consistent := by
  obtain ⟨cache, -, rfl⟩ := create_eq made
  exact ⟨Registry.wellFormed_empty, clampThreshold_idempotent _, normalLanguages_idempotent _,
    fun name d found => by simp [Registry.get?] at found⟩

section Consistent

variable {e : Engine}

/-- Consistency does not look at memory, cache and clock. -/
theorem Consistent.of_memoryless (consistent : e.Consistent) {other : Engine}
    (registry : other.registry.WellFormed)
    (same : other.registry.memoryless = e.registry.memoryless)
    (threshold : other.threshold = e.threshold) (allowed : other.allowed = e.allowed) :
    other.Consistent where
  registry := registry
  threshold := by rw [threshold, consistent.threshold]
  allowed := by rw [allowed, consistent.allowed]
  handed := by
    intro name d found
    have there : (e.registry.get? name).map Detector.memoryless = some d.memoryless := by
      rw [← Registry.get?_memoryless, ← same, Registry.get?_memoryless, found, Option.map_some]
    obtain ⟨old, foundOld, forgot⟩ := Option.map_eq_some_iff.mp there
    rw [allowed]
    exact Detector.setAllowed_eq_self_congr forgot.symm (consistent.handed name old foundOld)

theorem Consistent.clearCache (consistent : e.Consistent) : e.clearCache.Consistent :=
  ⟨consistent.registry, consistent.threshold, consistent.allowed, consistent.handed⟩

theorem Consistent.withOrder (consistent : e.Consistent) {registry : Registry}
    (wellFormed : registry.WellFormed) (same : registry.detectors = e.registry.detectors) :
    ({ e with registry } : Engine).Consistent where
  registry := wellFormed
  threshold := consistent.threshold
  allowed := consistent.allowed
  handed := by
    intro name d found
    rw [Registry.get?, same] at found
    exact consistent.handed name d found

theorem Consistent.setOrder (consistent : e.Consistent) (names : List String) :
    (e.setOrder names).Consistent :=
  consistent.withOrder (consistent.registry.setOrder names) rfl

theorem Consistent.setAllowed (consistent : e.Consistent) (languages : List String) :
    (e.setAllowed languages).Consistent where
  registry := consistent.registry.mapDetectors (fun d => Detector.setAllowed_name d _)
    fun _ part => Detector.wellFormed_setAllowed part _
  threshold := consistent.threshold
  allowed := normalLanguages_idempotent languages
  handed _ _ found := handed_setAllowed found

theorem Consistent.pushThreshold (consistent : e.Consistent) (value : Number) :
    (e.pushThreshold value).Consistent := by
  obtain ⟨gate, made, pushed⟩ := pushThreshold_eq e value
  have part (d : Detector) (old : d.WellFormed) : ({ d with gate } : Detector).WellFormed :=
    Detector.wellFormed_withGate old (isGate_of_gateOfThreshold made)
  rw [pushed]
  refine ⟨?_, clampThreshold_idempotent value, consistent.allowed, ?_⟩
  · exact consistent.registry.mapDetectors (f := fun d => { d with gate }) (fun _ => rfl) part
  · intro name d found
    rw [Registry.get?_mapDetectors] at found
    obtain ⟨old, foundOld, rfl⟩ := Option.map_eq_some_iff.mp found
    exact Detector.withGate_setAllowed_eq_self (consistent.handed name old foundOld) gate

/-- A registered detector may be replaced by one with the allow-list of the engine. -/
theorem Consistent.put (consistent : e.Consistent) {d : Detector} (part : d.WellFormed)
    (registered : e.registry.isRegistered d.name = true)
    (handed : d.setAllowed e.allowed = d) :
    ({ e with registry := e.registry.put d } : Engine).Consistent where
  registry := consistent.registry.put registered part
  threshold := consistent.threshold
  allowed := consistent.allowed
  handed := by
    intro name other found
    rw [Registry.get?_put] at found
    split at found
    · cases found
      exact handed
    · exact consistent.handed name other found

theorem Consistent.overrideThreshold (consistent : e.Consistent) (name : String)
    (value : Number) : (e.overrideThreshold name value).Consistent := by
  cases found : e.registry.get? name with
  | none =>
    rw [overrideThreshold_of_none found]
    exact consistent
  | some d =>
    obtain ⟨gate, made, overridden⟩ := overrideThreshold_eq found value
    have here : d.name = name := consistent.registry.name_of_get? found
    rw [overridden]
    apply consistent.put
    · exact Detector.wellFormed_withGate (consistent.registry.of_get? found)
        (isGate_of_gateOfThreshold made)
    · exact Registry.isRegistered_of_get? (here ▸ found)
    · exact Detector.withGate_setAllowed_eq_self (consistent.handed name d found) gate

theorem Consistent.register (consistent : e.Consistent) {d : Detector} (part : d.WellFormed) :
    (e.register d).Consistent := by
  have registered : ({ e with registry := e.registry.register (d.setAllowed e.allowed) } :
      Engine).Consistent := by
    refine ⟨?_, consistent.threshold, consistent.allowed, ?_⟩
    · exact consistent.registry.register (Detector.wellFormed_setAllowed part e.allowed)
    · intro name other found
      rw [Registry.get?_register] at found
      split at found
      · cases found
        exact Detector.setAllowed_setAllowed d _ _
      · exact consistent.handed name other found
  unfold Engine.register
  dsimp only
  split
  · exact (registered.overrideThreshold d.name e.threshold).clearCache
  · exact registered.clearCache

theorem Consistent.unregister (consistent : e.Consistent) (name : String) :
    (e.unregister name).2.Consistent := by
  have removed : ({ e with registry := (e.registry.unregister name).2 } : Engine).Consistent := by
    refine ⟨consistent.registry.unregister name, consistent.threshold, consistent.allowed, ?_⟩
    intro other d found
    rw [Registry.get?_unregister] at found
    split at found
    · cases found
    · exact consistent.handed other d found
  rw [unregister_snd]
  split
  · exact removed.clearCache
  · exact removed

theorem Consistent.route (consistent : e.Consistent) (d : Detector) (payload : Members) :
    (e.routeAllowed d payload).2.Consistent := by
  rw [routeAllowed_snd]
  cases routedList? d payload with
  | none => exact consistent
  | some languages => exact consistent.setAllowed languages

theorem get?_route (e : Engine) (d : Detector) (payload : Members) (name : String) :
    (e.routeAllowed d payload).2.registry.get? name =
      (e.registry.get? name).map fun d' =>
        (routedList? d payload).elim d' fun languages => d'.setAllowed (normalLanguages languages) := by
  rw [routeAllowed_snd]
  cases routedList? d payload with
  | none => simp
  | some languages => exact get?_setAllowed e languages name

/-- How a refusal is told. -/
def refusal? (name : String) : Except Fault Unit → Option ChangeFault
  | .ok () => none
  | .error fault => some (.refused name fault.message)

/-- A name is that of a configurable detector, or of none. -/
theorem configurable_or_other (e : Engine) (name : String) :
    (∃ d, e.registry.get? name = some d ∧ d.isConfigurable = true) ∨
      ∀ d, e.registry.get? name = some d → d.isConfigurable = false := by
  by_cases target : ∃ d, e.registry.get? name = some d ∧ d.isConfigurable = true
  · exact .inl target
  · right
    intro d found
    cases configurable : d.isConfigurable with
    | false => rfl
    | true => exact absurd ⟨d, found, configurable⟩ target

/-- What a payload does to a configurable detector: its allow-list is routed first, and what is left
goes to the detector as the routing left it. -/
theorem applyPayload_of_configurable {e : Engine} {name : String} {d : Detector}
    (found : e.registry.get? name = some d) (configurable : d.isConfigurable = true)
    (payload : Members) :
    ∃ routed, (e.routeAllowed d payload).2.registry.get? name = some routed ∧
      (routed.isSelectable = true → valueOf? (e.routeAllowed d payload).1 "enabled_languages" = none) ∧
      e.applyPayload name payload =
        (refusal? name (routed.configure (e.routeAllowed d payload).1).1,
          { (e.routeAllowed d payload).2 with
            registry := (e.routeAllowed d payload).2.registry.put
              (routed.configure (e.routeAllowed d payload).1).2 }) := by
  have there := get?_route e d payload name
  rw [found, Option.map_some] at there
  refine ⟨_, there, ?_, ?_⟩
  · intro selectable
    apply routeAllowed_routed
    revert selectable
    cases routedList? d payload <;> simp
  · simp only [applyPayload, found, configurable, if_true, there, Option.getD_some]
    split
    · next outcome => rw [outcome, refusal?]
    · next outcome => rw [outcome, refusal?]

theorem applyPayload_of_other {e : Engine} {name : String}
    (other : ∀ d, e.registry.get? name = some d → d.isConfigurable = false) (payload : Members) :
    e.applyPayload name payload = (none, e) := by
  cases found : e.registry.get? name with
  | none => simp only [applyPayload, found]
  | some d => simp [applyPayload, found, other d found]

theorem applyPayloads_cons (e : Engine) (entry : String × Members)
    (rest : List (String × Members)) :
    e.applyPayloads (entry :: rest) =
      ((e.applyPayload entry.1 entry.2).1.toList ++
          ((e.applyPayload entry.1 entry.2).2.applyPayloads rest).1,
        ((e.applyPayload entry.1 entry.2).2.applyPayloads rest).2) := rfl

theorem Consistent.applyPayload (consistent : e.Consistent) (name : String) (payload : Members) :
    (e.applyPayload name payload).2.Consistent := by
  rcases e.configurable_or_other name with ⟨d, found, configurable⟩ | other
  · obtain ⟨routed, there, unlisted, after⟩ :=
      applyPayload_of_configurable found configurable payload
    have route := consistent.route d payload
    have here : routed.name = name := route.registry.name_of_get? there
    rw [after]
    apply route.put
    · exact Detector.wellFormed_configure (route.registry.of_get? there) _
    · rw [Detector.configure_name]
      exact Registry.isRegistered_of_get? (here ▸ there)
    · exact Detector.configure_setAllowed_eq_self unlisted (route.handed name routed there)
  · rw [applyPayload_of_other other]
    exact consistent

theorem Consistent.applyPayloads (consistent : e.Consistent)
    (payloads : List (String × Members)) : (e.applyPayloads payloads).2.Consistent := by
  induction payloads generalizing e with
  | nil => exact consistent
  | cons entry rest ih => exact ih (consistent.applyPayload entry.1 entry.2)

theorem Consistent.overrideThresholds (consistent : e.Consistent)
    (thresholds : List (String × Number)) :
    (thresholds.foldl (fun e (name, value) => e.overrideThreshold name value) e).Consistent := by
  induction thresholds generalizing e with
  | nil => exact consistent
  | cons entry rest ih => exact ih (consistent.overrideThreshold entry.1 entry.2)

/-! ### Detection -/

/-- What the sequential protocol answers, as a function of the engine before it starts. -/
def verdict (e : Engine) (code : Snippet) : Option Detection :=
  if code.isBlank then none else e.registry.verdict e.threshold code

theorem detectFresh_fst (consistent : e.Consistent) (code : Snippet) :
    (e.detectFresh code).1 = e.verdict code := by
  unfold detectFresh verdict
  split
  · rfl
  · exact Registry.firstAccepted_fst e.threshold code e.registry.order consistent.registry

/-- Engines that are alike but for memory, cache and clock give the same verdicts. -/
theorem verdict_congr {other : Engine} (wellFormed : e.registry.WellFormed)
    (otherWellFormed : other.registry.WellFormed)
    (same : other.registry.memoryless = e.registry.memoryless)
    (threshold : other.threshold = e.threshold) (code : Snippet) :
    other.verdict code = e.verdict code := by
  rw [verdict, verdict, threshold, ← Registry.verdict_memoryless otherWellFormed, same,
    Registry.verdict_memoryless wellFormed]

/-- An engine with another registry of the same detectors in the same settings. -/
structure SameDetectors (e other : Engine) : Prop where
  registry : other.registry.WellFormed
  memoryless : other.registry.memoryless = e.registry.memoryless
  threshold : other.threshold = e.threshold
  allowed : other.allowed = e.allowed
  clock : other.clock = e.clock

theorem SameDetectors.refl (consistent : e.Consistent) : e.SameDetectors e :=
  ⟨consistent.registry, rfl, rfl, rfl, rfl⟩

theorem SameDetectors.trans {middle last : Engine} (first : e.SameDetectors middle)
    (second : middle.SameDetectors last) : e.SameDetectors last :=
  ⟨second.registry, second.memoryless.trans first.memoryless,
    second.threshold.trans first.threshold, second.allowed.trans first.allowed,
    second.clock.trans first.clock⟩

theorem SameDetectors.consistent {other : Engine} (same : e.SameDetectors other)
    (consistent : e.Consistent) : other.Consistent :=
  consistent.of_memoryless same.registry same.memoryless same.threshold same.allowed

theorem SameDetectors.verdict {other : Engine} (same : e.SameDetectors other)
    (consistent : e.Consistent) (code : Snippet) : other.verdict code = e.verdict code :=
  verdict_congr consistent.registry same.registry same.memoryless same.threshold code

theorem sameDetectors_withRegistry {registry : Registry} (wellFormed : registry.WellFormed)
    (same : registry.memoryless = e.registry.memoryless) :
    e.SameDetectors { e with registry } :=
  ⟨wellFormed, same, rfl, rfl, rfl⟩

theorem sameDetectors_withCache (consistent : e.Consistent) (cache : Option Cache) :
    e.SameDetectors { e with cache } :=
  ⟨consistent.registry, rfl, rfl, rfl, rfl⟩

theorem sameDetectors_detectFresh (consistent : e.Consistent) (code : Snippet) :
    e.SameDetectors (e.detectFresh code).2 := by
  unfold detectFresh
  split
  · exact .refl consistent
  · have sequence := Registry.firstAccepted_snd e.threshold code e.registry.order
      consistent.registry
    exact sameDetectors_withRegistry sequence.1 sequence.2

@[simp] theorem cache_detectFresh (e : Engine) (code : Snippet) :
    (e.detectFresh code).2.cache = e.cache := by
  unfold detectFresh
  split <;> rfl

@[simp] theorem cache_pushThreshold (e : Engine) (value : Number) :
    (e.pushThreshold value).cache = e.cache := by
  unfold pushThreshold
  dsimp only
  split <;> rfl

@[simp] theorem cache_overrideThreshold (e : Engine) (name : String) (value : Number) :
    (e.overrideThreshold name value).cache = e.cache := by
  unfold overrideThreshold
  split
  · rfl
  · split <;> rfl

@[simp] theorem cache_detectAll (e : Engine) (code : Snippet) :
    (e.detectAll code).2.cache = e.cache := by
  unfold detectAll
  split <;> rfl

theorem sameDetectors_detectAll (consistent : e.Consistent) (code : Snippet) :
    e.SameDetectors (e.detectAll code).2 := by
  unfold detectAll
  split
  · exact .refl consistent
  · have all := Registry.askEach_all code consistent.registry
    exact sameDetectors_withRegistry all.1 all.2

theorem sameDetectors_detectWith (consistent : e.Consistent) (code : Snippet) (name : String) :
    e.SameDetectors (e.detectWith code name).2 := by
  unfold detectWith
  split
  · exact .refl consistent
  · next d found =>
    split
    · exact .refl consistent
    · have here := consistent.registry.get?_name found
      exact sameDetectors_withRegistry (consistent.registry.ask here code)
        (Registry.memoryless_ask here code)

theorem sameDetectors_analyze (consistent : e.Consistent) (code : Snippet)
    (threshold : Option Number) (alternatives fallbacks : Bool) :
    e.SameDetectors (e.analyze code threshold alternatives fallbacks).2 := by
  have primary := sameDetectors_detectFresh consistent code
  exact primary.trans (sameDetectors_detectAll (primary.consistent consistent) code)

theorem sameDetectors_lookUp (consistent : e.Consistent) (key : String) :
    e.SameDetectors (e.lookUp key).2 := by
  unfold lookUp
  split
  · exact .refl consistent
  · exact sameDetectors_withCache consistent _

theorem sameDetectors_store (consistent : e.Consistent) (key : String)
    (answer : Option Detection) : e.SameDetectors (e.store key answer) := by
  cases answer with
  | none => exact .refl consistent
  | some d => exact sameDetectors_withCache consistent _

/-- A detection has a key, its own text, or needs none, or is refused. -/
theorem key?_cases (e : Engine) (code : Snippet) (useCache : Bool) :
    (∃ key, e.key? code useCache = .ok key ∧ ∀ text, key = some text → code = text) ∨
      ∃ error, code.encode = .error error ∧
        e.key? code useCache = .error (.unencodable error) := by
  unfold key?
  split
  · cases encoded : code.encode with
    | ok text =>
      refine .inl ⟨some text, rfl, ?_⟩
      rintro _ ⟨⟩
      exact Snippet.encode_eq_ok_iff.mp encoded
    | error error => exact .inr ⟨error, rfl, rfl⟩
  · exact .inl ⟨none, rfl, nofun⟩

/-- A text always gets an answer. -/
theorem exists_detect_text (e : Engine) (text : String) (useCache : Bool) :
    ∃ answer, (e.detect text useCache).1 = .ok answer := by
  rcases e.key?_cases text useCache with ⟨key, has, -⟩ | ⟨error, refused, -⟩
  · exact ⟨_, by rw [detect, has]⟩
  · rw [Snippet.encode_ofString] at refused
    cases refused

theorem sameDetectors_detectUnder (consistent : e.Consistent) (code : Snippet)
    (key : Option String) : e.SameDetectors (e.detectUnder code key).2 := by
  cases key with
  | none => exact sameDetectors_detectFresh consistent code
  | some key =>
    have looked := sameDetectors_lookUp consistent key
    rw [detectUnder]
    revert looked
    rcases e.lookUp key with ⟨found, after⟩
    intro looked
    cases found with
    | some d => exact looked
    | none =>
      have consistentAfter := looked.consistent consistent
      have fresh := sameDetectors_detectFresh consistentAfter code
      exact looked.trans (fresh.trans
        (sameDetectors_store (fresh.consistent consistentAfter) key _))

theorem sameDetectors_detect (consistent : e.Consistent) (code : Snippet) (useCache : Bool) :
    e.SameDetectors (e.detect code useCache).2 := by
  unfold detect
  split
  · exact .refl consistent
  · exact sameDetectors_detectUnder consistent code _

end Consistent

end SnippetDetect.Engine
