import SnippetDetect.Proofs.Engine.Rollback

/-!
The engines that a session can reach.

`Reachable permitted e` says that `e` comes from a new engine by permitted actions. Every action
with a well-formed detector keeps an engine consistent (`Consistent.after`), so a reachable
engine is consistent (`Reachable.consistent`).
-/

namespace SnippetDetect

/-- An action that brings no detector, or one as its constructors leave it. -/
def Action.WellFormed : Action → Prop
  | .register d => d.WellFormed
  | _ => True

/-- A well-formed action that brings no detector of the user's. -/
def Action.Bundled : Action → Prop
  | .register d => d.WellFormed ∧ d.IsBundled
  | _ => True

theorem Action.Bundled.wellFormed {action : Action} (bundled : action.Bundled) :
    action.WellFormed := by
  cases action with
  | register d => exact bundled.1
  | _ => trivial

namespace Engine

section Actions

variable {e : Engine}

theorem Consistent.begin (consistent : e.Consistent) (c : Changes) : (e.begin c).Consistent :=
  begin_preserves consistent c setOrder pushThreshold setAllowed

theorem Consistent.settle (consistent : e.Consistent) (c : Changes) : (e.settle c).Consistent :=
  (((consistent.begin c).applyPayloads c.payloads).overrideThresholds c.thresholds).clearCache

theorem Consistent.configure (consistent : e.Consistent) (config : Json) :
    (e.configure config).2.Consistent := by
  rcases configure_cases e config with ⟨_, _, shape⟩ | ⟨c, _, _, accepted⟩ | ⟨c, _, _, undone⟩
  · rw [shape]
    exact consistent
  · rw [accepted]
    exact consistent.settle c
  · rw [undone]
    exact (configure_refused consistent undone).1.consistent consistent

theorem apply_snd (e : Engine) (config : Json) : (e.apply config).2 = (e.configure config).2 := by
  unfold apply
  rcases e.configure config with ⟨answer, changed⟩
  cases answer <;> rfl

/-- To import a text is to write the configuration that it says. -/
theorem importText_of_ok (e : Engine) {depth : Nat} {text : String} {config : Json}
    (read : Json.parse depth text = .ok config) :
    (e.importText depth text).2 = (e.configure config).2 := by
  simp only [Engine.importText, read]
  exact apply_snd e config

/-- To import a text that cannot be read changes nothing. -/
theorem importText_of_error (e : Engine) {depth : Nat} {text : String} {fault : Json.Fault}
    (refused : Json.parse depth text = .error fault) : (e.importText depth text).2 = e := by
  cases fault <;> simp only [Engine.importText, refused]

theorem Consistent.apply (consistent : e.Consistent) (config : Json) :
    (e.apply config).2.Consistent := by
  rw [apply_snd]
  exact consistent.configure config

theorem Consistent.importText (consistent : e.Consistent) (depth : Nat) (text : String) :
    (e.importText depth text).2.Consistent := by
  cases read : Json.parse depth text with
  | ok config =>
    rw [importText_of_ok e read]
    exact consistent.configure config
  | error fault =>
    rw [importText_of_error e read]
    exact consistent

theorem Consistent.configureDetector (consistent : e.Consistent) (name : String)
    (payload : Json) : (e.configureDetector name payload).2.Consistent := by
  rcases configureDetector_cases e name payload with
    ⟨_, _, kept⟩ | ⟨members, _, _, accepted⟩ | ⟨members, _, _, _, undone⟩
  · rw [kept]
    exact consistent
  · rw [accepted]
    exact (consistent.applyPayload name members).clearCache
  · rw [undone]
    exact (configureDetector_refused consistent undone).1.consistent consistent

theorem Consistent.reset (consistent : e.Consistent) : e.reset.Consistent := by
  have defaults := ((consistent.setOrder defaultOrder).pushThreshold defaultThreshold).setAllowed
    defaultAllowed
  exact (defaults.withOrder (defaults.registry.enableAll _)
    (Registry.detectors_enableAll _ _)).clearCache

/-- Every action keeps an engine consistent. -/
theorem Consistent.after (consistent : e.Consistent) {action : Action}
    (wellFormed : action.WellFormed) : (e.after action).Consistent := by
  cases action with
  | register d => exact consistent.register wellFormed
  | unregister name => exact consistent.unregister name
  | detect code useCache => exact (sameDetectors_detect consistent code _).consistent consistent
  | detectAll code => exact (sameDetectors_detectAll consistent code).consistent consistent
  | detectWith code name => exact (sameDetectors_detectWith consistent code name).consistent consistent
  | analyze code threshold alternatives fallbacks =>
    exact (sameDetectors_analyze consistent code threshold alternatives fallbacks).consistent
      consistent
  | configure config => exact consistent.configure config
  | apply config => exact consistent.apply config
  | importText depth text => exact consistent.importText depth text
  | changeThreshold value => exact (consistent.pushThreshold value).clearCache
  | changeDetectorThreshold name value =>
    simp only [Engine.after, changeDetectorThreshold]
    split
    · exact (consistent.overrideThreshold name value).clearCache
    · exact consistent
  | changeOrder names => exact (consistent.setOrder names).clearCache
  | changeEnabled name enabled =>
    exact (consistent.withOrder (consistent.registry.setEnabled name enabled)
      (Registry.detectors_setEnabled _ _ _)).clearCache
  | changeAllowed languages => exact (consistent.setAllowed languages).clearCache
  | configureDetector name payload => exact consistent.configureDetector name payload
  | reset => exact consistent.reset
  | advance seconds =>
    simp only [Engine.after, advance]
    cases seconds.toBinary64 with
    | error fault => exact consistent
    | ok x => exact ⟨consistent.registry, consistent.threshold, consistent.allowed, consistent.handed⟩

/-! ### What actions leave alone -/

theorem SameDetectors.bare_eq {other : Engine} (same : e.SameDetectors other) :
    other.registry.bare = e.registry.bare :=
  Registry.bare_of_memoryless same.memoryless

theorem bare_configure (consistent : e.Consistent) (config : Json) :
    (e.configure config).2.registry.bare = e.registry.bare := by
  rcases configure_cases e config with ⟨_, _, shape⟩ | ⟨c, _, _, accepted⟩ | ⟨c, _, _, undone⟩
  · rw [shape]
  · rw [accepted]
    exact ((((Unfinished.refl consistent.registry).begin c).applyPayloads
      c.payloads).overrideThresholds c.thresholds).bare
  · rw [undone]
    exact (configure_refused consistent undone).1.bare_eq

theorem bare_register (consistent : e.Consistent) {d : Detector} (part : d.WellFormed) :
    (e.register d).registry.bare = setEntry d.name d.bare e.registry.bare := by
  have wellFormed := consistent.registry.register (Detector.wellFormed_setAllowed part e.allowed)
  have put : (e.registry.register (d.setAllowed e.allowed)).bare =
      setEntry d.name d.bare e.registry.bare := by
    rw [Registry.bare, show (e.registry.register (d.setAllowed e.allowed)).detectors =
        setEntry (d.setAllowed e.allowed).name (d.setAllowed e.allowed) e.registry.detectors from rfl,
      mapEntries_setEntry, Detector.setAllowed_name, Detector.bare_setAllowed]
    rfl
  unfold Engine.register
  dsimp only
  split
  · exact ((Unfinished.refl wellFormed).overrideThreshold d.name e.threshold).bare.trans put
  · exact put

/-- Only to register and to forget a detector reaches more than memory, allow-lists and gates. -/
theorem bare_after (consistent : e.Consistent) {action : Action}
    (wellFormed : action.WellFormed) :
    (e.after action).registry.bare =
      match action with
      | .register d => setEntry d.name d.bare e.registry.bare
      | .unregister name => eraseEntry name e.registry.bare
      | _ => e.registry.bare := by
  have start := Unfinished.refl consistent.registry
  cases action with
  | register d => exact bare_register consistent wellFormed
  | unregister name =>
    have removed : (e.registry.unregister name).2.bare = eraseEntry name e.registry.bare :=
      mapEntries_eraseEntry Detector.bare name e.registry.detectors
    rw [Engine.after, unregister_snd]
    split <;> exact removed
  | detect code useCache => exact (sameDetectors_detect consistent code _).bare_eq
  | detectAll code => exact (sameDetectors_detectAll consistent code).bare_eq
  | detectWith code name => exact (sameDetectors_detectWith consistent code name).bare_eq
  | analyze code threshold alternatives fallbacks =>
    exact (sameDetectors_analyze consistent code threshold alternatives fallbacks).bare_eq
  | configure config => exact bare_configure consistent config
  | apply config =>
    show (e.apply config).2.registry.bare = _
    rw [apply_snd]
    exact bare_configure consistent config
  | importText depth text =>
    show (e.importText depth text).2.registry.bare = _
    cases read : Json.parse depth text with
    | ok config =>
      rw [importText_of_ok e read]
      exact bare_configure consistent config
    | error fault => rw [importText_of_error e read]
  | changeThreshold value => exact (start.pushThreshold value).bare
  | changeDetectorThreshold name value =>
    show (e.changeDetectorThreshold name value).2.registry.bare = _
    unfold changeDetectorThreshold
    split
    · exact (start.overrideThreshold name value).bare
    · rfl
  | changeOrder names => exact (start.setOrder names).bare
  | changeEnabled name enabled =>
    exact congrArg (mapEntries Detector.bare) (Registry.detectors_setEnabled e.registry name enabled)
  | changeAllowed languages => exact (start.setAllowed languages).bare
  | configureDetector name payload =>
    show (e.configureDetector name payload).2.registry.bare = _
    rcases configureDetector_cases e name payload with
      ⟨_, _, kept⟩ | ⟨members, _, _, accepted⟩ | ⟨members, _, _, _, undone⟩
    · rw [kept]
    · rw [accepted]
      exact (start.applyPayload name members).bare
    · rw [undone]
      exact (configureDetector_refused consistent undone).1.bare_eq
  | reset =>
    have defaults := ((start.setOrder defaultOrder).pushThreshold defaultThreshold).setAllowed
      defaultAllowed
    exact (congrArg (mapEntries Detector.bare) (Registry.detectors_enableAll _ _)).trans
      defaults.bare
  | advance seconds =>
    simp only [Engine.after, advance]
    cases seconds.toBinary64 <;> rfl

end Actions

/-- An engine that permitted actions make of a new one. -/
inductive Reachable (permitted : Action → Prop) : Engine → Prop
  | create {o : Options} {clock : Binary64} {e : Engine} (made : create o clock = .ok e) :
      Reachable permitted e
  | after {e : Engine} {action : Action} (reached : Reachable permitted e)
      (allowed : permitted action) : Reachable permitted (e.after action)

/-- A session of permitted actions stays among the reachable engines. -/
theorem Reachable.run {permitted : Action → Prop} {e : Engine} (reached : Reachable permitted e)
    {actions : List Action} (allowed : ∀ action ∈ actions, permitted action) :
    Reachable permitted (e.run actions) := by
  induction actions generalizing e with
  | nil => exact reached
  | cons action rest ih =>
    exact ih (reached.after (allowed action List.mem_cons_self)) fun other mem =>
      allowed other (List.mem_cons_of_mem _ mem)

/-- What is permitted may be relaxed. -/
theorem Reachable.mono {permitted relaxed : Action → Prop} {e : Engine}
    (reached : Reachable permitted e) (weaker : ∀ action, permitted action → relaxed action) :
    Reachable relaxed e := by
  induction reached with
  | create made => exact .create made
  | after _ allowed ih => exact ih.after (weaker _ allowed)

/-- Reachable engines are consistent. -/
theorem Reachable.consistent {e : Engine} (reached : Reachable Action.WellFormed e) :
    e.Consistent := by
  induction reached with
  | create made => exact consistent_create made
  | after _ allowed ih => exact ih.after allowed

theorem Reachable.consistent_of_bundled {e : Engine} (reached : Reachable Action.Bundled e) :
    e.Consistent :=
  (reached.mono fun _ => Action.Bundled.wellFormed).consistent

/-- Where only bundled detectors are registered, only bundled detectors are found. -/
theorem Reachable.isBundled {e : Engine} (reached : Reachable Action.Bundled e) :
    ∀ name d, e.registry.get? name = some d → d.IsBundled := by
  have all : ∀ entry ∈ e.registry.bare, entry.2.IsBundled := by
    induction reached with
    | create made =>
      obtain ⟨cache, -, rfl⟩ := create_eq made
      intro entry mem
      cases mem
    | @after e action reached allowed ih =>
      rw [bare_after reached.consistent_of_bundled allowed.wellFormed]
      intro entry mem
      cases action with
      | register d =>
        rcases mem_setEntry mem with rfl | old
        · exact (Detector.isBundled_bare d).mpr allowed.2
        · exact ih entry old
      | unregister name => exact ih entry (List.mem_filter.mp mem).1
      | _ => exact ih entry mem
  intro name d found
  rw [← Detector.isBundled_bare]
  exact all (name, d.bare) (List.mem_map_of_mem (mem_of_valueOf? found))

/-- A new engine under the default options. -/
def blank : Engine where
  threshold := clampThreshold 70
  allowed := []
  cache := some { maxSize := 1000, maxAge := 3600 }
  clock := Binary64.zero

theorem create_default : create {} Binary64.zero = .ok blank := rfl

/-- The bundled detectors, each without the data it asks. -/
def plainDetectors : List Detector :=
  [{ name := "pygments", displayName := "", description := "", gate := Binary64.one
     strategy := .lexers .absent },
    { name := "pattern-matching", displayName := "", description := "", gate := Binary64.one
      strategy := .fingerprints ⟨[], []⟩ },
    { name := "ml-model", displayName := "", description := "", gate := Binary64.one
      strategy := .classifier (Classifier.create (.ok none) [] none) }]

theorem bundled_of_mem_plainDetectors {d : Detector} (mem : d ∈ plainDetectors) :
    Action.Bundled (.register d) := by
  simp only [plainDetectors, List.mem_cons, List.not_mem_nil, or_false] at mem
  rcases mem with rfl | rfl | rfl
  · exact ⟨⟨isGate_one, nofun⟩, nofun⟩
  · exact ⟨⟨isGate_one, nofun⟩, nofun⟩
  · refine ⟨⟨isGate_one, ?_⟩, nofun⟩
    intro c same
    cases same
    exact nofun

/-- An engine with the bundled detectors. -/
def plain : Engine := blank.run (plainDetectors.map .register)

theorem reachable_plain : Reachable Action.Bundled plain := by
  refine (Reachable.create create_default).run fun action mem => ?_
  obtain ⟨d, known, rfl⟩ := List.mem_map.mp mem
  exact bundled_of_mem_plainDetectors known

end Engine

end SnippetDetect
