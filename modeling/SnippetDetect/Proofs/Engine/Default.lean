import SnippetDetect.Engine.Default
import SnippetDetect.Proofs.Detector.Loading
import SnippetDetect.Proofs.Engine.BulkWrite
import SnippetDetect.Proofs.Engine.Export
import SnippetDetect.Proofs.Engine.Reset
import SnippetDetect.Proofs.Language.Format

/-!
The default engine, whatever its settings.

Two ways lead to the settings of the default engine: it is made under them, and they are written over
others later. Both end at the same engine, the bundled detectors dressed in what was set last
(`Bundle.engine`): a new one in `ofSettings_eq`, a changed one in `apply_engine`. As far as it is up
to the bundled languages, a new one is always made (`exists_bundleOf`).
-/

namespace SnippetDetect

/-! ### Configurations for the engine as a whole -/

namespace Changes

/-- The members of a configuration for the engine as a whole. -/
def membersOf (order : Option (List String)) (threshold : Option Number)
    (allowed : Option (List String)) : Members :=
  (order.map fun names => ("detection_order", Json.ofStrings names)).toList ++
    (threshold.map fun value => ("confidence_threshold", Json.num value)).toList ++
    (allowed.map fun languages => ("enabled_pattern_languages", Json.ofStrings languages)).toList

/-- A member that is written in the right shape is read back. -/
theorem field_eq {α : Type} {members : Members} {name : String} {read : Json → Option α}
    {part : Option α} {write : α → Json} (there : valueOf? members name = part.map write)
    (back : ∀ value, read (write value) = some value) (fault : ChangeFault) :
    field members name read fault = (part, []) := by
  rw [field, there]
  cases part with
  | none => rfl
  | some value => simp only [Option.map_some, back]

theorem perDetector_eq {α : Type} {members : Members} {name : String}
    (absent : valueOf? members name = none) (read : Json → Option α) (fault : ChangeFault)
    (faultOf : String → ChangeFault) :
    perDetector members name read fault faultOf = ([], []) := by
  rw [perDetector, absent]

theorem ofJson_membersOf (order : Option (List String)) (threshold : Option Number)
    (allowed : Option (List String)) :
    ofJson (.obj (membersOf order threshold allowed)) = .ok { order, threshold, allowed } := by
  have orderIn : valueOf? (membersOf order threshold allowed) "detection_order" =
      order.map Json.ofStrings := by
    cases order <;> cases threshold <;> cases allowed <;> rfl
  have thresholdIn : valueOf? (membersOf order threshold allowed) "confidence_threshold" =
      threshold.map Json.num := by
    cases order <;> cases threshold <;> cases allowed <;> rfl
  have allowedIn : valueOf? (membersOf order threshold allowed) "enabled_pattern_languages" =
      allowed.map Json.ofStrings := by
    cases order <;> cases threshold <;> cases allowed <;> rfl
  have payloads : valueOf? (membersOf order threshold allowed) "detector_configs" = none := by
    cases order <;> cases threshold <;> cases allowed <;> rfl
  have thresholds : valueOf? (membersOf order threshold allowed) "detector_thresholds" = none := by
    cases order <;> cases threshold <;> cases allowed <;> rfl
  have number (value : Number) : (Json.num value).number? = some value := rfl
  simp only [ofJson, field_eq orderIn Json.stringList?_ofStrings, field_eq thresholdIn number,
    field_eq allowedIn Json.stringList?_ofStrings,
    perDetector_eq payloads, perDetector_eq thresholds, List.append_nil]

end Changes

/-- What is set of an engine as a whole. -/
structure Setup where
  order : List String
  threshold : Number
  allowed : List String

namespace Engine

/-- The gate that a threshold of any size stands for. -/
def thresholdGate (value : Number) : Binary64 := (thresholdGate? value).getD Binary64.one

/-- The detectors of the default engine, its cache and its clock. -/
structure Bundle where
  lexers : Detector
  languages : Detector
  cache : Option Cache
  clock : Binary64

/-- What is amiss with an engine that has no detector enabled. -/
def noneEnabled : List String :=
  ["Orchestrator configuration is invalid", "No detectors are enabled"]

/-- The names of the detectors of the default engine. -/
def bundledNames : List String := ["pygments", "pattern-matching"]

namespace Bundle

/-- The default engine as it was set up. -/
def engine (b : Bundle) (w : Setup) : Engine where
  registry := {
    detectors := [
      ("pygments", b.lexers.dress (normalLanguages w.allowed) (thresholdGate w.threshold)),
      ("pattern-matching", b.languages.dress (normalLanguages w.allowed) (thresholdGate w.threshold))]
    order := (w.order.filter bundledNames.contains).eraseDups }
  threshold := clampThreshold w.threshold
  allowed := normalLanguages w.allowed
  cache := b.cache
  clock := b.clock

variable (b : Bundle) (w : Setup)

theorem isRegistered_engine (name : String) :
    (b.engine w).registry.isRegistered name = bundledNames.contains name := by
  rw [Bool.eq_iff_iff, Registry.isRegistered_iff, List.contains_iff_mem]
  rfl

theorem setOrder_engine (names : List String) :
    (b.engine w).setOrder names = b.engine { w with order := names } := by
  have order := Registry.setOrder_order (b.engine w).registry names
  rw [funext (b.isRegistered_engine w)] at order
  exact congrArg (fun order => { b.engine w with
    registry := ⟨(b.engine w).registry.detectors, order⟩ }) order

theorem pushThreshold_engine (value : Number) :
    (b.engine w).pushThreshold value = b.engine { w with threshold := value } := by
  obtain ⟨gate, made, pushed⟩ := pushThreshold_eq (b.engine w) value
  have same : gate = thresholdGate value := by
    rw [thresholdGate, thresholdGate?_eq made, Option.getD_some]
  rw [pushed, same]
  rfl

theorem setAllowed_engine (languages : List String) :
    (b.engine w).setAllowed languages = b.engine { w with allowed := languages } := by
  simp only [setAllowed, Registry.mapDetectors, engine, List.map_cons, List.map_nil,
    Detector.setAllowed_dress]

/-- What is written is set, and what is not written stays. -/
theorem write_engine (fresh : b.cache.map Cache.clear = b.cache) (order : Option (List String))
    (threshold : Option Number) (allowed : Option (List String)) :
    (b.engine w).write { order, threshold, allowed } =
      (.ok (), b.engine ⟨order.getD w.order, threshold.getD w.threshold,
        allowed.getD w.allowed⟩) := by
  have cleared (w : Setup) : (b.engine w).clearCache = b.engine w :=
    congrArg (fun cache => { b.engine w with cache }) fresh
  cases order <;> cases threshold <;> cases allowed <;>
    simp [write, applyPayloads, setOrder_engine, pushThreshold_engine, setAllowed_engine, cleared]

/-- The only thing that can be amiss is that no detector is enabled. -/
theorem issues_engine : (b.engine w).issues =
    if (b.engine w).registry.order = [] then noneEnabled else [] := by
  have threshold : (b.engine w).threshold.within 0 100 = true := within_clampThreshold w.threshold
  have detectors : (b.engine w).registry.detectors.isEmpty = false := rfl
  have size : (b.engine w).registry.size = 2 := rfl
  cases order : (b.engine w).registry.order <;>
    simp [issues, canDetect, Registry.isValid, threshold, detectors, size, order, noneEnabled]

/-- To write a configuration for the engine as a whole succeeds when it leaves a detector enabled. -/
theorem apply_engine (fresh : b.cache.map Cache.clear = b.cache) (order : Option (List String))
    (threshold : Option Number) (allowed : Option (List String)) :
    (b.engine w).apply (.obj (Changes.membersOf order threshold allowed)) =
      let e := b.engine ⟨order.getD w.order, threshold.getD w.threshold, allowed.getD w.allowed⟩
      (⟨e.validate.isValid, e.issues, e.validate.warnings⟩, e) := by
  rw [Engine.apply, Engine.configure, Changes.ofJson_membersOf]
  simp only [b.write_engine w fresh]
  rfl

end Bundle

/-! ### A new engine -/

/-- The cache that settings ask for. -/
def cacheOf (s : Settings) : Except Fault (Option Cache) :=
  (create { useCache := s.useCache, cacheSize := s.cacheSize, cacheAge := s.cacheAge }
    Binary64.zero).map (·.cache)

/-- The detectors and the cache of the default engine under some settings. -/
def bundleOf (s : Settings) (lexers : Lexers) (depth : Nat) (fs : Files) (clock : Binary64) :
    Except Fault Bundle := do
  let cache ← cacheOf s
  let lexers ← Detector.ofLexers lexers Detector.usualGate
  let languages ← (s.languages depth fs).mapError .catalog
  let languages ← Detector.ofLanguages (languages.map (·.2)) Detector.languagesGate []
  return ⟨lexers, languages, cache, clock⟩

theorem create_engineOptions (s : Settings) (clock : Binary64) :
    create s.engineOptions clock = (cacheOf s).map fun cache =>
      { threshold := clampThreshold s.threshold, allowed := normalLanguages s.allowed, cache
        clock } := by
  unfold cacheOf create Settings.engineOptions
  cases s.useCache with
  | false => rfl
  | true => cases Cache.create? s.cacheSize s.cacheAge <;> rfl

/-- A detector under a new name comes last and is dressed as the engine is. -/
theorem register_new {e : Engine} {d : Detector} (new : e.registry.isRegistered d.name = false)
    (outside : e.registry.isEnabled d.name = false) (fresh : e.cache.map Cache.clear = e.cache) :
    e.register d = { e with registry := ⟨
      e.registry.detectors ++ [(d.name, d.dress e.allowed (thresholdGate e.threshold))],
      e.registry.order ++ [d.name]⟩ } := by
  have absent : d.name ∉ entryNames e.registry.detectors := by
    intro mem
    rw [Registry.isRegistered_iff.mpr mem] at new
    cases new
  have registered : e.registry.register (d.setAllowed e.allowed) =
      ⟨setEntry d.name (d.setAllowed e.allowed) e.registry.detectors,
        e.registry.order ++ [d.name]⟩ := by
    simp [Registry.register, Registry.put, new, outside]
  obtain ⟨r, isRegistered⟩ : ∃ r, r = e.registry.register (d.setAllowed e.allowed) := ⟨_, rfl⟩
  have found : r.get? d.name = some (d.setAllowed e.allowed) := by
    rw [isRegistered, Registry.get?_register, if_pos (Detector.setAllowed_name ..).symm]
  obtain ⟨gate, made, overridden⟩ :=
    overrideThreshold_eq (e := { e with registry := r }) found e.threshold
  have same : gate = thresholdGate e.threshold := by
    rw [thresholdGate, thresholdGate?_eq made, Option.getD_some]
  have put : r.put (d.dress e.allowed (thresholdGate e.threshold)) =
      ⟨e.registry.detectors ++ [(d.name, d.dress e.allowed (thresholdGate e.threshold))],
        e.registry.order ++ [d.name]⟩ := by
    rw [isRegistered, registered, Registry.put, Detector.dress_name, setEntry_setEntry,
      setEntry_of_not_mem absent]
  unfold register
  simp only [new, ← isRegistered, overridden, same, Bool.not_false, if_true]
  show { e with
    registry := r.put (d.dress e.allowed (thresholdGate e.threshold))
    cache := e.cache.map Cache.clear } = _
  rw [put, fresh]

/-- What every bundle is like. -/
structure Bundle.Sound (b : Bundle) : Prop where
  lexers : b.lexers.name = "pygments"
  languages : b.languages.name = "pattern-matching"
  fresh : b.cache.map Cache.clear = b.cache

theorem fresh_cacheOf {s : Settings} {cache : Option Cache} (made : cacheOf s = .ok cache) :
    cache.map Cache.clear = cache := by
  unfold cacheOf at made
  cases created : create { useCache := s.useCache, cacheSize := s.cacheSize, cacheAge := s.cacheAge }
    Binary64.zero with
  | error fault =>
    rw [created] at made
    cases made
  | ok e =>
    rw [created] at made
    cases made
    obtain ⟨cache, ⟨empty, -⟩, rfl⟩ := create_eq created
    cases cache with
    | none => rfl
    | some c =>
      have empty := empty c rfl
      obtain ⟨maxSize, maxAge, entries, counts⟩ := c
      subst empty
      rfl

theorem thresholdGate_clampThreshold (value : Number) :
    thresholdGate (clampThreshold value) = thresholdGate value := by
  rw [thresholdGate, thresholdGate?, clampThreshold_idempotent, thresholdGate, thresholdGate?]

/-- The two detectors, registered in turn. -/
theorem register_register {b : Bundle} (sound : b.Sound) (threshold : Number)
    (allowed : List String) :
    (register (register {
        threshold := clampThreshold threshold, allowed := normalLanguages allowed
        cache := b.cache, clock := b.clock } b.lexers) b.languages) =
      b.engine ⟨bundledNames, threshold, allowed⟩ := by
  have order : (bundledNames.filter bundledNames.contains).eraseDups = bundledNames := by decide
  rw [register_new (d := b.lexers) rfl rfl sound.fresh,
    register_new (d := b.languages) _ _ sound.fresh, sound.lexers, sound.languages, Bundle.engine, order]
  · simp only [thresholdGate_clampThreshold]
    rfl
  · rw [sound.languages, sound.lexers]
    rfl
  · rw [sound.languages, sound.lexers]
    rfl

theorem name_ofLexers {lexers : Lexers} {gate : Number} {d : Detector}
    (made : Detector.ofLexers lexers gate = .ok d) : d.name = "pygments" := by
  unfold Detector.ofLexers at made
  cases read : gateOf gate with
  | error fault =>
    rw [read] at made
    cases made
  | ok g =>
    rw [read] at made
    cases made
    rfl

theorem name_ofLanguages {languages : List Language} {gate : Number} {allowed : List String}
    {d : Detector} (made : Detector.ofLanguages languages gate allowed = .ok d) :
    d.name = "pattern-matching" := by
  unfold Detector.ofLanguages at made
  cases read : gateOf gate with
  | error fault =>
    rw [read] at made
    cases made
  | ok g =>
    rw [read] at made
    cases loaded : Fingerprints.load languages allowed with
    | error fault =>
      rw [loaded] at made
      cases made
    | ok f =>
      rw [loaded] at made
      cases made
      rfl

/-- A new default engine is set up as the settings say. -/
theorem setUp_engine {b : Bundle} (sound : b.Sound) (s : Settings) :
    ((register (register {
        threshold := clampThreshold s.threshold, allowed := normalLanguages s.allowed
        cache := b.cache, clock := b.clock } b.lexers) b.languages).apply s.configuration).2 =
      b.engine ⟨s.order, s.threshold, s.allowed⟩ := by
  have configuration : s.configuration =
      .obj (Changes.membersOf (some s.order) (some s.threshold) (some s.allowed)) := rfl
  rw [register_register sound, configuration, b.apply_engine _ sound.fresh]
  rfl

theorem bundleOf_sound {s : Settings} {lexers : Lexers} {depth : Nat} {fs : Files}
    {clock : Binary64} {b : Bundle} (made : bundleOf s lexers depth fs clock = .ok b) :
    b.Sound := by
  obtain ⟨cache, cached, made⟩ := bind_eq_ok_iff.mp made
  obtain ⟨l, madeLexers, made⟩ := bind_eq_ok_iff.mp made
  obtain ⟨catalog, -, made⟩ := bind_eq_ok_iff.mp made
  obtain ⟨d, madeLanguages, made⟩ := bind_eq_ok_iff.mp made
  cases made
  exact ⟨name_ofLexers madeLexers, name_ofLanguages madeLanguages, fresh_cacheOf cached⟩

/-- The default engine is made when its parts are, and then it is set up as the settings say. -/
theorem ofSettings_eq (s : Settings) (lexers : Lexers) (depth : Nat) (fs : Files)
    (clock : Binary64) :
    ofSettings s none lexers depth fs clock =
      (bundleOf s lexers depth fs clock).map (·.engine ⟨s.order, s.threshold, s.allowed⟩) := by
  unfold ofSettings bundleOf
  rw [create_engineOptions, map_bind_ok, bind_map_ok]
  refine bind_congr_ok fun cache cached => ?_
  rw [bind_map_ok]
  refine bind_congr_ok fun l madeLexers => ?_
  rw [bind_map_ok]
  refine bind_congr_ok fun languages _ => ?_
  rw [bind_map_ok]
  refine bind_congr_ok fun d madeLanguages => ?_
  have sound : Bundle.Sound ⟨l, d, cache, clock⟩ :=
    ⟨name_ofLexers madeLexers, name_ofLanguages madeLanguages, fresh_cacheOf cached⟩
  exact congrArg Except.ok (setUp_engine sound s)

/-! ### Making it -/

/-- Every expression of the bundled languages can be read. -/
theorem isOk_regexesOf_bundled :
    ∀ l ∈ Language.Bundled.languages, (Fingerprints.regexesOf l).isOk = true := by
  -- The languages are gone through one by one, for each alone is enough to evaluate.
  simp only [Language.Bundled.languages, List.forall_mem_cons]
  refine ⟨?_, ?_, ?_, ?_, ?_, ?_, ?_, ?_, ?_, nofun⟩
  all_goals decide +kernel

theorem bundled_catalog : Language.Bundled.catalog.map (·.2) = Language.Bundled.languages := by
  decide +kernel

/-- Without a folder of further languages, the default engine is made as long as its cache has
room. -/
theorem exists_bundleOf {s : Settings} (noFolder : s.languagesFolder = none)
    (room : 1 ≤ s.cacheSize) (lexers : Lexers) (depth : Nat) (fs : Files) (clock : Binary64) :
    ∃ b, bundleOf s lexers depth fs clock = .ok b := by
  have readable : ∀ name l,
      Fingerprints.definitionOf (Language.Bundled.catalog.map (·.2)) name = some l →
        ∃ regexes, Fingerprints.regexesOf l = .ok regexes := by
    intro name l counts
    obtain ⟨mem, -⟩ := Fingerprints.definitionOf_spec counts
    have isOk := isOk_regexesOf_bundled l (bundled_catalog ▸ mem)
    cases read : Fingerprints.regexesOf l with
    | error refusal =>
      rw [read] at isOk
      cases isOk
    | ok regexes => exact ⟨regexes, rfl⟩
  obtain ⟨f, loads⟩ : ∃ f, Fingerprints.load (Language.Bundled.catalog.map (·.2)) [] = .ok f :=
    Fingerprints.exists_load_iff.mpr readable
  obtain ⟨cache, made⟩ : ∃ cache, cacheOf s = .ok cache := by
    have large : ¬s.cacheSize < 1 := by omega
    unfold cacheOf create Cache.create?
    rw [if_neg large]
    cases s.useCache <;> exact ⟨_, rfl⟩
  obtain ⟨usual, gate⟩ : ∃ gate, gateOf Detector.usualGate = .ok gate := ⟨_, gateOf_float _⟩
  obtain ⟨own, languagesGate⟩ : ∃ gate, gateOf Detector.languagesGate = .ok gate :=
    ⟨_, gateOf_float _⟩
  unfold bundleOf Detector.ofLexers Detector.ofLanguages
  rw [made, gate, languagesGate, Settings.languages, noFolder]
  simp only [bind, Except.bind, Except.mapError, pure, Except.pure, loads]
  exact ⟨_, rfl⟩

end Engine

end SnippetDetect
