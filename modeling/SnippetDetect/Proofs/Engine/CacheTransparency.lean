import SnippetDetect.Proofs.Cache
import SnippetDetect.Proofs.Detection
import SnippetDetect.Proofs.Engine.Congruence

/-!
The cache is not seen from outside, as long as it is asked for texts.

A cache is sound when every entry is what the sequential protocol would answer now
(`Engine.Sound`). Whatever may change that answer clears the cache, and what is put into it is
such an answer, so every action keeps the cache sound (`Sound.after`). A detection of a sound
engine is therefore the verdict of the detectors, with or without the cache
(`detect_of_answerable`), unless the cache needs the key of a snippet that is no text: then it is
refused and leaves the engine as it is (`detect_of_unencodable`). So a session answers the same on an
engine with a cache and on one without exactly if what it asks the cache for are texts
(`answers_with_cache_eq_without`), and one lone half of a character makes the difference
(`not_answers_with_cache_eq_without`).
-/

namespace SnippetDetect

open SnippetDetect.Text

/-- What an action asks the cache for, if it does, is a text. -/
def Action.AsksForTexts : Action → Prop
  | .detect code useCache => useCache = some false ∨ ∃ text : String, code = text
  | _ => True

namespace Engine

/-- Every cached detection is the one that would be made now. -/
def Sound (e : Engine) : Prop :=
  ∀ cache, e.cache = some cache → ∀ entry ∈ cache.entries,
    e.verdict entry.content = some entry.detection

section Sound

variable {e : Engine}

theorem sound_create {o : Options} {clock : Binary64} (made : create o clock = .ok e) :
    e.Sound := by
  obtain ⟨cache, ⟨empty, -⟩, rfl⟩ := create_eq made
  intro cache' there entry mem
  rw [empty cache' there] at mem
  cases mem

/-- The same verdicts and no new entries. -/
theorem Sound.of_same (sound : e.Sound) (consistent : e.Consistent) {other : Engine}
    (same : e.SameDetectors other)
    (entries : ∀ cache', other.cache = some cache' → ∃ cache, e.cache = some cache ∧
      ∀ entry ∈ cache'.entries, entry ∈ cache.entries) : other.Sound := by
  intro cache' there' entry mem'
  obtain ⟨cache, there, sub⟩ := entries cache' there'
  rw [same.verdict consistent]
  exact sound cache there entry (sub entry mem')

theorem Sound.of_same_cache (sound : e.Sound) (consistent : e.Consistent) {other : Engine}
    (same : e.SameDetectors other) (cache : other.cache = e.cache) : other.Sound :=
  sound.of_same consistent same fun cache' there => ⟨cache', cache ▸ there, fun _ mem => mem⟩

/-- To look up a key brings no entries. -/
theorem entries_lookUp {key : String} {cache' : Cache}
    (there : (e.lookUp key).2.cache = some cache') :
    ∃ cache, e.cache = some cache ∧ ∀ entry ∈ cache'.entries, entry ∈ cache.entries := by
  unfold Engine.lookUp at there
  cases cached : e.cache with
  | none => simp [cached] at there
  | some cache =>
    simp only [cached] at there
    cases there
    exact ⟨cache, rfl, fun entry mem => Cache.mem_get mem⟩

/-- To store an answer brings one entry. -/
theorem entries_store {key : String} {d : Detection} {cache' : Cache}
    (there : (e.store key (some d)).cache = some cache') :
    ∃ cache, e.cache = some cache ∧
      ∀ entry ∈ cache'.entries, entry ∈ cache.entries ∨ entry = ⟨key, d, e.clock⟩ := by
  obtain ⟨cache, cached, rfl⟩ := Option.map_eq_some_iff.mp there
  exact ⟨cache, cached, fun entry mem => (Cache.mem_put mem).imp And.left id⟩

theorem Sound.lookUp (sound : e.Sound) (consistent : e.Consistent) (key : String) :
    (e.lookUp key).2.Sound :=
  sound.of_same consistent (sameDetectors_lookUp consistent key) fun _ => entries_lookUp

/-- An answer found in a sound cache is the verdict. -/
theorem Sound.verdict_of_lookUp (sound : e.Sound) {key : String} {d : Detection}
    (found : (e.lookUp key).1 = some d) : e.verdict key = some d := by
  unfold Engine.lookUp at found
  cases cached : e.cache with
  | none => simp [cached] at found
  | some cache =>
    simp only [cached] at found
    obtain ⟨entry, mem, rfl, rfl, -⟩ := Cache.mem_of_get found
    exact sound cache cached entry mem

theorem Sound.store (sound : e.Sound) (consistent : e.Consistent) {key : String}
    {answer : Option Detection} (verdict : e.verdict key = answer) :
    (e.store key answer).Sound := by
  cases answer with
  | none => exact sound
  | some d =>
    intro cache' there entry mem
    obtain ⟨cache, cached, entries⟩ := entries_store there
    rw [(sameDetectors_store consistent key (some d)).verdict consistent]
    rcases entries entry mem with old | rfl
    · exact sound cache cached entry old
    · exact verdict

theorem Sound.detectFresh (sound : e.Sound) (consistent : e.Consistent) (code : Snippet) :
    (e.detectFresh code).2.Sound :=
  sound.of_same_cache consistent (sameDetectors_detectFresh consistent code)
    (cache_detectFresh e code)

/-- Under its own key or past the cache, a snippet gets the verdict of the detectors, and the engine
stays sound. -/
theorem detectUnder_sound (consistent : e.Consistent) (sound : e.Sound) {code : Snippet}
    {key : Option String} (own : ∀ text, key = some text → code = text) :
    (e.detectUnder code key).1 = e.verdict code ∧ (e.detectUnder code key).2.Sound := by
  cases key with
  | none => exact ⟨detectFresh_fst consistent code, sound.detectFresh consistent code⟩
  | some text =>
    obtain rfl := own text rfl
    have looked := sameDetectors_lookUp consistent text
    have soundAfter := sound.lookUp consistent text
    have hit (d : Detection) : (e.lookUp text).1 = some d → e.verdict text = some d :=
      sound.verdict_of_lookUp
    rw [detectUnder]
    revert looked soundAfter hit
    rcases e.lookUp text with ⟨found, after⟩
    intro looked soundAfter hit
    cases found with
    | some d => exact ⟨(hit d rfl).symm, soundAfter⟩
    | none =>
      have consistentAfter := looked.consistent consistent
      have answer := detectFresh_fst consistentAfter text
      have asked := sameDetectors_detectFresh consistentAfter text
      refine ⟨answer.trans (looked.verdict consistent text), ?_⟩
      apply (soundAfter.detectFresh consistentAfter text).store (asked.consistent consistentAfter)
      rw [asked.verdict consistentAfter, answer]

/-- A detection that the cache has no part in, or that is of a text. -/
def Answerable (e : Engine) (code : Snippet) (useCache : Bool) : Prop :=
  (useCache && e.cache.isSome) = false ∨ ∃ text : String, code = text

/-- A detection of a sound engine answers the verdict of the detectors, whether the cache is used or
not. -/
theorem detect_of_answerable (consistent : e.Consistent) (sound : e.Sound) {code : Snippet}
    {useCache : Bool} (answerable : e.Answerable code useCache) :
    (e.detect code useCache).1 = .ok (e.verdict code) := by
  rcases e.key?_cases code useCache with ⟨key, has, own⟩ | ⟨error, refused, lacks⟩
  · rw [detect, has]
    exact congrArg Except.ok (detectUnder_sound consistent sound own).1
  · rcases answerable with past | ⟨text, rfl⟩
    · rw [key?, past] at lacks
      cases lacks
    · rw [Snippet.encode_ofString] at refused
      cases refused

/-- What the cache has no key for is refused, and nothing comes of it. -/
theorem detect_of_unencodable {code : Snippet} {error : Snippet.EncodeError}
    (cached : e.cache.isSome = true) (refused : code.encode = .error error) :
    e.detect code true = (.error (.unencodable error), e) := by
  rw [detect, key?, cached, refused]
  rfl

theorem Sound.detect (sound : e.Sound) (consistent : e.Consistent) (code : Snippet)
    (useCache : Bool) : (e.detect code useCache).2.Sound := by
  rcases e.key?_cases code useCache with ⟨key, has, own⟩ | ⟨error, -, lacks⟩
  · rw [Engine.detect, has]
    exact (detectUnder_sound consistent sound own).2
  · rw [Engine.detect, lacks]
    exact sound

/-! ### Writes -/

/-- A write clears the cache, or it changes neither the detectors nor the cache. -/
def Transparent (e changed : Engine) : Prop :=
  changed.cache = e.cache.map Cache.clear ∨ e.SameDetectors changed ∧ changed.cache = e.cache

theorem Sound.of_transparent (sound : e.Sound) (consistent : e.Consistent) {changed : Engine}
    (transparent : e.Transparent changed) : changed.Sound := by
  rcases transparent with cleared | ⟨same, cache⟩
  · intro cache there entry mem
    rw [cleared] at there
    obtain ⟨old, -, rfl⟩ := Option.map_eq_some_iff.mp there
    cases mem
  · exact sound.of_same_cache consistent same cache

/-- A write that is carried through clears the cache. -/
theorem transparent_clearCache {changed : Engine} (cache : changed.cache = e.cache) :
    e.Transparent changed.clearCache :=
  .inl (congrArg (Option.map Cache.clear) cache)

theorem transparent_configure (consistent : e.Consistent) (config : Json) :
    e.Transparent (e.configure config).2 := by
  have start := Unfinished.refl consistent.registry
  rcases configure_cases e config with ⟨_, _, shape⟩ | ⟨c, _, _, accepted⟩ | ⟨c, _, _, undone⟩
  · rw [shape]
    exact .inr ⟨.refl consistent, rfl⟩
  · rw [accepted]
    exact transparent_clearCache
      (((start.begin c).applyPayloads c.payloads).overrideThresholds c.thresholds).cache
  · rw [undone]
    exact .inr (configure_refused consistent undone)

theorem transparent_importText (consistent : e.Consistent) (depth : Nat) (text : String) :
    e.Transparent (e.importText depth text).2 := by
  cases read : Json.parse depth text with
  | ok config =>
    rw [importText_of_ok e read]
    exact transparent_configure consistent config
  | error fault =>
    rw [importText_of_error e read]
    exact .inr ⟨.refl consistent, rfl⟩

theorem transparent_configureDetector (consistent : e.Consistent) (name : String)
    (payload : Json) : e.Transparent (e.configureDetector name payload).2 := by
  rcases configureDetector_cases e name payload with
    ⟨_, _, kept⟩ | ⟨members, _, _, accepted⟩ | ⟨members, _, _, _, undone⟩
  · rw [kept]
    exact .inr ⟨.refl consistent, rfl⟩
  · rw [accepted]
    exact transparent_clearCache
      ((Unfinished.refl consistent.registry).applyPayload name members).cache
  · rw [undone]
    exact .inr (configureDetector_refused consistent undone)

theorem transparent_register (e : Engine) (d : Detector) : e.Transparent (e.register d) := by
  apply transparent_clearCache
  split
  · exact cache_overrideThreshold _ _ _
  · rfl

/-- To forget a detector that is not there changes nothing. -/
theorem transparent_unregister (consistent : e.Consistent) (name : String) :
    e.Transparent (e.unregister name).2 := by
  rw [unregister_snd]
  split
  · exact transparent_clearCache rfl
  · next absent =>
    have unchanged := consistent.registry.unregister_of_absent (by simpa using absent)
    refine .inr ⟨?_, rfl⟩
    apply sameDetectors_withRegistry (consistent.registry.unregister name)
    rw [unchanged]

theorem transparent_detectWith (consistent : e.Consistent) (code : Snippet) (name : String) :
    e.Transparent (e.detectWith code name).2 := by
  refine .inr ⟨sameDetectors_detectWith consistent code name, ?_⟩
  unfold detectWith
  split
  · rfl
  · split <;> rfl

/-- All that an action can do to the cache, a detection and the passing of time apart. -/
theorem after_cases (consistent : e.Consistent) (action : Action) :
    (∃ code useCache, action = .detect code useCache) ∨
      (∃ seconds, action = .advance seconds) ∨ e.Transparent (e.after action) := by
  cases action with
  | detect code useCache => exact .inl ⟨code, useCache, rfl⟩
  | advance seconds => exact .inr (.inl ⟨seconds, rfl⟩)
  | register d => exact .inr (.inr (transparent_register e d))
  | unregister name => exact .inr (.inr (transparent_unregister consistent name))
  | detectAll code =>
    exact .inr (.inr (.inr ⟨sameDetectors_detectAll consistent code, cache_detectAll e code⟩))
  | detectWith code name => exact .inr (.inr (transparent_detectWith consistent code name))
  | analyze code threshold alternatives fallbacks =>
    have cache := (cache_detectAll (e.detectFresh code).2 code).trans (cache_detectFresh e code)
    exact .inr (.inr (.inr ⟨sameDetectors_analyze consistent code _ _ _, cache⟩))
  | configure config => exact .inr (.inr (transparent_configure consistent config))
  | apply config =>
    refine .inr (.inr ?_)
    show e.Transparent (e.apply config).2
    rw [apply_snd]
    exact transparent_configure consistent config
  | importText depth text => exact .inr (.inr (transparent_importText consistent depth text))
  | changeThreshold value =>
    exact .inr (.inr (transparent_clearCache (cache_pushThreshold e value)))
  | changeDetectorThreshold name value =>
    refine .inr (.inr ?_)
    simp only [Engine.after, changeDetectorThreshold]
    split
    · exact transparent_clearCache (cache_overrideThreshold e name value)
    · exact .inr ⟨.refl consistent, rfl⟩
  | changeOrder names => exact .inr (.inr (transparent_clearCache rfl))
  | changeEnabled name enabled => exact .inr (.inr (transparent_clearCache rfl))
  | changeAllowed languages => exact .inr (.inr (transparent_clearCache rfl))
  | configureDetector name payload =>
    exact .inr (.inr (transparent_configureDetector consistent name payload))
  | reset =>
    exact .inr (.inr (transparent_clearCache (cache_pushThreshold (e.setOrder defaultOrder) _)))

/-- To let time pass touches nothing but the clock. -/
theorem after_advance (e : Engine) (seconds : Number) :
    ∃ clock, e.after (.advance seconds) = { e with clock } := by
  simp only [Engine.after, advance]
  cases seconds.toBinary64 with
  | error fault => exact ⟨e.clock, rfl⟩
  | ok x => exact ⟨e.clock.add x, rfl⟩

/-- Every action keeps the cache sound. -/
theorem Sound.after (sound : e.Sound) (consistent : e.Consistent) (action : Action) :
    (e.after action).Sound := by
  rcases after_cases consistent action with ⟨code, useCache, rfl⟩ | ⟨seconds, rfl⟩ | transparent
  · exact sound.detect consistent code _
  · obtain ⟨clock, later⟩ := after_advance e seconds
    rw [later]
    exact sound
  · exact sound.of_transparent consistent transparent

theorem isSome_cache_lookUp (e : Engine) (key : String) :
    (e.lookUp key).2.cache.isSome = e.cache.isSome := by
  cases cached : e.cache <;> simp [lookUp, cached]

theorem isSome_cache_store (e : Engine) (key : String) (answer : Option Detection) :
    (e.store key answer).cache.isSome = e.cache.isSome := by
  cases answer <;> simp [store]

theorem isSome_cache_detect (e : Engine) (code : Snippet) (useCache : Bool) :
    (e.detect code useCache).2.cache.isSome = e.cache.isSome := by
  rcases e.key?_cases code useCache with ⟨key, has, -⟩ | ⟨error, -, lacks⟩
  · rw [detect, has]
    cases key with
    | none => exact congrArg Option.isSome (cache_detectFresh e code)
    | some text =>
      have looked := e.isSome_cache_lookUp text
      simp only [detectUnder]
      revert looked
      rcases e.lookUp text with ⟨found, after⟩
      intro looked
      cases found with
      | some d => exact looked
      | none =>
        rw [← looked, ← cache_detectFresh after code]
        exact isSome_cache_store _ text _
  · rw [detect, lacks]

/-- An engine has a cache or has none for good. -/
theorem isSome_cache_after (consistent : e.Consistent) (action : Action) :
    (e.after action).cache.isSome = e.cache.isSome := by
  rcases after_cases consistent action with ⟨code, useCache, rfl⟩ | ⟨seconds, rfl⟩ | transparent
  · exact isSome_cache_detect e code _
  · obtain ⟨clock, later⟩ := after_advance e seconds
    rw [later]
  · rcases transparent with cleared | ⟨-, cache⟩
    · rw [cleared, Option.isSome_map]
    · rw [cache]

end Sound

/-! ### Sessions -/

/-- An engine with a cache and one without that have been through the same. -/
structure Twins (cached plain : Engine) : Prop where
  consistent : cached.Consistent
  same : cached.SameDetectors plain
  sound : cached.Sound
  soundPlain : plain.Sound
  hasCache : cached.cache.isSome = true
  hasNone : plain.cache.isSome = false

namespace Twins

variable {cached plain : Engine}

theorem consistentPlain (twins : Twins cached plain) : plain.Consistent :=
  twins.same.consistent twins.consistent

theorem after (twins : Twins cached plain) {action : Action} (wellFormed : action.WellFormed) :
    Twins (cached.after action) (plain.after action) where
  consistent := twins.consistent.after wellFormed
  same := twins.same.after twins.consistent wellFormed
  sound := twins.sound.after twins.consistent action
  soundPlain := twins.soundPlain.after twins.consistentPlain action
  hasCache := (isSome_cache_after twins.consistent action).trans twins.hasCache
  hasNone := (isSome_cache_after twins.consistentPlain action).trans twins.hasNone

theorem run (twins : Twins cached plain) {actions : List Action}
    (wellFormed : ∀ action ∈ actions, action.WellFormed) :
    Twins (cached.run actions) (plain.run actions) := by
  induction actions generalizing cached plain with
  | nil => exact twins
  | cons action rest ih =>
    exact ih (twins.after (wellFormed action List.mem_cons_self)) fun other mem =>
      wellFormed other (List.mem_cons_of_mem _ mem)

/-- Without a cache every detection is answered. -/
theorem detectDefault_plain (twins : Twins cached plain) (code : Snippet)
    (useCache : Option Bool) :
    (plain.detectDefault code useCache).1 = .ok (cached.verdict code) := by
  rw [← twins.same.verdict twins.consistent code]
  apply detect_of_answerable twins.consistentPlain twins.soundPlain
  exact .inl (by rw [twins.hasNone, Bool.and_false])

/-- With a cache it is answered alike, if the cache is not used or asked for a text. -/
theorem detectDefault_cached (twins : Twins cached plain) {code : Snippet}
    {useCache : Option Bool} (asks : useCache = some false ∨ ∃ text : String, code = text) :
    (cached.detectDefault code useCache).1 = .ok (cached.verdict code) := by
  apply detect_of_answerable twins.consistent twins.sound
  rcases asks with rfl | text
  · exact .inl rfl
  · exact .inr text

/-- Else it is refused. -/
theorem detectDefault_refused (twins : Twins cached plain) {code : Snippet}
    {useCache : Option Bool} (used : useCache ≠ some false) {error : Snippet.EncodeError}
    (refused : code.encode = .error error) :
    cached.detectDefault code useCache = (.error (.unencodable error), cached) := by
  have asks : useCache.getD cached.cache.isSome = true := by
    match useCache with
    | none => exact twins.hasCache
    | some true => rfl
    | some false => exact absurd rfl used
  rw [detectDefault, asks]
  exact detect_of_unencodable twins.hasCache refused

theorem answer?_eq_iff (twins : Twins cached plain) (action : Action) :
    (cached.answer? action).toList = (plain.answer? action).toList ↔ action.AsksForTexts := by
  cases action with
  | detect code useCache =>
    rw [answer?, answer?, twins.detectDefault_plain, Option.toList_some, Option.toList_some,
      List.singleton_inj]
    constructor
    · intro same
      by_cases used : useCache = some false
      · exact .inl used
      · cases encoded : code.encode with
        | ok text => exact .inr ⟨text, Snippet.encode_eq_ok_iff.mp encoded⟩
        | error error =>
          rw [twins.detectDefault_refused used encoded] at same
          cases same
    · exact twins.detectDefault_cached
  | _ => exact iff_of_true rfl trivial

/-- Two engines of which one has a cache answer a session alike exactly if the cache is asked for
texts. -/
theorem answers_eq_iff (twins : Twins cached plain) {actions : List Action}
    (wellFormed : ∀ action ∈ actions, action.WellFormed) :
    cached.answers actions = plain.answers actions ↔
      ∀ action ∈ actions, action.AsksForTexts := by
  induction actions generalizing cached plain with
  | nil => simp [answers]
  | cons action rest ih =>
    obtain ⟨here, later⟩ := List.forall_mem_cons.mp wellFormed
    have alike : (cached.answer? action).toList.length = (plain.answer? action).toList.length := by
      cases action <;> rfl
    rw [List.forall_mem_cons, ← twins.answer?_eq_iff action, ← ih (twins.after here) later, answers,
      answers, List.append_eq_append_iff_of_size_eq_left alike]

end Twins

theorem twins_create {o : Options} {clock : Binary64} {cached plain : Engine}
    (made : create { o with useCache := true } clock = .ok cached)
    (madePlain : create { o with useCache := false } clock = .ok plain) : Twins cached plain where
  consistent := consistent_create made
  same := by
    obtain ⟨cache, -, rfl⟩ := create_eq made
    obtain ⟨cache', -, rfl⟩ := create_eq madePlain
    exact ⟨Registry.wellFormed_empty, rfl, rfl, rfl, rfl⟩
  sound := sound_create made
  soundPlain := sound_create madePlain
  hasCache := isSome_cache_create made
  hasNone := isSome_cache_create madePlain

/-- A session answers the same on an engine with a cache and on one without exactly if the cache is
asked for texts only. After any session the engine without a cache answers every detection. The one
with a cache answers the same, if the cache is not used or asked for a text, and else refuses and
stays as it is. -/
theorem answers_with_cache_eq_without {o : Options} {clock : Binary64} {cached plain : Engine}
    (made : create { o with useCache := true } clock = .ok cached)
    (madePlain : create { o with useCache := false } clock = .ok plain)
    {actions : List Action} (wellFormed : ∀ action ∈ actions, action.WellFormed) :
    (cached.answers actions = plain.answers actions ↔
      ∀ action ∈ actions, action.AsksForTexts) ∧
    ∀ code useCache, ∃ answer,
      ((plain.run actions).detectDefault code useCache).1 = .ok answer ∧
      ((useCache = some false ∨ ∃ text : String, code = text) →
        ((cached.run actions).detectDefault code useCache).1 = .ok answer) ∧
      ∀ error, code.encode = .error error → useCache ≠ some false →
        (cached.run actions).detectDefault code useCache =
          (.error (.unencodable error), cached.run actions) := by
  have twins := twins_create made madePlain
  refine ⟨twins.answers_eq_iff wellFormed, fun code useCache => ?_⟩
  have later := twins.run wellFormed
  exact ⟨_, later.detectDefault_plain code useCache, later.detectDefault_cached,
    fun _ refused used => later.detectDefault_refused used refused⟩

/-- A detector of the user's that knows one answer. -/
def eager : Detector where
  name := "eager"
  displayName := ""
  description := ""
  gate := Binary64.one
  strategy := .custom
    { kind := "Eager", languages := ["python"]
      answer := fun _ _ _ => .ok (some (.ofPoints "python" 90 "eager")) }

/-- A snippet asked for three times, with a refused configuration in between. -/
def thrice : List Action :=
  [.register eager, .detect "x = 1" none, .detect "x = 1" none, .configure .null,
    .detect "x = 1" (some true)]

theorem wellFormed_thrice : ∀ action ∈ thrice, action.WellFormed := by
  intro action mem
  simp only [thrice, List.mem_cons, List.not_mem_nil, or_false] at mem
  rcases mem with rfl | rfl | rfl | rfl | rfl
  · exact ⟨isGate_one, fun c same => by cases same⟩
  · trivial
  · trivial
  · trivial
  · trivial

theorem answers_with_cache_eq_without_thrice :
    create { useCache := true } Binary64.zero = .ok blank ∧
      create { useCache := false } Binary64.zero = .ok { blank with cache := none } ∧
      blank.answers thrice = ({ blank with cache := none } : Engine).answers thrice ∧
      (blank.run thrice).cache.map (·.counts.hits) = some 2 := by
  have asks : ∀ action ∈ thrice, action.AsksForTexts := by
    intro action mem
    simp only [thrice, List.mem_cons, List.not_mem_nil, or_false] at mem
    rcases mem with rfl | rfl | rfl | rfl | rfl
    · trivial
    · exact .inr ⟨_, rfl⟩
    · exact .inr ⟨_, rfl⟩
    · trivial
    · exact .inr ⟨_, rfl⟩
  exact ⟨rfl, rfl, (answers_with_cache_eq_without (o := {}) rfl rfl wellFormed_thrice).1.mpr asks,
    by decide +kernel⟩

/-- A snippet whose first letter was half of one. -/
def halved : Snippet := ⟨.half 0x4E9 :: points " = 1"⟩

/-- A cache refuses what is answered without it. -/
theorem not_answers_with_cache_eq_without :
    ¬ ∀ (o : Options) (clock : Binary64) (cached plain : Engine) (actions : List Action),
      create { o with useCache := true } clock = .ok cached →
        create { o with useCache := false } clock = .ok plain →
        (∀ action ∈ actions, action.WellFormed) →
        cached.answers actions = plain.answers actions := by
  intro always
  have wellFormed : ∀ action ∈ [Action.register eager, .detect halved none], action.WellFormed := by
    intro action mem
    simp only [List.mem_cons, List.not_mem_nil, or_false] at mem
    rcases mem with rfl | rfl
    · exact ⟨isGate_one, fun c same => by cases same⟩
    · trivial
  have differ : blank.answers [.register eager, .detect halved none] ≠
      ({ blank with cache := none } : Engine).answers [.register eager, .detect halved none] := by
    decide +kernel
  exact differ (always {} Binary64.zero _ _ _ rfl rfl wellFormed)

end Engine

end SnippetDetect
