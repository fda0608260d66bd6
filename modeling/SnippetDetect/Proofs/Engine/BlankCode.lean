import SnippetDetect.CodeCheck
import SnippetDetect.Proofs.Engine.Overlap

/-!
Blank snippets.

A snippet is judged invalid when it is blank (`CodeCheck.isValid_ofSnippet`). No detector is asked
about it on any path, and no path stores an answer for it: no blank snippet ever gets into the
cache, however detections overlap (`BusyEngine.BlankFree.run`). So a blank snippet has no
language, and to ask for it counts at most a miss (`blank_of_run`).
-/

namespace SnippetDetect

open SnippetDetect.Text

/-- The check of a snippet objects to blank ones only. -/
theorem CodeCheck.isValid_ofSnippet (code : Snippet) :
    (CodeCheck.ofSnippet code).isValid = !code.isBlank := by
  unfold ofSnippet
  split
  · next empty =>
    rw [Snippet.isBlank, empty]
    rfl
  · dsimp only
    split
    · next nothing =>
      rw [show code.isBlank = true from trim_eq_nil_iff.mp nothing]
      rfl
    · next something =>
      have told : code.isBlank = false := by
        rw [← Bool.not_eq_true]
        exact fun blank => something (trim_eq_nil_iff.mpr blank)
      rw [told]
      rfl

namespace Engine

variable {e : Engine} {code : Snippet}

/-- No blank text is in the cache. -/
def BlankFree (e : Engine) : Prop :=
  ∀ cache, e.cache = some cache → ∀ entry ∈ cache.entries, isBlankText entry.content = false

theorem BlankFree.of_cache (blankFree : e.BlankFree) {other : Engine}
    (same : other.cache = e.cache) : other.BlankFree := by
  intro cache there
  exact blankFree cache (same ▸ there)

theorem BlankFree.of_transparent (blankFree : e.BlankFree) {changed : Engine}
    (transparent : e.Transparent changed) : changed.BlankFree := by
  rcases transparent with cleared | ⟨-, cache⟩
  · intro cache there entry mem
    rw [cleared] at there
    obtain ⟨old, -, rfl⟩ := Option.map_eq_some_iff.mp there
    cases mem
  · exact blankFree.of_cache cache

theorem BlankFree.lookUp (blankFree : e.BlankFree) (key : String) :
    (e.lookUp key).2.BlankFree := by
  intro cache' there entry mem
  obtain ⟨cache, cached, entries⟩ := entries_lookUp there
  exact blankFree cache cached entry (entries entry mem)

theorem BlankFree.store (blankFree : e.BlankFree) {key : String}
    (told : isBlankText key = false) (answer : Option Detection) :
    (e.store key answer).BlankFree := by
  cases answer with
  | none => exact blankFree
  | some d =>
    intro cache' there entry mem
    obtain ⟨cache, cached, entries⟩ := entries_store there
    rcases entries entry mem with old | rfl
    · exact blankFree cache cached entry old
    · exact told

theorem detectFresh_of_blank (e : Engine) (blank : code.isBlank = true) :
    e.detectFresh code = (none, e) := by
  rw [detectFresh, if_pos blank]

theorem detectAll_of_blank (e : Engine) (blank : code.isBlank = true) :
    e.detectAll code = ([], e) := by
  rw [detectAll, if_pos blank]

theorem BlankFree.detect (blankFree : e.BlankFree) (code : Snippet) (useCache : Bool) :
    (e.detect code useCache).2.BlankFree := by
  rcases e.key?_cases code useCache with ⟨key, has, own⟩ | ⟨error, -, lacks⟩
  · rw [Engine.detect, has]
    cases key with
    | none => exact blankFree.of_cache (cache_detectFresh e code)
    | some text =>
      obtain rfl := own text rfl
      have looked := blankFree.lookUp text
      simp only [detectUnder]
      revert looked
      rcases e.lookUp text with ⟨found, after⟩
      intro looked
      cases found with
      | some d => exact looked
      | none =>
        cases told : isBlankText text with
        | true =>
          dsimp only
          rw [detectFresh_of_blank after ((Snippet.isBlank_ofString text).trans told)]
          exact looked
        | false => exact (looked.of_cache (cache_detectFresh after text)).store told _
  · rw [Engine.detect, lacks]
    exact blankFree

/-- No action puts a blank snippet into the cache. -/
theorem BlankFree.after (blankFree : e.BlankFree) (consistent : e.Consistent)
    (action : Action) : (e.after action).BlankFree := by
  rcases after_cases consistent action with ⟨code, useCache, rfl⟩ | ⟨seconds, rfl⟩ | transparent
  · exact blankFree.detect code _
  · obtain ⟨clock, later⟩ := after_advance e seconds
    rw [later]
    exact blankFree
  · exact blankFree.of_transparent transparent

/-- The engine after its cache was asked in vain. -/
def countMiss (e : Engine) : Engine :=
  { e with cache := e.cache.map fun cache =>
      { cache with counts := { cache.counts with misses := cache.counts.misses + 1 } } }

theorem countMiss_of_none (none : e.cache = none) : e.countMiss = e := by
  obtain ⟨registry, threshold, allowed, cache, clock⟩ := e
  cases none
  rfl

/-- A blank text is not found, and nothing else is dropped. -/
theorem BlankFree.lookUp_of_blank (blankFree : e.BlankFree) {key : String}
    (blank : isBlankText key = true) : e.lookUp key = (none, e.countMiss) := by
  unfold Engine.lookUp
  cases cached : e.cache with
  | none => rw [countMiss_of_none cached]
  | some cache =>
    have absent : ∀ entry ∈ cache.entries, entry.content ≠ key := by
      rintro entry mem rfl
      rw [blankFree cache cached entry mem] at blank
      cases blank
    rcases cache.get_cases e.clock key with ⟨entry, mem, same, -, -⟩ | missed
    · exact absurd same (absent entry mem)
    · simp only [missed, countMiss, cached, Cache.miss, Cache.without_of_absent absent,
        Option.map_some]

/-- What is made of a blank snippet: nothing, with a miss counted if the cache was to be used. -/
theorem BlankFree.detect_of_blank (blankFree : e.BlankFree) (blank : code.isBlank = true)
    (useCache : Bool) :
    e.detect code useCache = (.ok none, if useCache then e.countMiss else e) := by
  have past : e.detectUnder code none = (none, e) := detectFresh_of_blank e blank
  rw [Engine.detect, key?]
  cases useCache with
  | false => simp [past]
  | true =>
    cases cached : e.cache with
    | none => simp [past, countMiss_of_none cached]
    | some cache =>
      obtain ⟨text, rfl⟩ := Snippet.exists_text_of_isBlank blank
      have missed := blankFree.lookUp_of_blank ((Snippet.isBlank_ofString text).symm.trans blank)
      simp [detectUnder, Snippet.encode_ofString, missed,
        detectFresh_of_blank e.countMiss blank, Engine.store]

theorem detectWith_of_blank (e : Engine) (blank : code.isBlank = true) (name : String) :
    e.detectWith code name = (none, e) := by
  unfold detectWith
  split
  · rfl
  · rw [if_pos blank]

/-- An analysis of a blank snippet has nothing to say but how many detectors there are. -/
theorem analyze_of_blank (e : Engine) (blank : code.isBlank = true)
    (threshold : Option Number) (alternatives fallbacks : Bool) :
    e.analyze code threshold alternatives fallbacks =
      (⟨none, [], [], ⟨e.registry.size, 0, .float Binary64.zero, none⟩⟩, e) := by
  unfold analyze
  simp only [detectFresh_of_blank e blank, detectAll_of_blank e blank]
  cases alternatives <;> cases fallbacks <;> rfl

/-- A snippet that no detector is asked about, and for which there is no answer on any path. It
changes nothing but that a cache which was asked counts a miss. -/
structure Ignores (e : Engine) (code : Snippet) : Prop where
  detect : ∀ useCache, e.detectDefault code useCache =
    (.ok none, if useCache.getD e.cache.isSome then e.countMiss else e)
  detectWith : ∀ name, e.detectWith code name = (none, e)
  detectAll : e.detectAll code = ([], e)
  analyze : ∀ threshold alternatives fallbacks, e.analyze code threshold alternatives fallbacks =
    (⟨none, [], [], ⟨e.registry.size, 0, .float Binary64.zero, none⟩⟩, e)

theorem BlankFree.ignores (blankFree : e.BlankFree) (blank : code.isBlank = true) :
    e.Ignores code where
  detect _ := blankFree.detect_of_blank blank _
  detectWith := e.detectWith_of_blank blank
  detectAll := e.detectAll_of_blank blank
  analyze := e.analyze_of_blank blank

end Engine

/-! ### While detections overlap -/

namespace BusyEngine

variable {b : BusyEngine}

/-- No blank text is in the cache, nor on its way to it. -/
structure BlankFree (b : BusyEngine) : Prop where
  consistent : b.engine.Consistent
  engine : b.engine.BlankFree
  waiting : ∀ w ∈ b.waiting, ∀ key, w.key = some key → isBlankText key = false

theorem BlankFree.start (blankFree : b.BlankFree) (code : Snippet) (useCache : Option Bool) :
    (b.start code useCache).BlankFree := by
  obtain ⟨engine, looked, began⟩ := b.start_cases code useCache
  have consistent : engine.Consistent := by
    rcases looked with rfl | ⟨key, rfl⟩
    · exact blankFree.consistent
    · exact (Engine.sameDetectors_lookUp blankFree.consistent key).consistent blankFree.consistent
  have unblank : engine.BlankFree := by
    rcases looked with rfl | ⟨key, rfl⟩
    · exact blankFree.engine
    · exact blankFree.engine.lookUp key
  rcases began with ended | ⟨asked, key, own, waits⟩
  · rw [ended]
    exact ⟨consistent, unblank, blankFree.waiting⟩
  · rw [waits]
    refine ⟨consistent, unblank, fun w mem => ?_⟩
    rcases List.mem_append.mp mem with old | new
    · exact blankFree.waiting w old
    · rw [Waiting.next?_key (Option.mem_toList.mp new)]
      rintro text rfl
      rwa [own text rfl, Snippet.isBlank_ofString] at asked

theorem BlankFree.hear (blankFree : b.BlankFree) (index : Nat) :
    (b.after (.hear index)).BlankFree := by
  rw [after]
  split
  · exact blankFree
  · next w found =>
    dsimp only
    obtain ⟨same, cache⟩ := Waiting.sameDetectors_hear blankFree.consistent w
    refine ⟨same.consistent blankFree.consistent, blankFree.engine.of_cache cache, ?_⟩
    intro moved mem
    rcases List.mem_or_eq_of_mem_set mem with there | rfl
    · exact blankFree.waiting moved there
    · rw [Waiting.hear_key]
      exact blankFree.waiting w (List.mem_of_getElem? found)

theorem BlankFree.resume (blankFree : b.BlankFree) (index : Nat) :
    (b.after (.resume index)).BlankFree := by
  rw [after]
  split
  · exact blankFree
  · next w found =>
    dsimp only
    have told := blankFree.waiting w (List.mem_of_getElem? found)
    have same := Waiting.sameDetectors_resume blankFree.consistent w
    obtain ⟨engine, nextKey⟩ := Waiting.resume_cases b.engine w
    refine ⟨same.consistent blankFree.consistent, ?_, ?_⟩
    · rcases engine with unchanged | ⟨key, d, keyed, stored⟩
      · rw [unchanged]
        exact blankFree.engine
      · rw [stored]
        exact blankFree.engine.store (told key keyed) (some d)
    · intro moved mem
      rcases List.mem_append.mp mem with front | behind
      · rcases List.mem_append.mp front with before | next
        · exact blankFree.waiting moved (List.mem_of_mem_take before)
        · rw [nextKey moved (Option.mem_toList.mp next)]
          exact told
      · exact blankFree.waiting moved (List.mem_of_mem_drop behind)

/-- No move puts a blank text into the cache or on its way to it. -/
theorem BlankFree.after (blankFree : b.BlankFree) {move : Move} (wellFormed : move.WellFormed) :
    (b.after move).BlankFree := by
  cases move with
  | act action =>
    refine ⟨blankFree.consistent.after wellFormed,
      blankFree.engine.after blankFree.consistent action, ?_⟩
    intro moved mem
    obtain ⟨w, there, rfl⟩ := List.mem_map.mp mem
    exact blankFree.waiting w there
  | start code useCache => exact blankFree.start code useCache
  | hear index => exact blankFree.hear index
  | resume index => exact blankFree.resume index

theorem BlankFree.run (blankFree : b.BlankFree) {moves : List Move}
    (wellFormed : ∀ move ∈ moves, move.WellFormed) : (b.run moves).BlankFree := by
  induction moves generalizing b with
  | nil => exact blankFree
  | cons move rest ih =>
    have later := blankFree.after (wellFormed move List.mem_cons_self)
    exact ih later fun other mem => wellFormed other (List.mem_cons_of_mem _ mem)

theorem blankFree_create {o : Engine.Options} {clock : Binary64} {e : Engine}
    (made : Engine.create o clock = .ok e) : BlankFree ⟨e, []⟩ where
  consistent := Engine.consistent_create made
  engine := by
    obtain ⟨cache, ⟨empty, -⟩, rfl⟩ := Engine.create_eq made
    intro cache' there entry mem
    rw [empty cache' there] at mem
    cases mem
  waiting w mem := by cases mem

/-- A snippet that is judged invalid is ignored in every state that an engine can reach, and it would
be with any other detectors in the registry: those that count their calls show that none is asked. -/
theorem blank_of_run {o : Engine.Options} {clock : Binary64} {e : Engine}
    (made : Engine.create o clock = .ok e) {moves : List Move}
    (wellFormed : ∀ move ∈ moves, move.WellFormed) {code : Snippet}
    (invalid : (CodeCheck.ofSnippet code).isValid = false) :
    let reached : Engine := (run ⟨e, []⟩ moves).engine
    reached.Ignores code ∧ ∀ registry, ({ reached with registry } : Engine).Ignores code := by
  intro reached
  have blank : code.isBlank = true := by
    rw [CodeCheck.isValid_ofSnippet] at invalid
    simpa using invalid
  have blankFree : reached.BlankFree := ((blankFree_create made).run wellFormed).engine
  refine ⟨blankFree.ignores blank, fun registry => ?_⟩
  have other : ({ reached with registry } : Engine).BlankFree := blankFree.of_cache rfl
  exact other.ignores blank

/-- Blank code before, between and after two detections that overlap. -/
theorem blank_of_run_overlapping :
    let moves : List Move := [.act (.register Engine.eager), .start " \n" none,
      .start "x = 1" none, .start "x = 1" none, .hear 0, .hear 1, .act (.detect "" none),
      .resume 0, .resume 0]
    let reached : Engine := (run ⟨Engine.blank, []⟩ moves).engine
    Engine.create {} Binary64.zero = .ok Engine.blank ∧
      (CodeCheck.ofSnippet "\t \u00a0").isValid = false ∧
      (reached.cache.map fun cache => (cache.entries.length, cache.counts.misses)) = some (1, 4) ∧
      reached.Ignores "\t \u00a0" := by
  intro moves reached
  have invalid : (CodeCheck.ofSnippet "\t \u00a0").isValid = false := by decide
  have wellFormed : ∀ move ∈ moves, move.WellFormed := by
    intro move mem
    simp only [moves, List.mem_cons, List.not_mem_nil, or_false] at mem
    rcases mem with rfl | rfl | rfl | rfl | rfl | rfl | rfl | rfl | rfl
    · exact wellFormed_eager
    all_goals trivial
  have ignored := blank_of_run Engine.create_default wellFormed invalid
  exact ⟨Engine.create_default, invalid, by decide +kernel, ignored.1⟩

end BusyEngine

end SnippetDetect
