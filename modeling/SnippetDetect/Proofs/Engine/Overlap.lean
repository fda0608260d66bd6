import SnippetDetect.Engine.Overlap
import SnippetDetect.Proofs.Engine.CacheTransparency
import SnippetDetect.Proofs.Registry.Order

/-!
Detections that overlap with each other, and with writes.

A detection that nothing interrupts is `Engine.detectDefault` (`run_start_turns`). A detection
that waits is on course when what it is going to answer is the verdict of the detectors as they
are now (`Waiting.OnCourse`). Beginning, hearing and resuming detections keep all of them on
course and the cache sound, in any order (`Faithful.after`).

A write is another matter. It clears the cache, but an answer that was given before the write
is put into the cache after it. So the cache answers like the detectors after every run without
a write, other than one that changes no setting, during a detection that stores
(`detect_eq_of_undisturbed`), and with such a write it may not (`not_detect_eq_of_run`).
Snippets that are no texts have no part in this: the cache refuses them.
-/

namespace SnippetDetect

open SnippetDetect.Text

/-! ### Detections on course -/

namespace Waiting

variable {e other : Engine} {w : Waiting} {name : String} {names : List String}

/-- A detection that is going to ask these registered detectors, the first of which has heard the
snippet or not, and whose answer will be the verdict. -/
structure OnCourse (e : Engine) (w : Waiting) (name : String) (names : List String) : Prop where
  asked : w.asked = .registered name
  rest : w.rest = names.map .registered
  own : ∀ text, w.key = some text → w.code = text
  verdict : (name :: names).findSome? (e.registry.acceptedFrom e.threshold w.code) =
    e.verdict w.code
  heard : ∀ answer, w.heard = some answer →
    (e.registry.get? name).map (Registry.answerOf · w.code) = some answer

/-- The same detectors up to memory, under the same threshold. -/
theorem OnCourse.of_same (course : w.OnCourse e name names) (wellFormed : e.registry.WellFormed)
    (otherWellFormed : other.registry.WellFormed)
    (memoryless : other.registry.memoryless = e.registry.memoryless)
    (threshold : other.threshold = e.threshold) : w.OnCourse other name names where
  asked := course.asked
  rest := course.rest
  own := course.own
  verdict := by
    rw [threshold, Registry.acceptedFrom_congr wellFormed otherWellFormed memoryless, course.verdict]
    exact (Engine.verdict_congr wellFormed otherWellFormed memoryless threshold w.code).symm
  heard answer told := by
    obtain ⟨d, found, rfl⟩ := Option.map_eq_some_iff.mp (course.heard answer told)
    obtain ⟨d', found', same⟩ := Registry.get?_of_memoryless memoryless found
    rw [found', Option.map_some, ← Registry.answerOf_memoryless (otherWellFormed.of_get? found'),
      same, Registry.answerOf_memoryless (wellFormed.of_get? found)]

/-- A detection that is about to ask the enabled detectors in order. -/
theorem onCourse_next? {code : Snippet} {key : Option String}
    (own : ∀ text, key = some text → code = text)
    (verdict : names.findSome? (e.registry.acceptedFrom e.threshold code) = e.verdict code)
    (next : next? code key (names.map .registered) = some w) :
    ∃ name names, w.OnCourse e name names := by
  cases names with
  | nil => cases next
  | cons name names =>
    cases next
    exact ⟨name, names, rfl, rfl, own, verdict, nofun⟩

/-- A registered detector is asked, or the engine stays as it is; then the detection does too,
unless its detector has left the registry. -/
theorem hear_cases (e : Engine) (w : Waiting) :
    (∃ name d, w.asked = .registered name ∧ e.registry.get? name = some d ∧
      w.hear e = ({ e with registry := (e.registry.ask d w.code).2 },
        { w with heard := some (Registry.answerOf d w.code) })) ∨
    (w.hear e).1 = e ∧ ((w.hear e).2 = w ∨ ∃ d, w.asked = .detached d) := by
  unfold hear
  split
  · next name _ asked =>
    split
    · exact .inr ⟨rfl, .inl rfl⟩
    · next d found => exact .inl ⟨name, d, asked, found, rfl⟩
  · next d _ asked => exact .inr ⟨rfl, .inr ⟨d, asked⟩⟩
  · exact .inr ⟨rfl, .inl rfl⟩

theorem hear_key (e : Engine) (w : Waiting) : (w.hear e).2.key = w.key := by
  unfold hear
  split
  · split <;> rfl
  · rfl
  · rfl

/-- To hear a detector changes nothing but its memory. -/
theorem sameDetectors_hear (consistent : e.Consistent) (w : Waiting) :
    e.SameDetectors (w.hear e).1 ∧ (w.hear e).1.cache = e.cache := by
  rcases hear_cases e w with ⟨name, d, -, found, shape⟩ | ⟨shape, -⟩
  · have here := consistent.registry.get?_name found
    rw [shape]
    exact ⟨Engine.sameDetectors_withRegistry (consistent.registry.ask here w.code)
      (Registry.memoryless_ask here w.code), rfl⟩
  · rw [shape]
    exact ⟨.refl consistent, rfl⟩

/-- A detector answers the same when it is asked again. -/
theorem answerOf_after_ask {r : Registry} (wellFormed : r.WellFormed) {d : Detector}
    (found : r.get? name = some d) (code : Snippet) :
    ((r.ask d code).2.get? name).map (Registry.answerOf · code) =
      some (Registry.answerOf d code) := by
  have here := wellFormed.get?_name found
  have asked := wellFormed.ask here code
  obtain ⟨d', found', memory⟩ :=
    Registry.get?_of_memoryless (Registry.memoryless_ask here code) found
  rw [found', Option.map_some, ← Registry.answerOf_memoryless (asked.of_get? found'), memory,
    Registry.answerOf_memoryless (wellFormed.of_get? found)]

/-- A detection on course hears what the detector answers now. -/
theorem OnCourse.hear (course : w.OnCourse e name names) (consistent : e.Consistent) :
    (w.hear e).2.OnCourse (w.hear e).1 name names := by
  obtain ⟨same, -⟩ := sameDetectors_hear consistent w
  have kept := course.of_same consistent.registry same.registry same.memoryless same.threshold
  rcases hear_cases e w with ⟨other, d, asked, found, shape⟩ | ⟨-, stays | ⟨d, left⟩⟩
  · obtain rfl : name = other := by
      rw [course.asked] at asked
      cases asked
      rfl
    have verdict := kept.verdict
    rw [shape] at verdict ⊢
    refine ⟨course.asked, course.rest, course.own, verdict, ?_⟩
    rintro answer told
    cases told
    exact answerOf_after_ask consistent.registry found w.code
  · rw [stays]
    exact kept
  · rw [course.asked] at left
    cases left

/-- What is admitted is what the sequential protocol accepts of the detector. -/
theorem filter_admits {code : Snippet} {answer : Option Detection}
    (told : (e.registry.get? name).map (Registry.answerOf · code) = some answer) :
    (answer.filter fun d => (Held.registered name).admits e d) =
      e.registry.acceptedFrom e.threshold code name := by
  obtain ⟨d, found, rfl⟩ := Option.map_eq_some_iff.mp told
  rw [Registry.acceptedFrom, found]
  simp only [Held.admits, found, Option.any_some]
  rfl

theorem next?_key {code : Snippet} {key : Option String} {held : List Held}
    (next : next? code key held = some w) : w.key = key := by
  cases held with
  | nil => cases next
  | cons asked rest =>
    cases next
    rfl

/-- To resume changes nothing but the cache, and that only when the detection stores. -/
theorem resume_cases (e : Engine) (w : Waiting) :
    ((w.resume e).1 = e ∨
      ∃ key d, w.key = some key ∧ (w.resume e).1 = e.store key (some d)) ∧
      ∀ next, (w.resume e).2 = some next → next.key = w.key := by
  unfold resume
  split
  · refine ⟨.inl rfl, ?_⟩
    rintro next same
    cases same
    rfl
  · split
    · next d _ =>
      refine ⟨?_, fun next same => by cases same⟩
      cases keyed : w.key with
      | none => exact .inl rfl
      | some key => exact .inr ⟨key, d, rfl, rfl⟩
    · exact ⟨.inl rfl, fun _ next => next?_key next⟩

theorem sameDetectors_resume (consistent : e.Consistent) (w : Waiting) :
    e.SameDetectors (w.resume e).1 := by
  rcases (resume_cases e w).1 with same | ⟨key, d, -, same⟩
  · rw [same]
    exact .refl consistent
  · rw [same]
    exact Engine.sameDetectors_store consistent key (some d)

/-- A detection on course that resumes stores the verdict, or stays on course. -/
theorem OnCourse.resume (course : w.OnCourse e name names) (consistent : e.Consistent)
    (sound : e.Sound) : (w.resume e).1.Sound ∧
      ∀ next, (w.resume e).2 = some next → ∃ name names, next.OnCourse e name names := by
  unfold Waiting.resume
  cases told : w.heard with
  | none =>
    refine ⟨sound, ?_⟩
    rintro next same
    cases same
    exact ⟨name, names, course⟩
  | some answer =>
    have verdict := course.verdict
    rw [List.findSome?_cons] at verdict
    dsimp only
    rw [course.asked, filter_admits (course.heard answer told)]
    cases accepted : e.registry.acceptedFrom e.threshold w.code name with
    | some d =>
      rw [accepted] at verdict
      dsimp only
      refine ⟨?_, fun next same => by cases same⟩
      cases keyed : w.key with
      | none => exact sound
      | some text =>
        rw [course.own text keyed] at verdict
        exact sound.store consistent verdict.symm
    | none =>
      rw [accepted] at verdict
      refine ⟨sound, fun next same => ?_⟩
      dsimp only at same
      rw [course.rest] at same
      exact onCourse_next? course.own verdict same

end Waiting

/-! ### Undisturbed runs -/

/-- An action that keeps the detectors, their settings and the threshold. -/
structure Engine.Keeps (e : Engine) (action : Action) : Prop where
  memoryless : (e.after action).registry.memoryless = e.registry.memoryless
  threshold : (e.after action).threshold = e.threshold
  attached : ∀ name, action.drops name = true → e.registry.get? name = none

theorem Held.follow_of_keeps {e : Engine} {action : Action} (keeps : e.Keeps action)
    (name : String) : (registered name).follow e action = registered name := by
  unfold follow
  split
  · next name' same =>
    cases same
    split
    · next d drops found =>
      rw [keeps.attached name drops] at found
      cases found
    · rfl
  · next same => cases same

theorem Waiting.OnCourse.follow {e : Engine} {w : Waiting} {name : String} {names : List String}
    (course : w.OnCourse e name names) (consistent : e.Consistent) {action : Action}
    (wellFormed : action.WellFormed) (keeps : e.Keeps action) :
    (w.follow e action).OnCourse (e.after action) name names := by
  have same : w.follow e action = w := by
    have rest : w.rest.map (·.follow e action) = w.rest := by
      rw [course.rest, List.map_map]
      exact List.map_congr_left fun n _ => Held.follow_of_keeps keeps n
    have asked : w.asked.follow e action = w.asked := by
      rw [course.asked]
      exact Held.follow_of_keeps keeps name
    rw [Waiting.follow, rest, asked]
  rw [same]
  exact course.of_same consistent.registry (consistent.after wellFormed).registry keeps.memoryless
    keeps.threshold

namespace BusyEngine

variable {b : BusyEngine}

/-- A sound cache, and every detection that stores on course. -/
structure Faithful (b : BusyEngine) : Prop where
  consistent : b.engine.Consistent
  sound : b.engine.Sound
  onCourse : ∀ w ∈ b.waiting, w.stores = true →
    ∃ name names, w.OnCourse b.engine name names

/-- Every setting is kept while a detection waits that stores its answer. -/
def Move.Undisturbing (b : BusyEngine) : Move → Prop
  | .act action => b.engine.Keeps action ∨ ∀ w ∈ b.waiting, w.stores = false
  | _ => True

def Move.WellFormed : Move → Prop
  | .act action => action.WellFormed
  | _ => True

theorem Faithful.act (faithful : b.Faithful) {action : Action} (wellFormed : action.WellFormed)
    (undisturbing : Move.Undisturbing b (.act action)) : (b.after (.act action)).Faithful := by
  rw [after]
  refine ⟨faithful.consistent.after wellFormed, faithful.sound.after faithful.consistent action, ?_⟩
  intro moved mem stores
  obtain ⟨w, there, rfl⟩ := List.mem_map.mp mem
  rcases undisturbing with keeps | none
  · obtain ⟨name, names, course⟩ := faithful.onCourse w there stores
    exact ⟨name, names, course.follow faithful.consistent wellFormed keeps⟩
  · have idle := none w there
    rw [show w.stores = true from stores] at idle
    cases idle

/-- The same detectors and no new entries in the cache. -/
theorem Faithful.onCourse_of_same (faithful : b.Faithful) {engine : Engine}
    (same : b.engine.SameDetectors engine) {w : Waiting} (mem : w ∈ b.waiting)
    (stores : w.stores = true) : ∃ name names, w.OnCourse engine name names := by
  obtain ⟨name, names, course⟩ := faithful.onCourse w mem stores
  exact ⟨name, names, course.of_same faithful.consistent.registry same.registry same.memoryless
    same.threshold⟩

theorem Faithful.hear (faithful : b.Faithful) (index : Nat) : (b.after (.hear index)).Faithful := by
  rw [after]
  split
  · exact faithful
  · next w found =>
    dsimp only
    obtain ⟨same, cache⟩ := Waiting.sameDetectors_hear faithful.consistent w
    refine ⟨same.consistent faithful.consistent,
      faithful.sound.of_same_cache faithful.consistent same cache, ?_⟩
    intro moved mem stores
    rcases List.mem_or_eq_of_mem_set mem with there | rfl
    · exact faithful.onCourse_of_same same there stores
    · rw [Waiting.stores, Waiting.hear_key] at stores
      obtain ⟨name, names, course⟩ := faithful.onCourse w (List.mem_of_getElem? found) stores
      exact ⟨name, names, course.hear faithful.consistent⟩

theorem Faithful.resume (faithful : b.Faithful) (index : Nat) :
    (b.after (.resume index)).Faithful := by
  rw [after]
  split
  · exact faithful
  · next w found =>
    dsimp only
    have here := List.mem_of_getElem? found
    have same := Waiting.sameDetectors_resume faithful.consistent w
    obtain ⟨engine, nextKey⟩ := Waiting.resume_cases b.engine w
    refine ⟨same.consistent faithful.consistent, ?_, ?_⟩
    · rcases engine with unchanged | ⟨key, d, keyed, -⟩
      · rw [unchanged]
        exact faithful.sound
      · have stores : w.stores = true := congrArg Option.isSome keyed
        obtain ⟨name, names, course⟩ := faithful.onCourse w here stores
        exact (course.resume faithful.consistent faithful.sound).1
    · intro moved mem stores
      rcases List.mem_append.mp mem with front | behind
      · rcases List.mem_append.mp front with before | next
        · exact faithful.onCourse_of_same same (List.mem_of_mem_take before) stores
        · have goesOn := Option.mem_toList.mp next
          have storing : w.stores = true :=
            (congrArg Option.isSome (nextKey moved goesOn)).symm.trans stores
          obtain ⟨name, names, course⟩ := faithful.onCourse w here storing
          obtain ⟨name, names, later⟩ :=
            (course.resume faithful.consistent faithful.sound).2 moved goesOn
          exact ⟨name, names, later.of_same faithful.consistent.registry same.registry
            same.memoryless same.threshold⟩
      · exact faithful.onCourse_of_same same (List.mem_of_mem_drop behind) stores

/-- The enabled detectors, held by their names. -/
theorem map_held_inOrder {r : Registry} (wellFormed : r.WellFormed) :
    (r.inOrder.map fun d => Held.registered d.name) = r.order.map .registered := by
  rw [← wellFormed.orderly.map_name_inOrder, List.map_map]
  rfl

/-- To begin a detection is to look into the cache or not to, and then to be done or to wait for the
enabled detectors. -/
theorem start_cases (b : BusyEngine) (code : Snippet) (useCache : Option Bool) :
    ∃ engine, (engine = b.engine ∨ ∃ key, engine = (b.engine.lookUp key).2) ∧
      (b.start code useCache = { b with engine } ∨
        code.isBlank = false ∧ ∃ key : Option String, (∀ text, key = some text → code = text) ∧
          b.start code useCache =
            { engine, waiting := b.waiting ++ (Waiting.next? code key
                (engine.registry.inOrder.map fun d => Held.registered d.name)).toList }) := by
  rcases b.engine.key?_cases code (useCache.getD b.engine.cache.isSome) with
    ⟨key, has, own⟩ | ⟨error, -, lacks⟩
  · refine ⟨(key.elim (none, b.engine) b.engine.lookUp).2, ?_, ?_⟩
    · cases key with
      | none => exact .inl rfl
      | some text => exact .inr ⟨text, rfl⟩
    · rw [start, has]
      dsimp only
      split
      · exact .inl rfl
      · next goesOn =>
        simp only [Bool.or_eq_true, not_or, Bool.not_eq_true] at goesOn
        exact .inr ⟨goesOn.2, key, own, rfl⟩
  · refine ⟨b.engine, .inl rfl, .inl ?_⟩
    rw [start, lacks]

theorem Faithful.start (faithful : b.Faithful) (code : Snippet) (useCache : Option Bool) :
    (b.start code useCache).Faithful := by
  obtain ⟨engine, looked, began⟩ := b.start_cases code useCache
  have same : b.engine.SameDetectors engine := by
    rcases looked with rfl | ⟨key, rfl⟩
    · exact .refl faithful.consistent
    · exact Engine.sameDetectors_lookUp faithful.consistent key
  have sound : engine.Sound := by
    rcases looked with rfl | ⟨key, rfl⟩
    · exact faithful.sound
    · exact faithful.sound.lookUp faithful.consistent key
  have consistent := same.consistent faithful.consistent
  rcases began with ended | ⟨asked, key, own, waits⟩
  · rw [ended]
    exact ⟨consistent, sound, fun w mem stores => faithful.onCourse_of_same same mem stores⟩
  · rw [waits]
    refine ⟨consistent, sound, fun w mem stores => ?_⟩
    rcases List.mem_append.mp mem with old | new
    · exact faithful.onCourse_of_same same old stores
    · rw [map_held_inOrder consistent.registry] at new
      refine Waiting.onCourse_next? own ?_ (Option.mem_toList.mp new)
      rw [Engine.verdict, asked]
      rfl

/-- Every move keeps the cache sound, unless it disturbs a detection that stores. -/
theorem Faithful.after (faithful : b.Faithful) {move : Move} (wellFormed : move.WellFormed)
    (undisturbing : move.Undisturbing b) : (b.after move).Faithful := by
  cases move with
  | act action => exact faithful.act wellFormed undisturbing
  | start code useCache => exact faithful.start code useCache
  | hear index => exact faithful.hear index
  | resume index => exact faithful.resume index

/-- A run in which no setting changes while a detection waits that stores its answer. -/
def Undisturbed (b : BusyEngine) : List Move → Prop
  | [] => True
  | move :: rest => move.Undisturbing b ∧ (b.after move).Undisturbed rest

theorem Faithful.run (faithful : b.Faithful) {moves : List Move}
    (wellFormed : ∀ move ∈ moves, move.WellFormed) (undisturbed : b.Undisturbed moves) :
    (b.run moves).Faithful := by
  induction moves generalizing b with
  | nil => exact faithful
  | cons move rest ih =>
    have later := faithful.after (wellFormed move List.mem_cons_self) undisturbed.1
    exact ih later (fun other mem => wellFormed other (List.mem_cons_of_mem _ mem)) undisturbed.2

theorem faithful_create {o : Engine.Options} {clock : Binary64} {e : Engine}
    (made : Engine.create o clock = .ok e) : Faithful ⟨e, []⟩ where
  consistent := Engine.consistent_create made
  sound := Engine.sound_create made
  onCourse w mem := by cases mem

/-- However detections overlap, with the cache they answer as without it, as long as no setting
changes while a detection waits that stores its answer. What is no text is refused by a cache, and
comes to nothing. -/
theorem detect_eq_of_undisturbed {o : Engine.Options} {clock : Binary64} {e : Engine}
    (made : Engine.create o clock = .ok e) {moves : List Move}
    (wellFormed : ∀ move ∈ moves, move.WellFormed) (undisturbed : Undisturbed ⟨e, []⟩ moves)
    (code : Snippet) :
    let later := (run ⟨e, []⟩ moves).engine
    ∃ answer, (later.detect code false).1 = .ok answer ∧
      ((later.cache = none ∨ ∃ text : String, code = text) →
        (later.detect code true).1 = .ok answer) ∧
      ∀ error, later.cache.isSome = true → code.encode = .error error →
        later.detect code true = (.error (.unencodable error), later) := by
  intro later
  have faithful := (faithful_create made).run wellFormed undisturbed
  refine ⟨later.verdict code, ?_, ?_, fun _ => Engine.detect_of_unencodable⟩
  · exact Engine.detect_of_answerable faithful.consistent faithful.sound (.inl rfl)
  · intro asks
    apply Engine.detect_of_answerable faithful.consistent faithful.sound
    exact asks.imp_left fun none => by rw [none]; rfl

/-- Two detections of one snippet that overlap, with a refused configuration in between. -/
def overlapping : List Move :=
  [.act (.register Engine.eager), .start "x = 1" none, .start "x = 1" none, .hear 0,
    .act (.configure .null), .hear 1, .resume 0, .resume 0]

theorem wellFormed_eager : Engine.eager.WellFormed :=
  ⟨isGate_one, fun c same => by cases same⟩

theorem detect_eq_of_undisturbed_overlapping :
    Undisturbed ⟨Engine.blank, []⟩ overlapping ∧
      (run ⟨Engine.blank, []⟩ overlapping).waiting.length = 0 ∧
      ((run ⟨Engine.blank, []⟩ overlapping).engine.detect "x = 1" true).1 =
        ((run ⟨Engine.blank, []⟩ overlapping).engine.detect "x = 1" false).1 := by
  have wellFormed : ∀ move ∈ overlapping, move.WellFormed := by
    intro move mem
    simp only [overlapping, List.mem_cons, List.not_mem_nil, or_false] at mem
    rcases mem with rfl | rfl | rfl | rfl | rfl | rfl | rfl | rfl
    · exact wellFormed_eager
    all_goals trivial
  have undisturbed : Undisturbed ⟨Engine.blank, []⟩ overlapping := by
    refine ⟨.inr fun w mem => ?_, trivial, trivial, trivial, .inl ⟨rfl, rfl, ?_⟩, trivial, trivial,
      trivial, trivial⟩
    · cases mem
    · rintro name drops
      cases drops
  obtain ⟨answer, fresh, cached, -⟩ :=
    detect_eq_of_undisturbed Engine.create_default wellFormed undisturbed "x = 1"
  exact ⟨undisturbed, by decide +kernel, (cached (.inr ⟨_, rfl⟩)).trans fresh.symm⟩

/-- A detector that is forgotten after it has answered and before the answer is taken up. -/
def late : List Move :=
  [.act (.register Engine.eager), .start "x = 1" none, .hear 0, .act (.unregister "eager"),
    .resume 0]

/-- The cache may keep an answer that was given before a write. -/
theorem not_detect_eq_of_run :
    ¬ ∀ (o : Engine.Options) (clock : Binary64) (e : Engine) (moves : List Move) (code : String),
      Engine.create o clock = .ok e → (∀ move ∈ moves, move.WellFormed) →
        (run ⟨e, []⟩ moves).waiting.length = 0 →
        ((run ⟨e, []⟩ moves).engine.detect code true).1 =
          ((run ⟨e, []⟩ moves).engine.detect code false).1 := by
  intro always
  have wellFormed : ∀ move ∈ late, move.WellFormed := by
    intro move mem
    simp only [late, List.mem_cons, List.not_mem_nil, or_false] at mem
    rcases mem with rfl | rfl | rfl | rfl | rfl
    · exact wellFormed_eager
    all_goals trivial
  have stale : ((run ⟨Engine.blank, []⟩ late).engine.detect "x = 1" true).1 ≠
      ((run ⟨Engine.blank, []⟩ late).engine.detect "x = 1" false).1 := by
    decide +kernel
  exact stale (always {} Binary64.zero Engine.blank late "x = 1" Engine.create_default wellFormed
    (by decide +kernel))

/-! ### A detection alone -/

/-- The first detection that waits hears its detector and goes on, so many times. -/
def turns : Nat → List Move
  | 0 => []
  | n + 1 => .hear 0 :: .resume 0 :: turns n

theorem run_turns_nil (e : Engine) (n : Nat) : run ⟨e, []⟩ (turns n) = ⟨e, []⟩ := by
  induction n with
  | zero => rfl
  | succ n ih => exact ih

/-- Detectors that are asked with nothing in between are asked as by the sequential protocol. -/
theorem run_turns {e : Engine} (wellFormed : e.registry.WellFormed) (code : Snippet)
    (key : Option String) {names : List String}
    (known : ∀ name ∈ names, e.registry.isRegistered name = true) :
    run ⟨e, (Waiting.next? code key (names.map .registered)).toList⟩ (turns names.length) =
      let answered := Registry.firstAccepted e.threshold code names e.registry
      let asked : Engine := { e with registry := answered.2 }
      ⟨key.elim asked fun text => asked.store text answered.1, []⟩ := by
  induction names generalizing e with
  | nil => cases key <;> rfl
  | cons name rest ih =>
    obtain ⟨d, found⟩ := Option.isSome_iff_exists.mp (known name List.mem_cons_self)
    have here := wellFormed.get?_name found
    have asked := wellFormed.ask here code
    have memoryless := Registry.memoryless_ask here code
    have accepted := Registry.acceptedFrom_congr wellFormed asked memoryless e.threshold code
    let asking : Waiting :=
      { code, key, asked := .registered name, rest := rest.map .registered, heard := none }
    let later : Engine := { e with registry := (e.registry.ask d code).2 }
    let told : Waiting := { asking with heard := some (Registry.answerOf d code) }
    have hears : after ⟨e, [asking]⟩ (.hear 0) = ⟨later, [told]⟩ := by
      simp only [after, List.getElem?_cons_zero, Waiting.hear, asking, found]
      rfl
    have resumes : after ⟨later, [told]⟩ (.resume 0) =
        ⟨(told.resume later).1, (told.resume later).2.toList⟩ := by
      simp [after]
    have admitted : ((Registry.answerOf d code).filter fun answer =>
        (Held.registered name).admits later answer) =
          e.registry.acceptedFrom e.threshold code name := by
      rw [Waiting.filter_admits (Waiting.answerOf_after_ask wellFormed found code)]
      exact congrFun accepted name
    have steps : run ⟨e, [asking]⟩ (turns (rest.length + 1)) =
        run ⟨(told.resume later).1, (told.resume later).2.toList⟩ (turns rest.length) := by
      rw [← resumes, ← hears]
      rfl
    rw [Registry.firstAccepted_cons, found]
    refine steps.trans ?_
    cases answered : e.registry.acceptedFrom e.threshold code name with
    | some answer =>
      rw [answered] at admitted
      have ends : told.resume later =
          (key.elim later fun text => later.store text (some answer), none) := by
        simp only [Waiting.resume, told, asking, admitted]
      rw [ends]
      exact run_turns_nil _ _
    | none =>
      rw [answered] at admitted
      have goesOn : told.resume later =
          (later, Waiting.next? code key (rest.map .registered)) := by
        simp only [Waiting.resume, told, asking, admitted]
      have knownLater : ∀ n ∈ rest, later.registry.isRegistered n = true := by
        intro n mem
        rw [← Registry.isRegistered_memoryless, show later.registry.memoryless = _ from memoryless,
          Registry.isRegistered_memoryless]
        exact known n (List.mem_cons_of_mem _ mem)
      rw [goesOn]
      exact ih asked knownLater

/-- A detection that nothing interrupts is the detection of the engine. -/
theorem run_start_turns {e : Engine} (consistent : e.Consistent) (code : Snippet)
    (useCache : Option Bool) :
    run ⟨e, []⟩ (.start code useCache :: turns e.registry.order.length) =
      ⟨(e.detectDefault code useCache).2, []⟩ := by
  have fresh {e : Engine} (wellFormed : e.registry.WellFormed) (key : Option String)
      (asked : code.isBlank = false) :
      run ⟨e, (Waiting.next? code key (e.registry.inOrder.map fun d =>
          Held.registered d.name)).toList⟩ (turns e.registry.order.length) =
        ⟨key.elim (e.detectFresh code).2 fun text =>
          (e.detectFresh code).2.store text (e.detectFresh code).1, []⟩ := by
    rw [map_held_inOrder wellFormed, run_turns wellFormed code key wellFormed.known,
      Engine.detectFresh, asked]
    rfl
  have blank {e : Engine} (asked : code.isBlank = true) : e.detectFresh code = (none, e) := by
    rw [Engine.detectFresh, asked]
    rfl
  show run (start ⟨e, []⟩ code useCache) (turns e.registry.order.length) = _
  rw [start, Engine.detectDefault, Engine.detect]
  dsimp only
  rcases e.key?_cases code (useCache.getD e.cache.isSome) with ⟨key, has, -⟩ | ⟨error, -, lacks⟩
  · rw [has]
    cases key with
    | none =>
      cases asked : code.isBlank with
      | true =>
        simp only [Engine.detectUnder, blank asked]
        exact run_turns_nil e _
      | false => exact fresh consistent.registry none asked
    | some text =>
      have looked : (e.lookUp text).2.registry = e.registry := by
        unfold Engine.lookUp
        split <;> rfl
      have wellFormed := looked ▸ consistent.registry
      rcases look : e.lookUp text with ⟨found, engine⟩
      rw [look] at looked wellFormed
      simp only [Engine.detectUnder, Option.elim, look]
      cases found with
      | some d => exact run_turns_nil engine _
      | none =>
        cases asked : code.isBlank with
        | true =>
          simp only [blank asked]
          exact run_turns_nil engine _
        | false =>
          rw [← show engine.registry = e.registry from looked]
          exact fresh wellFormed (some text) asked
  · rw [lacks]
    exact run_turns_nil e _

end BusyEngine

end SnippetDetect
