import SnippetDetect.Engine.Detect
import SnippetDetect.Proofs.Detector.Answers
import SnippetDetect.Proofs.Registry.Asking

/-!
What the sequential and the exhaustive protocol answer, and whom they ask.

The sequential protocol answers what the first enabled detector says that qualifies, and asks the
detectors up to that one (`detectFresh_first_qualifying`). The exhaustive protocol ranks the answers of
all registered detectors and asks each of them, whatever the order of detection
(`detectAll_ranked`). Both are told of the registry as it is before the detection: no detector is
asked twice, so what a detector remembers does not matter.
-/

namespace SnippetDetect

open SnippetDetect.Text

/-- The detector answers a snippet, surely enough, by a language that it accepts. -/
structure Detector.Qualifies (threshold : Number) (code : Snippet) (d : Detector)
    (answer : Detection) : Prop where
  answers : (d.detect code).1 = .ok (some answer)
  sure : threshold.le answer.confidence = true
  accepts : d.accepts answer.language = true

namespace Registry

variable {d : Detector} {code : Snippet} {threshold : Number} {answer : Detection}

theorem answerOf_eq_some_iff : answerOf d code = some answer ↔
    (d.detect code).1 = .ok (some answer) := by
  unfold answerOf
  cases (d.detect code).1 with
  | error fault => simp
  | ok found => simp

theorem accepted_eq_some_iff (inRange : threshold.within 0 100 = true) :
    accepted threshold code d = some answer ↔ d.Qualifies threshold code answer := by
  have sure : threshold.le answer.confidence = !answer.confidence.lt threshold :=
    Number.le_eq_not_lt (Number.isSome_place?_of_within inRange) answer.isSome_place?
  rw [accepted, Option.filter_eq_some_iff, answerOf_eq_some_iff, Bool.and_eq_true]
  constructor
  · rintro ⟨there, reaches, accepts⟩
    exact ⟨there, sure.trans reaches, accepts⟩
  · rintro ⟨there, reaches, accepts⟩
    exact ⟨there, sure.symm.trans reaches, accepts⟩

theorem accepted_eq_none_iff (inRange : threshold.within 0 100 = true) :
    accepted threshold code d = none ↔ ∀ answer, ¬ d.Qualifies threshold code answer := by
  rw [Option.eq_none_iff_forall_ne_some]
  exact forall_congr' fun answer => not_congr (accepted_eq_some_iff inRange)

/-- The last detector that is asked is the first one that qualifies, or all are asked and none
qualifies. -/
theorem askedOf_qualifies {ds : List Detector} (inRange : threshold.within 0 100 = true) :
    (∃ before d answer, askedOf threshold code ds = before ++ [d] ∧
        (∀ other ∈ before, ∀ weak, ¬ other.Qualifies threshold code weak) ∧
        d.Qualifies threshold code answer ∧
        ds.findSome? (accepted threshold code) = some answer) ∨
      (askedOf threshold code ds = ds ∧ (∀ d ∈ ds, ∀ weak, ¬ d.Qualifies threshold code weak) ∧
        ds.findSome? (accepted threshold code) = none) := by
  rcases askedOf_cases threshold code ds with
    ⟨all, none, found⟩ | ⟨before, d, behind, answer, parts, upTo, none, taken, found⟩
  · right
    refine ⟨all, ?_, found⟩
    intro d mem
    exact (accepted_eq_none_iff inRange).mp (none d mem)
  · left
    refine ⟨before, d, answer, upTo, ?_, ?_, found⟩
    · intro other mem
      exact (accepted_eq_none_iff inRange).mp (none other mem)
    · exact (accepted_eq_some_iff inRange).mp taken

end Registry

namespace Engine

variable {e : Engine} {code : Snippet}

/-- The engine after some of its detectors were asked about a snippet, each of them once. -/
def asking (e : Engine) (code : Snippet) (asked : List Detector) : Engine :=
  { e with registry := e.registry.mapDetectors (Registry.afterAsking code asked) }

/-- The engine with detectors that count how often they are asked. -/
def counting (e : Engine) : Engine :=
  { e with registry := e.registry.mapDetectors Detector.counted }

/-- How often the detector under a name was asked, if there is one. -/
def callsOf (e : Engine) (name : String) : Option Nat := (e.registry.get? name).map Detector.calls

theorem orderly_counting (orderly : e.registry.Orderly) : e.counting.registry.Orderly :=
  orderly.mapDetectors Detector.counted_name

/-- What detectors that count have counted after they were asked. -/
theorem callsOf_counting_asking (orderly : e.registry.Orderly) (asked : List Detector)
    (name : String) :
    (e.counting.asking code (asked.map Detector.counted)).callsOf name =
      (e.registry.get? name).map fun _ => if name ∈ asked.map (·.name) then 1 else 0 := by
  have names : (asked.map Detector.counted).map (·.name) = asked.map (·.name) := by
    rw [List.map_map]
    rfl
  rw [callsOf, asking, Registry.get?_mapDetectors, counting, Registry.get?_mapDetectors]
  cases found : e.registry.get? name with
  | none => rfl
  | some d =>
    have called : d.name = name := orderly.name_of_get? found
    simp only [Option.map_some, Registry.afterAsking, names, Detector.counted_name, called]
    split
    · rw [Detector.calls_detect_counted]
    · rw [Detector.calls_counted]

/-! ### The sequential protocol -/

theorem detectFresh_eq (orderly : e.registry.Orderly) (asked : code.isBlank = false) :
    e.detectFresh code =
      (e.registry.inOrder.findSome? (Registry.accepted e.threshold code),
        e.asking code (Registry.askedOf e.threshold code e.registry.inOrder)) := by
  rw [detectFresh, if_neg (by simp [asked]),
    Registry.firstAccepted_eq orderly e.threshold code orderly.ordered]
  rfl

theorem detectFresh_counting (orderly : e.registry.Orderly) (asked : code.isBlank = false) :
    e.counting.detectFresh code =
      ((e.detectFresh code).1, e.counting.asking code
        ((Registry.askedOf e.threshold code e.registry.inOrder).map Detector.counted)) := by
  have same : Registry.accepted e.threshold code ∘ Detector.counted =
      Registry.accepted e.threshold code := funext (Registry.accepted_counted e.threshold code)
  have order : e.counting.registry.inOrder = e.registry.inOrder.map Detector.counted :=
    Registry.inOrder_mapDetectors e.registry Detector.counted
  rw [detectFresh_eq (orderly_counting orderly) asked, detectFresh_eq orderly asked, order,
    List.findSome?_map, Registry.askedOf_map_counted]
  congr 2

/-- A snippet that is not blank is handed to the enabled detectors in order, to each of them once,
until one qualifies; that one gives the answer, and without one there is no answer. No other
detector is asked. -/
theorem detectFresh_first_qualifying (orderly : e.registry.Orderly)
    (inRange : e.threshold.within 0 100 = true) (asked : code.isBlank = false) :
    ∃ tried rest, e.registry.inOrder = tried ++ rest ∧
      ((∃ before d answer, tried = before ++ [d] ∧
          (∀ other ∈ before, ∀ weak, ¬ other.Qualifies e.threshold code weak) ∧
          d.Qualifies e.threshold code answer ∧ (e.detectFresh code).1 = some answer) ∨
        (rest = [] ∧ (∀ d ∈ tried, ∀ weak, ¬ d.Qualifies e.threshold code weak) ∧
          (e.detectFresh code).1 = none)) ∧
      (e.detectFresh code).2 = e.asking code tried ∧
      (e.counting.detectFresh code).1 = (e.detectFresh code).1 ∧
      ∀ name, (e.counting.detectFresh code).2.callsOf name =
        (e.registry.get? name).map fun _ => if name ∈ tried.map (·.name) then 1 else 0 := by
  have fresh := detectFresh_eq orderly asked
  have counted := detectFresh_counting orderly asked
  obtain ⟨rest, parts⟩ := Registry.exists_askedOf_append e.threshold code e.registry.inOrder
  refine ⟨_, rest, parts, ?_, by rw [fresh], by rw [counted], ?_⟩
  · rw [fresh]
    rcases Registry.askedOf_qualifies inRange with found | ⟨all, none, nothing⟩
    · exact .inl found
    · right
      refine ⟨by simpa [all] using parts, ?_, nothing⟩
      rw [all]
      exact none
  · intro name
    rw [counted]
    exact callsOf_counting_asking orderly _ name

/-- A detector of the user's that says one thing, and may have an allow-list. -/
def saying (name : String) (outcome : Except Fault (Option Detection))
    (allowed : Option (List String)) : Detector where
  name := name
  displayName := ""
  description := ""
  gate := Binary64.one
  strategy := .custom
    { kind := "Saying", languages := [], answer := fun _ _ _ => outcome
      capability := allowed.elim .none (.selectable {}) }

/-- An answer below the usual threshold of 70. -/
def weak : Detection := .ofPoints "python" 60 "unsure"

/-- An answer whose language is not allowed. -/
def barred : Detection := .ofPoints "python" 90 "strict"

/-- An answer that no one asks for. -/
def disabled : Detection := .ofPoints "rust" 90 "off"

/-- An answer that just reaches the threshold. -/
def sufficient : Detection := .ofPoints "python" 70 "sure"

/-- The surest answer, which comes too late. -/
def surest : Detection := .ofPoints "java" 100 "late"

/-- One detector for every way to be passed over, one that qualifies and two that are not asked. -/
def panel : Engine where
  registry := Registry.run [
    .register (saying "failing" (.error (.failed "no")) none),
    .register (saying "silent" (.ok none) none),
    .register (saying "unsure" (.ok (some weak)) none),
    .register (saying "strict" (.ok (some barred)) (some ["go"])),
    .register (saying "off" (.ok (some disabled)) none),
    .register (saying "sure" (.ok (some sufficient)) (some ["python"])),
    .register (saying "late" (.ok (some surest)) none),
    .disable "off"]
  threshold := 70
  allowed := []
  cache := none
  clock := Binary64.zero

theorem detectFresh_first_qualifying_panel :
    panel.registry.Orderly ∧ panel.threshold.within 0 100 = true ∧
      Snippet.isBlank "x = 1" = false ∧ (panel.detectFresh "x = 1").1 = some sufficient ∧
      panel.registry.names.map (panel.counting.detectFresh "x = 1").2.callsOf =
        [some 1, some 1, some 1, some 1, some 0, some 1, some 0] ∧
      ∃ tried rest, panel.registry.inOrder = tried ++ rest ∧
        (panel.detectFresh "x = 1").2 = panel.asking "x = 1" tried := by
  have orderly : panel.registry.Orderly := Registry.run_orderly _
  have inRange : panel.threshold.within 0 100 = true := by decide +kernel
  have asked : Snippet.isBlank "x = 1" = false := by decide
  obtain ⟨tried, rest, parts, -, after, -⟩ := detectFresh_first_qualifying orderly inRange asked
  exact ⟨orderly, inRange, asked, by decide +kernel, by decide +kernel, tried, rest, parts, after⟩

/-! ### The exhaustive protocol -/

theorem detectAll_eq (orderly : e.registry.Orderly) (asked : code.isBlank = false) :
    e.detectAll code =
      (Detection.rank (e.registry.all.filterMap (Registry.answerOf · code)),
        e.asking code e.registry.all) := by
  rw [detectAll, if_neg (by simp [asked]), Registry.askEach_all_eq orderly code]
  rfl

theorem detectAll_counting (orderly : e.registry.Orderly) (asked : code.isBlank = false) :
    e.counting.detectAll code =
      ((e.detectAll code).1,
        e.counting.asking code (e.registry.all.map Detector.counted)) := by
  have all : e.counting.registry.all = e.registry.all.map Detector.counted :=
    Registry.all_mapDetectors e.registry Detector.counted
  have same : (Registry.answerOf · code) ∘ Detector.counted = (Registry.answerOf · code) :=
    funext fun d => Registry.answerOf_counted d code
  rw [detectAll_eq (orderly_counting orderly) asked, detectAll_eq orderly asked, all,
    List.filterMap_map, same]

/-- Every registered detector counts one question. -/
theorem callsOf_counting_asking_all (orderly : e.registry.Orderly) (name : String) :
    (e.counting.asking code (e.registry.all.map Detector.counted)).callsOf name =
      (e.registry.get? name).map fun _ => 1 := by
  rw [callsOf_counting_asking orderly]
  cases found : e.registry.get? name with
  | none => rfl
  | some d =>
    have listed : name ∈ e.registry.all.map (·.name) := by
      rw [orderly.map_name_all]
      exact Registry.isRegistered_iff.mp (by rw [Registry.isRegistered, found]; rfl)
    rw [Option.map_some, if_pos listed]
    rfl

/-- Nothing but the registered detectors matters for the answers of all of them. -/
theorem detectAll_congr {other : Engine} (orderly : e.registry.Orderly)
    (orderlyOther : other.registry.Orderly) (asked : code.isBlank = false)
    (same : other.registry.detectors = e.registry.detectors) :
    (other.detectAll code).1 = (e.detectAll code).1 := by
  have all : other.registry.all = e.registry.all := by rw [Registry.all, same, Registry.all]
  rw [detectAll_eq orderlyOther asked, detectAll_eq orderly asked, all]

/-- A snippet that is not blank is handed to every registered detector once. Their answers come back
each of them once, the surest first and equally sure ones in the order of registration, whatever
the order of detection and the threshold are. -/
theorem detectAll_ranked (orderly : e.registry.Orderly) (asked : code.isBlank = false) :
    let answers := e.registry.all.filterMap (Registry.answerOf · code)
    let ranked := (e.detectAll code).1
    ranked.Perm answers ∧
      ranked.Pairwise (fun a b => b.confidence.le a.confidence = true) ∧
      (∀ confidence, ranked.filter (·.confidence.same confidence) =
        answers.filter (·.confidence.same confidence)) ∧
      (e.detectAll code).2 = e.asking code e.registry.all ∧
      (e.counting.detectAll code).1 = ranked ∧
      (∀ name, (e.counting.detectAll code).2.callsOf name =
        (e.registry.get? name).map fun _ => 1) ∧
      ∀ other : Engine, other.registry.Orderly →
        other.registry.detectors = e.registry.detectors → (other.detectAll code).1 = ranked := by
  intro answers ranked
  have all := detectAll_eq orderly asked
  have counted := detectAll_counting orderly asked
  have ranks : ranked = Detection.rank answers := congrArg Prod.fst all
  refine ⟨?_, ?_, ?_, by rw [all], by rw [counted], ?_, ?_⟩
  · rw [ranks]
    exact Detection.rank_perm answers
  · rw [ranks]
    exact Detection.pairwise_rank answers
  · rw [ranks]
    exact Detection.filter_rank answers
  · intro name
    rw [counted]
    exact callsOf_counting_asking_all orderly name
  · intro other orderlyOther same
    exact detectAll_congr orderly orderlyOther asked same

theorem detectAll_ranked_panel :
    panel.registry.Orderly ∧ Snippet.isBlank "x = 1" = false ∧
      panel.registry.order = ["failing", "silent", "unsure", "strict", "sure", "late"] ∧
      (panel.detectAll "x = 1").1.length = 5 ∧
      (panel.detectAll "x = 1").1.filter (·.confidence.same 90) =
        [barred, disabled] ∧
      panel.registry.names.map (panel.counting.detectAll "x = 1").2.callsOf =
        List.replicate 7 (some 1) := by
  have orderly : panel.registry.Orderly := Registry.run_orderly _
  have asked : Snippet.isBlank "x = 1" = false := by decide
  obtain ⟨perm, -, level, -, -, calls, -⟩ := detectAll_ranked orderly asked
  refine ⟨orderly, asked, by decide, ?_, ?_, ?_⟩
  · rw [perm.length_eq]
    decide
  · rw [level]
    decide +kernel
  · rw [List.map_congr_left fun name _ => calls name]
    decide

end Engine

end SnippetDetect
