import SnippetDetect.Proofs.Engine.BlankCode
import SnippetDetect.Proofs.Engine.Protocols

/-!
What an analysis says.

An analysis is put together from the answers of the two protocols before it starts
(`analyze_fst`). It parts the answers of all detectors at the acceptance threshold and loses none of
them (`analyze_conserves`).

The primary answer is the one of the sequential protocol, which knows the global threshold only. It
reaches the acceptance threshold when that is not above the global one, and where there is none, no
enabled detector reaches an acceptance threshold that is not below the global one
(`analyze_primary`). On the other side of the global threshold neither holds
(`not_primary_reaches_acceptance`).
-/

namespace SnippetDetect

open SnippetDetect.Text

/-! ### Leaving out one detection -/

namespace Analysis

/-- A list without the first detection that is the same as a given one, if there is any. -/
inductive LeavesOut : Option Detection → List Detection → List Detection → Prop where
  | none (ds : List Detection) : LeavesOut .none ds ds
  | absent {p : Detection} {ds : List Detection} (unlike : ∀ d ∈ ds, same p d = false) :
      LeavesOut (some p) ds ds
  | first {p twin : Detection} {before behind : List Detection} (alike : same p twin = true)
      (unlike : ∀ d ∈ before, same p d = false) :
      LeavesOut (some p) (before ++ twin :: behind) (before ++ behind)

theorem leavesOut_eraseP (p : Detection) (ds : List Detection) :
    LeavesOut (some p) ds (ds.eraseP (same p)) := by
  by_cases occurs : ∃ d ∈ ds, same p d = true
  · obtain ⟨d, mem, alike⟩ := occurs
    obtain ⟨twin, before, behind, unlike, alike, parts, rest⟩ := List.exists_of_eraseP mem alike
    rw [rest, parts]
    exact .first alike fun d mem => Bool.eq_false_iff.mpr (unlike d mem)
  · have unlike : ∀ d ∈ ds, same p d = false := by
      intro d mem
      rw [← Bool.not_eq_true]
      exact fun alike => occurs ⟨d, mem, alike⟩
    rw [List.eraseP_of_forall_not fun d mem => Bool.eq_false_iff.mp (unlike d mem)]
    exact .absent unlike

theorem LeavesOut.eq_of_none {ds rest : List Detection} (leaves : LeavesOut .none ds rest) :
    rest = ds := by
  cases leaves
  rfl

/-- What was left out of a list and the rest make up the list. -/
theorem LeavesOut.exists_perm {p : Detection} {ds rest : List Detection}
    (leaves : LeavesOut (some p) ds rest) (occurs : ∃ d ∈ ds, same p d = true) :
    ∃ twin, same p twin = true ∧ (twin :: rest).Perm ds := by
  cases leaves with
  | absent unlike =>
    obtain ⟨d, mem, alike⟩ := occurs
    rw [unlike d mem] at alike
    cases alike
  | first alike _ => exact ⟨_, alike, List.perm_middle.symm⟩

theorem same_confidence {p d : Detection} (alike : same p d = true) :
    p.confidence.same d.confidence = true := by
  simp only [same, Bool.and_eq_true] at alike
  exact alike.1.2

theorem same_self (p : Detection) : same p p = true := by
  obtain ⟨place, stands⟩ := Option.isSome_iff_exists.mp p.isSome_place?
  simp [same, Number.same, stands]

/-- An analysis in which the answers are parted at a threshold and none is lost. -/
structure Conserves (threshold : Number) (all : List Detection) (a : Analysis) : Prop where
  fallbacks : a.fallbacks = all.filter fun d => d.confidence.lt threshold
  alternatives :
    LeavesOut a.primary (all.filter fun d => !d.confidence.lt threshold) a.alternatives
  successful : a.summary.successful = (all.filter fun d => threshold.le d.confidence).length
  consensus :
    a.summary.consensus = Detection.consensus (all.filter fun d => threshold.le d.confidence)

theorem conserves_ofAnswers {threshold : Number} (isNumber : threshold.place?.isSome = true)
    (all : List Detection) (detectors : Nat) (primary : Option Detection) :
    (ofAnswers detectors threshold primary all).Conserves threshold all := by
  have rest : (all.filter fun d => threshold.le d.confidence) =
      all.filter fun d => !d.confidence.lt threshold := by
    apply List.filter_congr
    intro d mem
    exact Number.le_eq_not_lt isNumber d.isSome_place?
  refine ⟨rfl, ?_, rfl, rfl⟩
  rw [← rest]
  cases primary with
  | none => exact .none _
  | some p => exact leavesOut_eraseP p _

/-- With a primary answer among those that are not below the threshold, the parts make up the
whole. -/
theorem Conserves.exists_perm {threshold : Number} {all : List Detection} {a : Analysis}
    (conserves : a.Conserves threshold all)
    (occurs : ∀ p, a.primary = some p → p ∈ all ∧ p.confidence.lt threshold = false) :
    ∃ primary : Option Detection, Option.Rel (fun p twin => same p twin = true) a.primary primary ∧
      (primary.toList ++ a.alternatives ++ a.fallbacks).Perm all := by
  have parts := List.filter_append_perm (fun d => !d.confidence.lt threshold) all
  have below : (all.filter fun d => !(!d.confidence.lt threshold)) = a.fallbacks := by
    rw [conserves.fallbacks]
    simp only [Bool.not_not]
  rw [below] at parts
  have leaves := conserves.alternatives
  cases found : a.primary with
  | none =>
    rw [found] at leaves
    refine ⟨none, .none, ?_⟩
    rw [leaves.eq_of_none]
    exact parts
  | some p =>
    rw [found] at leaves
    obtain ⟨mem, reaches⟩ := occurs p found
    have inside : p ∈ all.filter fun d => !d.confidence.lt threshold :=
      List.mem_filter.mpr ⟨mem, by rw [reaches]; rfl⟩
    obtain ⟨twin, alike, perm⟩ := leaves.exists_perm ⟨p, inside, same_self p⟩
    exact ⟨some twin, .some alike, (perm.append_right a.fallbacks).trans parts⟩

end Analysis

namespace Engine

variable {e : Engine} {code : Snippet}

/-! ### The two protocols together -/

/-- What the detectors remember does not change what they answer. -/
theorem answers_memoryless {r : Registry} (wellFormed : r.WellFormed) (code : Snippet) :
    r.memoryless.all.filterMap (Registry.answerOf · code) =
      r.all.filterMap (Registry.answerOf · code) := by
  rw [Registry.memoryless, Registry.all_mapDetectors, List.filterMap_map]
  apply List.filterMap_congr
  intro d mem
  exact Registry.answerOf_memoryless (wellFormed.of_get? (wellFormed.mem_all_iff.mp mem)) code

/-- Engines with the same detectors have the same answers of all of them. -/
theorem SameDetectors.detectAll_fst {other : Engine} (same : e.SameDetectors other)
    (consistent : e.Consistent) (code : Snippet) :
    (other.detectAll code).1 = (e.detectAll code).1 := by
  cases blank : code.isBlank with
  | true => rw [detectAll_of_blank e blank, detectAll_of_blank other blank]
  | false =>
    rw [detectAll_eq same.registry.orderly blank, detectAll_eq consistent.registry.orderly blank]
    simp only
    rw [← answers_memoryless same.registry, same.memoryless,
      answers_memoryless consistent.registry]

/-- An analysis is made of the answers that the two protocols have before it starts. -/
theorem analyze_fst (consistent : e.Consistent) (code : Snippet) (acceptance : Option Number)
    (alternatives fallbacks : Bool) :
    (e.analyze code acceptance alternatives fallbacks).1 =
      (Analysis.ofAnswers e.registry.size (acceptance.getD e.threshold) (e.detectFresh code).1
        (e.detectAll code).1).restrict alternatives fallbacks := by
  have asked := sameDetectors_detectFresh consistent code
  have askedAll := asked.trans (sameDetectors_detectAll (asked.consistent consistent) code)
  have size : ((e.detectFresh code).2.detectAll code).2.registry.size = e.registry.size := by
    have names := congrArg List.length (Registry.names_of_memoryless askedAll.memoryless)
    simpa [Registry.names, Registry.size] using names
  simp only [analyze, asked.detectAll_fst consistent code, askedAll.threshold, size]

/-- An enabled detector is registered. -/
theorem mem_all_of_mem_inOrder (orderly : e.registry.Orderly) {d : Detector}
    (mem : d ∈ e.registry.inOrder) : d ∈ e.registry.all := by
  obtain ⟨name, -, found⟩ := List.mem_filterMap.mp mem
  rw [orderly.mem_all_iff, orderly.name_of_get? found, found]

/-- What a registered detector answers to a snippet that is not blank is among all answers. -/
theorem mem_detectAll (orderly : e.registry.Orderly) (asked : code.isBlank = false)
    {d : Detector} (there : d ∈ e.registry.all) {answer : Detection}
    (answers : (d.detect code).1 = .ok (some answer)) : answer ∈ (e.detectAll code).1 := by
  rw [detectAll_eq orderly asked]
  apply (Detection.rank_perm _).mem_iff.mpr
  exact List.mem_filterMap.mpr ⟨d, there, Registry.answerOf_eq_some_iff.mpr answers⟩

section Primary

variable (consistent : e.Consistent)

include consistent

/-- The answer of the sequential protocol is one of an enabled detector that qualifies, and one of
the answers of all detectors. -/
theorem qualifies_of_detectFresh {p : Detection} (found : (e.detectFresh code).1 = some p) :
    (∃ d ∈ e.registry.inOrder, d.Qualifies e.threshold code p) ∧ p ∈ (e.detectAll code).1 := by
  have orderly := consistent.registry.orderly
  cases blank : code.isBlank with
  | true =>
    rw [detectFresh_of_blank e blank] at found
    cases found
  | false =>
    rw [detectFresh_eq orderly blank] at found
    obtain ⟨d, mem, accepted⟩ := List.exists_of_findSome?_eq_some found
    have there := mem_all_of_mem_inOrder orderly mem
    have qualifies := (Registry.accepted_eq_some_iff consistent.within_threshold).mp accepted
    exact ⟨⟨d, mem, qualifies⟩, mem_detectAll orderly blank there qualifies.answers⟩

/-- Where the sequential protocol has no answer, the snippet is blank or no enabled detector
qualifies. -/
theorem not_qualifies_of_detectFresh (none : (e.detectFresh code).1 = none) :
    code.isBlank = true ∨
      ∀ d ∈ e.registry.inOrder, ∀ answer, ¬ d.Qualifies e.threshold code answer := by
  have orderly := consistent.registry.orderly
  cases blank : code.isBlank with
  | true => exact .inl rfl
  | false =>
    right
    rw [detectFresh_eq orderly blank, List.findSome?_eq_none_iff] at none
    intro d mem
    exact (Registry.accepted_eq_none_iff consistent.within_threshold).mp (none d mem)

end Primary

/-! ### What becomes of the answers -/

/-- An analysis parts the answers of all detectors at the acceptance threshold, in the order of their
ranking. Under the global threshold a primary answer is one of those that reach it, so the parts
make up all answers. A list that is not asked for is empty, and nothing else is different. -/
theorem analyze_conserves (reached : Reachable Action.WellFormed e) {acceptance : Option Number}
    (isNumber : acceptance ≠ some (.float .nan)) :
    let all := (e.detectAll code).1
    let threshold := acceptance.getD e.threshold
    let analysis := (e.analyze code acceptance true true).1
    analysis.Conserves threshold all ∧
      (acceptance = none →
        (∀ p, analysis.primary = some p → p ∈ all.filter fun d => !d.confidence.lt threshold) ∧
        ∃ primary : Option Detection,
          Option.Rel (fun p twin => Analysis.same p twin = true) analysis.primary primary ∧
          (primary.toList ++ analysis.alternatives ++ analysis.fallbacks).Perm all) ∧
      ∀ alternatives fallbacks, e.analyze code acceptance alternatives fallbacks =
        ({ analysis with
            alternatives := if alternatives then analysis.alternatives else []
            fallbacks := if fallbacks then analysis.fallbacks else [] },
          (e.analyze code acceptance true true).2) := by
  intro all threshold analysis
  have consistent := reached.consistent
  have stands : threshold.place?.isSome = true := by
    cases given : acceptance with
    | none =>
      simp only [threshold, given]
      exact Number.isSome_place?_of_within consistent.within_threshold
    | some value =>
      simp only [threshold, given]
      exact Number.isSome_place?_of_ne_nan fun same => isNumber (given.trans (congrArg some same))
  have told : analysis =
      Analysis.ofAnswers e.registry.size threshold (e.detectFresh code).1 all :=
    analyze_fst consistent code acceptance true true
  have conserves : analysis.Conserves threshold all := by
    rw [told]
    exact Analysis.conserves_ofAnswers stands all e.registry.size _
  refine ⟨conserves, ?_, fun alternatives fallbacks => rfl⟩
  intro absent
  have occurs : ∀ p, analysis.primary = some p →
      p ∈ all ∧ p.confidence.lt threshold = false := by
    intro p found
    rw [told] at found
    obtain ⟨⟨d, -, qualifies⟩, mem⟩ := qualifies_of_detectFresh consistent found
    refine ⟨mem, Number.lt_eq_false_of_le ?_⟩
    simp only [threshold, absent]
    exact qualifies.sure
  constructor
  · intro p found
    obtain ⟨mem, reaches⟩ := occurs p found
    exact List.mem_filter.mpr ⟨mem, by rw [reaches]; rfl⟩
  · exact conserves.exists_perm occurs

/-- A language at a confidence that is whole. -/
def plainly : Detection := .ofPoints "python" 80 "both"

theorem within_eighty : (Number.float (Binary64.ofNat 80)).within 0 100 = true := by decide +kernel

/-- The same in the other kind of numbers. -/
def precisely : Detection :=
  { plainly with confidence := .float (Binary64.ofNat 80), inRange := within_eighty }

/-- Another language, below any usual threshold. -/
def hardly : Detection := .ofPoints "bash" 30 "unsure"

/-- Two detectors that say the same in different numbers, one that fails and one that is unsure. The
second is asked before the first. -/
def chorus : Engine :=
  blank.run [.register (saying "early" (.ok (some plainly)) none),
    .register (saying "failing" (.error (.failed "no")) none),
    .register (saying "late" (.ok (some precisely)) none),
    .register (saying "unsure" (.ok (some hardly)) none),
    .changeOrder ["unsure", "late", "early"]]

theorem wellFormed_saying (name : String) (outcome : Except Fault (Option Detection))
    (allowed : Option (List String)) : (saying name outcome allowed).WellFormed :=
  ⟨isGate_one, fun c same => by cases same⟩

theorem reachable_chorus : Reachable Action.WellFormed chorus := by
  refine (Reachable.create create_default).run ?_
  intro action mem
  simp only [List.mem_cons, List.not_mem_nil, or_false] at mem
  rcases mem with rfl | rfl | rfl | rfl | rfl
  · exact wellFormed_saying _ _ _
  · exact wellFormed_saying _ _ _
  · exact wellFormed_saying _ _ _
  · exact wellFormed_saying _ _ _
  · trivial

/-- The answers of all are ranked as they are given. -/
theorem detectAll_chorus : (chorus.detectAll "x = 1").1 = [plainly, precisely, hardly] := by
  have asked : Snippet.isBlank "x = 1" = false := by decide
  have answers : chorus.registry.all.filterMap (Registry.answerOf · "x = 1") =
      [plainly, precisely, hardly] := by decide +kernel
  rw [detectAll_eq reachable_chorus.consistent.registry.orderly asked, answers]
  exact List.mergeSort_of_pairwise (by decide +kernel)

/-- The primary answer is the one of the later detector, and the earlier one is left out for it. -/
theorem analyze_conserves_chorus :
    let analysis := (chorus.analyze "x = 1" none true true).1
    Reachable Action.WellFormed chorus ∧ analysis.primary = some precisely ∧
      analysis.alternatives = [precisely] ∧ analysis.fallbacks = [hardly] ∧
      analysis.summary.successful = 2 ∧ analysis.summary.consensus = some "python" ∧
      ∃ twin, (twin :: (analysis.alternatives ++ analysis.fallbacks)).Perm
        (chorus.detectAll "x = 1").1 := by
  intro analysis
  have told : analysis = _ := analyze_fst reachable_chorus.consistent "x = 1" none true true
  rw [detectAll_chorus] at told
  have found : analysis.primary = some precisely := by
    rw [told]
    decide +kernel
  have absent : (none : Option Number) ≠ some (.float .nan) := nofun
  obtain ⟨-, parts, -⟩ := analyze_conserves reachable_chorus absent
  obtain ⟨-, primary, alike, perm⟩ := parts rfl
  refine ⟨reachable_chorus, found, ?_, ?_, ?_, ?_, ?_⟩
  · rw [told]
    decide +kernel
  · rw [told]
    decide +kernel
  · rw [told]
    decide +kernel
  · rw [told]
    decide +kernel
  · cases primary with
    | some twin => exact ⟨twin, perm⟩
    | none =>
      rw [show (chorus.analyze "x = 1" none true true).1.primary = _ from found] at alike
      cases alike

/-! ### The primary answer -/

/-- The primary answer is the one of the sequential protocol under the global threshold, whatever the
acceptance threshold is. So it reaches an acceptance threshold that is not above the global one,
and is a fallback only when it is below; and where there is none, no enabled detector reaches an
acceptance threshold that is not below the global one. -/
theorem analyze_primary (reached : Reachable Action.WellFormed e) (acceptance : Option Number)
    (alternatives fallbacks : Bool) :
    let threshold := acceptance.getD e.threshold
    let analysis := (e.analyze code acceptance alternatives fallbacks).1
    analysis.primary = (e.detectFresh code).1 ∧
      (∀ p, analysis.primary = some p →
        (∃ d ∈ e.registry.inOrder, d.Qualifies e.threshold code p) ∧
        (threshold.le e.threshold = true → threshold.le p.confidence = true) ∧
        ((∃ d ∈ analysis.fallbacks, Analysis.same p d = true) ↔
          fallbacks = true ∧ p.confidence.lt threshold = true)) ∧
      (analysis.primary = none → code.isBlank = true ∨
        ∀ d ∈ e.registry.inOrder, ∀ answer, ¬ d.Qualifies e.threshold code answer ∧
          (e.threshold.le threshold = true → ¬ d.Qualifies threshold code answer)) := by
  intro threshold analysis
  have consistent := reached.consistent
  have told : analysis = _ := analyze_fst consistent code acceptance alternatives fallbacks
  have primary : analysis.primary = (e.detectFresh code).1 := congrArg Analysis.primary told
  have kept : analysis.fallbacks =
      if fallbacks then (e.detectAll code).1.filter fun d => d.confidence.lt threshold else [] :=
    congrArg Analysis.fallbacks told
  refine ⟨primary, ?_, ?_⟩
  · intro p found
    rw [primary] at found
    obtain ⟨⟨d, mem, qualifies⟩, answered⟩ := qualifies_of_detectFresh consistent found
    refine ⟨⟨d, mem, qualifies⟩, fun le => Number.le_trans le qualifies.sure, ?_⟩
    rw [kept]
    constructor
    · rintro ⟨twin, inside, alike⟩
      cases fallbacks with
      | false => cases inside
      | true =>
        obtain ⟨-, below⟩ := List.mem_filter.mp inside
        refine ⟨rfl, ?_⟩
        rwa [Number.lt_congr (Analysis.same_confidence alike)]
    · rintro ⟨rfl, below⟩
      exact ⟨p, List.mem_filter.mpr ⟨answered, below⟩, Analysis.same_self p⟩
  · intro none
    rw [primary] at none
    rcases not_qualifies_of_detectFresh consistent none with blank | silent
    · exact .inl blank
    · right
      intro d mem answer
      refine ⟨silent d mem answer, ?_⟩
      rintro le ⟨answers, sure, accepts⟩
      exact silent d mem answer ⟨answers, Number.le_trans le sure, accepts⟩

/-- An answer above the usual threshold of 70. -/
def firm : Detection := .ofPoints "python" 80 "alone"

/-- An answer below it. -/
def timid : Detection := .ofPoints "python" 60 "alone"

/-- One detector that says one thing, under the usual threshold. -/
def alone (answer : Detection) : Engine :=
  blank.run [.register (saying "alone" (.ok (some answer)) none)]

theorem reachable_alone (answer : Detection) : Reachable Action.WellFormed (alone answer) := by
  refine (Reachable.create create_default).run ?_
  intro action mem
  rw [List.mem_singleton.mp mem]
  exact wellFormed_saying _ _ _

/-- A primary answer between the global threshold and a higher acceptance threshold is a fallback as
well; one that is not below the latter is none. -/
theorem analyze_primary_alone :
    let high := ((alone firm).analyze "x = 1" (some 90) true true).1
    let low := ((alone firm).analyze "x = 1" (some 50) true true).1
    Reachable Action.WellFormed (alone firm) ∧
      high.primary = some firm ∧ low.primary = some firm ∧
      (∃ d ∈ high.fallbacks, Analysis.same firm d = true) ∧
      ¬ ∃ d ∈ low.fallbacks, Analysis.same firm d = true := by
  intro high low
  have primary : ((alone firm).detectFresh "x = 1").1 = some firm := by decide +kernel
  obtain ⟨sameHigh, partsHigh, -⟩ := analyze_primary (reachable_alone firm) (some 90) true true
  obtain ⟨sameLow, partsLow, -⟩ := analyze_primary (reachable_alone firm) (some 50) true true
  rw [primary] at sameHigh sameLow
  refine ⟨reachable_alone firm, sameHigh, sameLow, ?_, ?_⟩
  · exact (partsHigh _ sameHigh).2.2.mpr ⟨rfl, by decide +kernel⟩
  · rw [(partsLow _ sameLow).2.2]
    decide +kernel

/-- A primary answer need not reach the acceptance threshold, and there may be none though an enabled
detector reaches it. -/
theorem not_primary_reaches_acceptance :
    (¬ ∀ e, Reachable Action.WellFormed e → ∀ code acceptance,
      ∀ p, (e.analyze code (some acceptance) true true).1.primary = some p →
        acceptance.le p.confidence = true) ∧
    ¬ ∀ e, Reachable Action.WellFormed e → ∀ code acceptance,
      (e.analyze code (some acceptance) true true).1.primary = none →
        ∀ d ∈ e.registry.inOrder, ∀ answer, ¬ d.Qualifies acceptance code answer := by
  constructor
  · intro reaches
    have found : ((alone firm).analyze "x = 1" (some 90) true true).1.primary = some firm := by
      decide +kernel
    have below : (90 : Number).le 80 = false := by decide +kernel
    have above : (90 : Number).le 80 = true := reaches _ (reachable_alone firm) _ _ _ found
    rw [below] at above
    cases above
  · intro silent
    have found : ((alone timid).analyze "x = 1" (some 50) true true).1.primary = none := by
      decide +kernel
    have accepted : (alone timid).registry.inOrder.findSome? (Registry.accepted 50 "x = 1") =
        some timid := by decide +kernel
    obtain ⟨d, mem, accepted⟩ := List.exists_of_findSome?_eq_some accepted
    have qualifies := (Registry.accepted_eq_some_iff (by decide +kernel)).mp accepted
    exact silent _ (reachable_alone timid) _ _ found d mem _ qualifies

end Engine

end SnippetDetect
