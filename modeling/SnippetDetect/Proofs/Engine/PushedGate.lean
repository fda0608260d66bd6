import SnippetDetect.Proofs.Engine.Inheritance
import SnippetDetect.Proofs.Engine.Protocols
import SnippetDetect.Proofs.Number.SixPlaces

/-!
The gate of a detector and the global threshold.

Where the global threshold was handed on to a detector, its answers are gated twice: the detector
compares the score with its gate, both to six places, and the engine compares the confidence,
which is the score rounded half up, with the threshold. What clears the gate reaches the threshold
whenever the threshold is whole. Between two whole numbers it does so unless the gate is not above
their middle (`Detector.IsLoose`): then scores below the middle may clear the gate although their
confidence is the lower of the two numbers (`dropped_iff_isLoose`).
-/

namespace SnippetDetect

open SnippetDetect.Text
open SnippetDetect.Binary64 (middle almostMiddle unitsPerOne unitsPerOne_pos)

/-! ### Scores -/

namespace Detector

variable {d : Detector} {score : Binary64}

theorem clears_iff : d.clears (.float score) = true ↔
    (d.scoreGate.roundPlaces 6).le (score.roundPlaces 6) = true := Iff.rfl

theorem isSome_place?_of_clears (reaches : d.clears (.float score) = true) :
    score.place?.isSome = true := by
  cases score with
  | nan =>
    have nowhere : Binary64.nan.roundPlaces 6 = .nan := rfl
    rw [clears_iff, nowhere, Binary64.le_nan] at reaches
    cases reaches
  | infinity negative => rfl
  | finite negative units => rfl

end Detector

/-! ### Thresholds between whole numbers -/

section Thresholds

variable {threshold : Number} {c n : Nat}

theorem int_lt_iff {m t : Int} (place : threshold.place? = some (.at t)) :
    (Number.int m).lt threshold = true ↔ m * unitsPerOne < t := by
  rw [Number.lt, place]
  exact decide_eq_true_iff

theorem lt_int_iff {m t : Int} (place : threshold.place? = some (.at t)) :
    threshold.lt (.int m) = true ↔ t < m * unitsPerOne := by
  rw [Number.lt, place]
  exact decide_eq_true_iff

/-- A threshold above a natural number stands among the numbers up to a hundred. -/
theorem exists_place (inRange : threshold.within 0 100 = true)
    (above : (Number.int c).lt threshold = true) : ∃ t : Nat,
      threshold.place? = some (.at t) ∧ c * unitsPerOne < t ∧ t ≤ 100 * unitsPerOne := by
  rw [Number.within, Bool.and_eq_true] at inRange
  have high := Number.lt_eq_false_of_le inRange.2
  cases place : threshold.place? with
  | none =>
    rw [Number.lt, place] at above
    cases above
  | some p =>
    cases p with
    | bottom =>
      rw [Number.lt, place] at above
      cases above
    | top =>
      rw [Number.lt, place] at high
      cases high
    | «at» t =>
      rw [int_lt_iff place] at above
      rw [← Bool.not_eq_true, show (100 : Number) = .int 100 from rfl, int_lt_iff place] at high
      have low : (0 : Int) ≤ (c : Int) * unitsPerOne := by exact_mod_cast Nat.zero_le _
      obtain ⟨count, rfl⟩ := Int.eq_ofNat_of_zero_le (low.trans above.le)
      exact ⟨count, rfl, by exact_mod_cast above, by exact_mod_cast Int.not_lt.mp high⟩

/-- The last whole number below a number of units. -/
theorem exists_last_below {t : Nat} (above : c * unitsPerOne < t) (high : t ≤ 100 * unitsPerOne) :
    ∃ n : Nat, c ≤ n ∧ n < 100 ∧ n * unitsPerOne < t ∧ t ≤ (n + 1) * unitsPerOne := by
  have pos := unitsPerOne_pos
  have lower : (t - 1) / unitsPerOne * unitsPerOne ≤ t - 1 := Nat.div_mul_le_self _ _
  have upper : t - 1 < ((t - 1) / unitsPerOne + 1) * unitsPerOne := by
    rw [Nat.mul_comm]
    exact Nat.lt_mul_div_succ _ pos
  refine ⟨(t - 1) / unitsPerOne, ?_, ?_, ?_, ?_⟩
  · exact (Nat.le_div_iff_mul_le pos).mpr (by omega)
  · exact (Nat.div_lt_iff_lt_mul pos).mpr (by omega)
  · omega
  · omega

/-- The gate of a threshold of so many units. -/
theorem hundredth_of_place {t : Nat} (place : threshold.place? = some (.at t)) (pos : 0 < t)
    (high : t ≤ 100 * unitsPerOne) {gate : Binary64} (made : threshold.hundredth = .ok gate) :
    gate = Binary64.ofUnitRatio false t 100 := by
  cases threshold with
  | int m =>
    have here : m * (unitsPerOne : Int) = t := Binary64.Place.at.inj (Option.some.inj place)
    have ones : (0 : Int) < unitsPerOne := by exact_mod_cast unitsPerOne_pos
    have positive : 0 < m := by
      apply Int.pos_of_mul_pos_left _ ones
      omega
    obtain ⟨n, rfl⟩ := Int.eq_ofNat_of_zero_le positive.le
    have units : n * unitsPerOne = t := by exact_mod_cast here
    have small : n ≤ 100 := Nat.le_of_mul_le_mul_right (units ▸ high) unitsPerOne_pos
    rw [Number.hundredth_int _ (by omega), Except.ok.injEq] at made
    rw [← made, ← units]
    rfl
  | float x =>
    obtain ⟨units, rfl, ones⟩ := exists_units pos place
    obtain rfl : Binary64.ofUnitRatio false units.count 100 = gate := Except.ok.inj made
    rw [ones]

end Thresholds

namespace Detector

variable {d : Detector} {threshold : Number} {score : Binary64} {c n : Nat}

/-- The threshold is between a natural number and the next one, and the gate, to six places, is not
above their middle. -/
structure IsLoose (d : Detector) (threshold : Number) (n : Nat) : Prop where
  above : (Number.int n).lt threshold = true
  below : threshold.lt (.int (n + 1 : Nat)) = true
  gate : (d.scoreGate.roundPlaces 6).le (middle n) = true

theorem sixPlaces_of_place {t : Nat} (place : threshold.place? = some (.at t)) (pos : 0 < t)
    (high : t ≤ 100 * unitsPerOne) (gate : threshold.hundredth = .ok d.gate) :
    d.scoreGate.roundPlaces 6 = Binary64.sixPlaces t := by
  rw [scoreGate, hundredth_of_place place pos high gate, Binary64.sixPlaces]

/-- A score that clears the gate of a threshold has a confidence below the threshold only where the
threshold is loose, and is below the middle there. -/
theorem exists_isLoose (inRange : threshold.within 0 100 = true)
    (gate : threshold.hundredth = .ok d.gate) (clears : d.clears (.float score) = true)
    (made : confidenceOf (.float score) = .ok c) (dropped : (Number.int c).lt threshold = true) :
    ∃ n, d.IsLoose threshold n ∧ score.lt (middle n) = true := by
  obtain ⟨t, place, low, high⟩ := exists_place inRange dropped
  obtain ⟨n, le, small, above, next⟩ := exists_last_below low high
  have bits : n < 2 ^ 52 := by omega
  have below : score.lt (middle n) = true := by
    have order := Binary64.le_eq_not_lt (Binary64.isSome_place?_middle bits)
      (isSome_place?_of_clears clears)
    rw [← Bool.not_eq_false]
    intro notBelow
    rw [notBelow] at order
    have higher := lt_of_reaches small order made
    omega
  have gateLe : (d.scoreGate.roundPlaces 6).le (middle n) = true :=
    Binary64.le_trans (clears_iff.mp clears) (Binary64.roundPlaces_le_middle bits below)
  refine ⟨n, ⟨?_, ?_, gateLe⟩, below⟩
  · rw [int_lt_iff place]
    exact_mod_cast above
  · -- A whole threshold has a gate above the middle below it.
    rw [lt_int_iff place]
    rcases Nat.lt_or_eq_of_le next with less | whole
    · exact_mod_cast less
    · have millionth : ((2 * n + 1) * 500000 + 1) * unitsPerOne ≤ t * 10 ^ 6 := by
        calc ((2 * n + 1) * 500000 + 1) * unitsPerOne ≤ (n + 1) * 10 ^ 6 * unitsPerOne :=
              Nat.mul_le_mul_right _ (by omega)
          _ = t * 10 ^ 6 := by
            rw [whole]
            ring
      have higher := Binary64.middle_lt_sixPlaces high small millionth
      rw [← sixPlaces_of_place place (by omega) high gate] at higher
      cases higher.symm.trans (Binary64.lt_eq_false_of_le gateLe)

/-- Where the threshold is loose, a score just below the middle clears the gate and has a confidence
below the threshold. -/
theorem IsLoose.drops (loose : d.IsLoose threshold n) (inRange : threshold.within 0 100 = true) :
    d.clears (.float (almostMiddle n)) = true ∧
      confidenceOf (.float (almostMiddle n)) = .ok n := by
  obtain ⟨t, place, low, high⟩ := exists_place inRange loose.above
  have small : n < 100 := Nat.lt_of_mul_lt_mul_right (low.trans_le high)
  constructor
  · rw [clears_iff, roundPlaces_almostMiddle small]
    exact loose.gate
  · exact confidenceOf_almostMiddle small

/-- A score that clears the gate can have a confidence below the threshold exactly where the
threshold is loose. -/
theorem dropped_iff_isLoose (inRange : threshold.within 0 100 = true)
    (gate : threshold.hundredth = .ok d.gate) :
    (∃ score c, d.clears (.float score) = true ∧ confidenceOf (.float score) = .ok c ∧
        (Number.int c).lt threshold = true) ↔ ∃ n, d.IsLoose threshold n := by
  constructor
  · rintro ⟨score, c, clears, made, dropped⟩
    obtain ⟨n, loose, -⟩ := exists_isLoose inRange gate clears made dropped
    exact ⟨n, loose⟩
  · rintro ⟨n, loose⟩
    obtain ⟨clears, made⟩ := loose.drops inRange
    exact ⟨_, n, clears, made, loose.above⟩

/-- A threshold above a natural number and not above the middle is loose. -/
theorem isLoose_of_le_middle (inRange : threshold.within 0 100 = true)
    (gate : threshold.hundredth = .ok d.gate) (above : (Number.int n).lt threshold = true)
    (below : threshold.le (.float (middle n)) = true) : d.IsLoose threshold n := by
  obtain ⟨t, place, low, high⟩ := exists_place inRange above
  have small : n < 100 := Nat.lt_of_mul_lt_mul_right (low.trans_le high)
  obtain ⟨units, isMiddle, twice⟩ := Binary64.middle_eq (n := n) (by omega)
  have bounded : t ≤ units.count := by
    have here : (Number.float (.finite false units)).place? = some (.at units.count) := rfl
    rw [isMiddle, Number.le, place, here] at below
    simpa [Binary64.Place.before] using below
  refine ⟨above, ?_, ?_⟩
  · rw [lt_int_iff place]
    have whole : 2 * ((n + 1) * unitsPerOne) = (2 * n + 1) * unitsPerOne + unitsPerOne := by ring
    have next : t < (n + 1) * unitsPerOne := by omega
    exact_mod_cast next
  · rw [sixPlaces_of_place place (by omega) high gate]
    exact Binary64.sixPlaces_le_middle high (by omega)

/-- A whole threshold is not loose, whichever way it is written. -/
theorem not_isLoose_of_whole {m : Int} (whole : threshold.same (.int m) = true) :
    ¬ d.IsLoose threshold n := by
  intro loose
  have above := loose.above
  have below := loose.below
  rw [Number.lt_congr_right whole, Number.int_lt_int] at above
  rw [Number.lt_congr whole, Number.int_lt_int] at below
  omega

end Detector

/-! ### The sequential protocol -/

namespace Engine

variable {e : Engine} {code : Snippet} {d : Detector} {answer : Detection}

/-- A detector that is asked and whose answer is accepted gives the answer. -/
theorem detectFresh_of_accepted (orderly : e.registry.Orderly) (filled : code.isBlank = false)
    (asked : d ∈ Registry.askedOf e.threshold code e.registry.inOrder)
    (accepted : Registry.accepted e.threshold code d = some answer) :
    (e.detectFresh code).1 = some answer := by
  rw [detectFresh_eq orderly filled]
  rcases Registry.askedOf_cases e.threshold code e.registry.inOrder with
    ⟨all, none, -⟩ | ⟨before, last, behind, other, -, upTo, none, taken, found⟩
  · rw [all] at asked
    cases (none d asked).symm.trans accepted
  · rw [upTo, List.mem_append, List.mem_singleton] at asked
    rcases asked with early | rfl
    · cases (none d early).symm.trans accepted
    · rw [← accepted, taken]
      exact found

/-- Where a detector without an allow-list is left at the global threshold, a score that clears
its gate is the answer of the sequential protocol as soon as the detector is asked, unless the
threshold is loose and the score below the middle there. Scores that clear the gate and do not
reach the threshold are possible exactly at loose thresholds. No whole number is loose, and all that
lie above a whole number and not above the middle are. -/
theorem pushed_gate_of_inherits {o : Options} {clock : Binary64} {start : Engine}
    (made : create o clock = .ok start) {actions : List Action}
    (wellFormed : ∀ action ∈ actions, action.WellFormed) {name : String}
    (inherits : Inherits start name actions) {d : Detector}
    (registered : (start.run actions).registry.get? name = some d) (bundled : d.IsBundled)
    (unrestricted : ∀ language, d.accepts language = true) :
    (∀ code language score c,
      d ∈ Registry.askedOf (start.run actions).threshold code (start.run actions).registry.inOrder →
      d.rawScore? code = some (language, score) → language ≠ "" →
      d.clears (.float score) = true → confidenceOf (.float score) = .ok c →
        (∃ named inRange, ((start.run actions).detectFresh code).1 =
          some ⟨language, .int c, d.name, named, inRange⟩) ∨
          ∃ n, d.IsLoose (start.run actions).threshold n ∧ score.lt (middle n) = true) ∧
    ((∃ score c, d.clears (.float score) = true ∧ confidenceOf (.float score) = .ok c ∧
        (Number.int c).lt (start.run actions).threshold = true) ↔
      ∃ n, d.IsLoose (start.run actions).threshold n) ∧
    (∀ m : Int, (start.run actions).threshold.same (.int m) = true →
      ∀ n, ¬ d.IsLoose (start.run actions).threshold n) ∧
    ∀ n : Nat, (Number.int n).lt (start.run actions).threshold = true →
      (start.run actions).threshold.le (.float (middle n)) = true →
        d.IsLoose (start.run actions).threshold n := by
  have consistent : (start.run actions).Consistent :=
    ((Reachable.create made).run wellFormed).consistent
  have inRange := consistent.within_threshold
  have gate := atThreshold_of_inherits made inherits wellFormed d registered
  refine ⟨?_, Detector.dropped_iff_isLoose inRange gate,
    fun _ whole _ => Detector.not_isLoose_of_whole whole,
    fun n => Detector.isLoose_of_le_middle inRange gate⟩
  intro code language score c asked raw named clears confidence
  have filled : code.isBlank = false := by
    cases blank : code.isBlank with
    | false => rfl
    | true =>
      rw [Detector.rawScore?, if_pos blank] at raw
      cases raw
  cases low : (Number.int c).lt (start.run actions).threshold with
  | true =>
    right
    exact Detector.exists_isLoose inRange gate clears confidence low
  | false =>
    left
    obtain ⟨inRange, answer⟩ := Detector.answer?_of_confidence named clears confidence
    refine ⟨named, inRange, detectFresh_of_accepted consistent.registry.orderly filled asked ?_⟩
    have answers : (d.detect code).1 = .ok (some ⟨language, .int c, d.name, named, inRange⟩) := by
      rw [Detector.detect_of_isBundled bundled, raw]
      exact congrArg Except.ok answer
    rw [Registry.accepted, Registry.answerOf_eq_some_iff.mpr answers]
    simp [Option.filter, low, unrestricted]

/-! ### A threshold with a fraction -/

/-- A model that is quite sure of one language. -/
def likely : Detector where
  name := "ml-model"
  displayName := ""
  description := ""
  gate := Binary64.one
  strategy := .classifier (Classifier.create (.ok (some fun _ =>
    .ok (.arr [.arr [.str "python", .num (.float (Binary64.ofRatio false 704 1000))]]))) [] none)

/-- The score of its answer. -/
def likelyScore : Binary64 := (Binary64.ofRatio false 704 1000).mul (Binary64.ofNat 100)

/-- The model is registered, and then the global threshold is written. -/
def pushing (threshold : Number) : List Action := [.register likely, .changeThreshold threshold]

/-- A threshold a quarter above a whole number. -/
def quarter : Number := .float (Binary64.ofRatio false 281 4)

theorem bundled_pushing (threshold : Number) : ∀ action ∈ pushing threshold, action.Bundled := by
  intro action mem
  simp only [pushing, List.mem_cons, List.not_mem_nil, or_false] at mem
  rcases mem with rfl | rfl
  · refine ⟨⟨isGate_one, ?_⟩, nofun⟩
    intro c same
    cases same
    exact nofun
  · trivial

theorem inherits_pushing (threshold : Number) : Inherits blank "ml-model" (pushing threshold) := by
  show Inherits blank "ml-model" ([.register likely] ++ [.changeThreshold threshold])
  refine .written trivial ?_
  rintro ⟨c, written, -⟩
  cases written

/-- The model is asked, accepts every language, and its score clears the gate. -/
theorem exists_pushed {threshold : Number} (mem : threshold ∈ [70, quarter]) :
    ∃ d, (blank.run (pushing threshold)).registry.get? "ml-model" = some d ∧ d.IsBundled ∧
      (∀ language, d.accepts language = true) ∧
      d ∈ Registry.askedOf (blank.run (pushing threshold)).threshold "x = 1"
        (blank.run (pushing threshold)).registry.inOrder ∧
      d.rawScore? "x = 1" = some ("python", likelyScore) ∧
      d.clears (.float likelyScore) = true ∧ d.name = "ml-model" := by
  have facts : ∀ threshold ∈ [70, quarter],
      (blank.run (pushing threshold)).registry.order = ["ml-model"] ∧
        ((blank.run (pushing threshold)).registry.get? "ml-model").any (fun d =>
          !d.isSelectable && d.rawScore? "x = 1" == some ("python", likelyScore) &&
            d.clears (.float likelyScore) && d.name == "ml-model") = true := by
    decide +kernel
  obtain ⟨order, known⟩ := facts threshold mem
  rw [Option.any_eq_true] at known
  obtain ⟨d, registered, known⟩ := known
  simp only [Bool.and_eq_true, Bool.not_eq_true', beq_iff_eq] at known
  obtain ⟨⟨⟨free, raw⟩, clears⟩, name⟩ := known
  have reached : Reachable Action.Bundled (blank.run (pushing threshold)) :=
    (Reachable.create create_default).run (bundled_pushing threshold)
  have bundled := reached.isBundled _ _ registered
  refine ⟨d, registered, bundled, Detector.accepts_of_isBundled bundled free, ?_, raw, clears, name⟩
  rw [Registry.inOrder, order, List.filterMap_cons_some registered, Registry.askedOf]
  split
  · exact List.mem_cons_self
  · exact List.mem_cons_self

theorem confidenceOf_likelyScore : confidenceOf (.float likelyScore) = .ok 70 := by
  have made : (confidenceOf (.float likelyScore)).toOption = some 70 := by decide +kernel
  cases confidence : confidenceOf (.float likelyScore) with
  | error fault =>
    rw [confidence] at made
    cases made
  | ok c =>
    rw [confidence] at made
    cases made
    rfl

/-- Its answer. -/
def likelyAnswer : Detection := .ofPoints "python" 70 "ml-model"

theorem pushed_gate_of_inherits_likely :
    ((blank.run (pushing 70)).detectFresh "x = 1").1 = some likelyAnswer := by
  have wellFormed : ∀ action ∈ pushing 70, action.WellFormed :=
    fun action mem => (bundled_pushing 70 action mem).wellFormed
  obtain ⟨d, registered, bundled, accepts, asked, raw, clears, name⟩ :=
    exists_pushed List.mem_cons_self
  obtain ⟨gated, -, whole, -⟩ := pushed_gate_of_inherits create_default wellFormed
    (inherits_pushing 70) registered bundled accepts
  rcases gated _ _ _ _ asked raw (by decide) clears confidenceOf_likelyScore with
    ⟨_, _, answered⟩ | ⟨n, loose, -⟩
  · rw [answered]
    simp only [name]
    rfl
  · have seventy : (blank.run (pushing 70)).threshold.same (.int 70) = true := by decide +kernel
    exact absurd loose (whole 70 seventy n)

/-- At a threshold a quarter above a whole number, a score that clears the gate is not the answer:
its confidence is that whole number. -/
theorem not_pushed_gate_decides :
    ¬ ∀ (threshold : Number) (d : Detector) (code : Snippet) (language : String) (score : Binary64) (c : Nat),
      threshold.within 0 100 = true →
      (blank.run (pushing threshold)).registry.get? "ml-model" = some d → d.IsBundled →
      (∀ language, d.accepts language = true) →
      d ∈ Registry.askedOf (blank.run (pushing threshold)).threshold code
        (blank.run (pushing threshold)).registry.inOrder →
      d.rawScore? code = some (language, score) → language ≠ "" →
      d.clears (.float score) = true → confidenceOf (.float score) = .ok c →
        ∃ named inRange, ((blank.run (pushing threshold)).detectFresh code).1 =
          some ⟨language, .int c, d.name, named, inRange⟩ := by
  intro decides
  obtain ⟨d, registered, bundled, accepts, asked, raw, clears, -⟩ :=
    exists_pushed (List.mem_cons_of_mem _ List.mem_cons_self)
  have inRange : quarter.within 0 100 = true := by decide +kernel
  obtain ⟨_, _, answered⟩ := decides quarter d _ _ _ _ inRange registered bundled accepts asked raw
    (by decide) clears confidenceOf_likelyScore
  have silent : ((blank.run (pushing quarter)).detectFresh "x = 1").1 = none := by decide +kernel
  cases silent.symm.trans answered

end Engine

end SnippetDetect
