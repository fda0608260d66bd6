import SnippetDetect.Detection
import SnippetDetect.Proofs.Number.Gates

/-!
Detections and their ranking.

The confidence of a detection is a number from 0 to 100, and such numbers stand in a total order:
what is not less is at least as much (`Number.le_eq_not_lt`). So the ranking of detections has
each of them once, the surest first, and equal ones in the order they came in (`rank_perm`,
`pairwise_rank`, `filter_rank`).
-/

namespace SnippetDetect

/-! ### Confidences -/

namespace Binary64.Place

theorem not_before_trans {p q r : Place} (first : (!p.before q) = true)
    (second : (!q.before r) = true) : (!p.before r) = true := by
  rw [Bool.not_eq_true'] at first second ⊢
  by_contra less
  rw [Bool.not_eq_false] at less
  rw [before_of_not_before first less] at second
  cases second

theorem not_before_total (p q : Place) : (!p.before q || !q.before p) = true := by
  cases less : p.before q with
  | false => rfl
  | true => rw [before_asymm less]; rfl

end Binary64.Place

namespace Number

variable {a b : Number}

/-- Where a number stands, not-a-number below all others. -/
def standing (a : Number) : Binary64.Place := a.place?.getD .bottom

theorem isSome_place?_of_ne_nan (isNumber : a ≠ .float .nan) : a.place?.isSome = true := by
  cases a with
  | int n => rfl
  | float x =>
    cases x with
    | nan => exact absurd rfl isNumber
    | infinity negative => cases negative <;> rfl
    | finite negative units => rfl

/-- A number in a range is one. -/
theorem isSome_place?_of_within {lo hi : Number} (inside : a.within lo hi = true) :
    a.place?.isSome = true :=
  isSome_place?_of_ne_nan (ne_nan_of_within inside)

theorem le_eq_standing (placeA : a.place?.isSome = true) (placeB : b.place?.isSome = true) :
    a.le b = !b.standing.before a.standing := by
  obtain ⟨p, hereA⟩ := Option.isSome_iff_exists.mp placeA
  obtain ⟨q, hereB⟩ := Option.isSome_iff_exists.mp placeB
  simp [le, standing, hereA, hereB]

theorem le_eq_not_lt (placeA : a.place?.isSome = true) (placeB : b.place?.isSome = true) :
    a.le b = !b.lt a := by
  obtain ⟨p, hereA⟩ := Option.isSome_iff_exists.mp placeA
  obtain ⟨q, hereB⟩ := Option.isSome_iff_exists.mp placeB
  simp [le, lt, hereA, hereB]

theorem le_self (placeA : a.place?.isSome = true) : a.le a = true := by
  rw [le_eq_standing placeA placeA, Binary64.Place.before_self]
  rfl

/-- What is at most another number is not above it. -/
theorem lt_eq_false_of_le (le : a.le b = true) : b.lt a = false := by
  unfold Number.le at le
  unfold lt
  split at le
  · next p q hereA hereB =>
    rw [hereA, hereB]
    rwa [Bool.not_eq_true'] at le
  · cases le

theorem le_trans {c : Number} (first : a.le b = true) (second : b.le c = true) :
    a.le c = true := by
  unfold Number.le at first second ⊢
  split at first
  · next p q hereA hereB =>
    rw [hereB] at second
    split at second
    · next q' r same hereC =>
      cases same
      rw [hereA, hereC]
      exact Binary64.Place.not_before_trans second first
    · cases second
  · cases first

/-- Numbers that are the same stand in one place. -/
theorem place?_eq_of_same (same : a.same b = true) : a.place? = b.place? := by
  unfold Number.same at same
  split at same
  · next p q hereA hereB =>
    rw [hereA, hereB, eq_of_beq same]
  · cases same

theorem standing_eq_of_same (same : a.same b = true) : a.standing = b.standing := by
  rw [standing, standing, place?_eq_of_same same]

/-- Numbers that are the same are below the same numbers. -/
theorem lt_congr (same : a.same b = true) (bound : Number) : a.lt bound = b.lt bound := by
  rw [lt, lt, place?_eq_of_same same]

/-- The same numbers are below them. -/
theorem lt_congr_right (same : a.same b = true) (bound : Number) : bound.lt a = bound.lt b := by
  rw [lt, lt, place?_eq_of_same same]

/-! ### Sorting by falling numbers -/

/-- A sort puts lesser items first and keeps the order that equal ones had. -/
theorem pairwise_mergeSort_stable {α : Type} {before : α → α → Bool} {r : α → α → Prop}
    (trans : ∀ a b c, before a b = true → before b c = true → before a c = true)
    (total : ∀ a b, (before a b || before b a) = true) {l : List α} (ordered : l.Pairwise r) :
    (l.mergeSort before).Pairwise fun a b => before a b = true ∧ (before b a = true → r a b) := by
  induction l with
  | nil => simp
  | cons x rest ih =>
    rw [List.pairwise_cons] at ordered
    obtain ⟨early, late, sorted, sortedRest, below⟩ := List.mergeSort_cons trans total x rest
    have split := ih ordered.2
    rw [sortedRest, List.pairwise_append] at split
    obtain ⟨inEarly, inLate, across⟩ := split
    have standing := List.pairwise_mergeSort trans total (x :: rest)
    rw [sorted, List.pairwise_append, List.pairwise_cons] at standing
    rw [sorted, List.pairwise_append, List.pairwise_cons]
    refine ⟨inEarly, ⟨fun b mem => ⟨standing.2.1.1 b mem, fun _ => ?_⟩, inLate⟩, ?_⟩
    · apply ordered.1
      have inRest : b ∈ rest.mergeSort before := sortedRest ▸ List.mem_append_right _ mem
      exact List.mem_mergeSort.mp inRest
    · intro a memA b memB
      rcases List.mem_cons.mp memB with rfl | later
      · -- What the sort puts before the head cannot be level with it.
        refine ⟨standing.2.2 a memA b List.mem_cons_self, fun level => ?_⟩
        have strictly := below a memA
        rw [level] at strictly
        cases strictly
      · exact across a memA b later

section Sorting

variable {α : Type} {key : α → Number} {l : List α}

/-- Whether an item may stand before another when their numbers fall. -/
def mayPrecede (key : α → Number) (a b : α) : Bool := !(key a).standing.before (key b).standing

theorem mayPrecede_trans (key : α → Number) (a b c : α) (first : mayPrecede key a b = true)
    (second : mayPrecede key b c = true) : mayPrecede key a c = true :=
  Binary64.Place.not_before_trans first second

theorem mayPrecede_total (key : α → Number) (a b : α) :
    (mayPrecede key a b || mayPrecede key b a) = true :=
  Binary64.Place.not_before_total _ _

variable (placed : ∀ a ∈ l, (key a).place?.isSome = true)

include placed

theorem mergeSort_falling :
    (l.mergeSort fun a b => (key b).le (key a)) = l.mergeSort (mayPrecede key) := by
  have agree : ∀ a ∈ l, ∀ b ∈ l, (key b).le (key a) = mayPrecede key a b := by
    intro a memA b memB
    exact le_eq_standing (placed b memB) (placed a memA)
  -- The comparison is total on all items only when not-a-number has a place as well.
  have sorted := List.map_mergeSort (f := id) agree
  rwa [List.map_id, List.map_id] at sorted

/-- Greater numbers come first, and of equal ones the one that came first. -/
theorem pairwise_falling {r : α → α → Prop} (ordered : l.Pairwise r) :
    (l.mergeSort fun a b => (key b).le (key a)).Pairwise fun a b =>
      (key b).le (key a) = true ∧ ((key a).le (key b) = true → r a b) := by
  have stable := pairwise_mergeSort_stable (mayPrecede_trans key) (mayPrecede_total key) ordered
  rw [mergeSort_falling placed]
  apply stable.imp_of_mem
  intro a b memA memB precedes
  rw [List.mem_mergeSort] at memA memB
  rw [le_eq_standing (placed a memA) (placed b memB), le_eq_standing (placed b memB) (placed a memA)]
  exact precedes

end Sorting

end Number

/-- A confidence is at most a hundred. -/
theorem confidenceOf_le {score : Number} {n : Nat} (made : confidenceOf score = .ok n) :
    n ≤ 100 := by
  unfold confidenceOf at made
  split at made
  · cases read : score.toBinary64 with
    | error fault => simp [read, bind, Except.bind] at made
    | ok x =>
      simp only [read, bind, Except.bind] at made
      split at made
      · cases made
        exact Nat.min_le_right _ _
      · cases made
  · cases made
    exact Nat.zero_le _

namespace Detection

/-! ### Ranking -/

/-- Every confidence that comes of a score is in range. -/
theorem within_of_le {n : Nat} (le : n ≤ 100) : (Number.int n).within 0 100 = true := by
  have low : ¬ (n : Int) < 0 := by omega
  have high : ¬ (100 : Int) < n := by omega
  rw [Number.within, Bool.and_eq_true]
  constructor
  · rw [Number.le_eq_not_lt rfl rfl, Bool.not_eq_true', ← Bool.not_eq_true]
    exact fun less => low (Number.int_lt_int.mp less)
  · rw [Number.le_eq_not_lt rfl rfl, Bool.not_eq_true', ← Bool.not_eq_true]
    exact fun less => high (Number.int_lt_int.mp less)

/-- The detection of a language by points. More than a hundred points are a hundred, and a language
without a name is called text. -/
def ofPoints (language : String) (points : Nat) (source : String) : Detection where
  language := if language = "" then "text" else language
  confidence := .int (min points 100 : Nat)
  source := source
  named := by
    split
    · decide
    · assumption
  inRange := within_of_le (Nat.min_le_right points 100)

/-- A language with a name and a confidence in range are a detection. -/
theorem make_of_within {language : String} (named : language ≠ "") {confidence : Number}
    (inRange : confidence.within 0 100 = true) (source : String) :
    make language confidence source = .ok ⟨language, confidence, source, named, inRange⟩ := by
  rw [make, dif_neg named, dif_pos inRange]

theorem isSome_place? (d : Detection) : d.confidence.place?.isSome = true :=
  Number.isSome_place?_of_within d.inRange

section Ranking

variable (ds : List Detection)

theorem rank_perm : (rank ds).Perm ds := ds.mergeSort_perm _

theorem rank_eq : rank ds = ds.mergeSort (Number.mayPrecede (·.confidence)) :=
  Number.mergeSort_falling fun d _ => d.isSome_place?

/-- The surest detections come first. -/
theorem pairwise_rank : (rank ds).Pairwise fun a b => b.confidence.le a.confidence = true := by
  have placed : ∀ d ∈ ds, d.confidence.place?.isSome = true := fun d _ => d.isSome_place?
  have anyOrder : ds.Pairwise fun _ _ => True := List.pairwise_of_forall fun _ _ => trivial
  exact (Number.pairwise_falling placed anyOrder).imp And.left

/-- Detections of the same confidence keep their order. -/
theorem filter_rank (confidence : Number) :
    (rank ds).filter (·.confidence.same confidence) =
      ds.filter (·.confidence.same confidence) := by
  have level : (ds.filter (·.confidence.same confidence)).Pairwise
      fun a b => Number.mayPrecede (·.confidence) a b = true := by
    apply List.pairwise_of_forall_mem_list
    intro a memA b memB
    have sameA := Number.standing_eq_of_same (List.mem_filter.mp memA).2
    have sameB := Number.standing_eq_of_same (List.mem_filter.mp memB).2
    rw [Number.mayPrecede, sameA, sameB, Binary64.Place.before_self]
    rfl
  have kept := List.sublist_mergeSort (Number.mayPrecede_trans _) (Number.mayPrecede_total _) level
    List.filter_sublist
  rw [← rank_eq] at kept
  have inside := kept.filter (·.confidence.same confidence)
  rw [List.filter_filter] at inside
  simp only [Bool.and_self] at inside
  refine (inside.eq_of_length ?_).symm
  exact ((rank_perm ds).filter _).length_eq.symm

end Ranking

end Detection

end SnippetDetect
