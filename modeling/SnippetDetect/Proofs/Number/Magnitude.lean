import SnippetDetect.Proofs.Detection

/-!
Numbers that are not negative and not too large.

What is made of such numbers by products, sums, quotients and minima is finite as long as the bounds
are (`UpTo.mul`, `UpTo.add`, `UpTo.divNat`, `upTo_min`). Finite numbers that are not negative are
known by where they stand (`UpTo.eq_of_not_lt`), and rounding to decimal places keeps their order
(`UpTo.roundPlaces_mono`). A bounded score is a confidence (`exists_confidenceOf`).
-/

namespace SnippetDetect

namespace Binary64

/-- A number from zero to a power of two. -/
def UpTo (k : Nat) (x : Binary64) : Prop :=
  ∃ units : Units, x = .finite false units ∧ units.count ≤ 2 ^ k * unitsPerOne

/-- Up to this power of two, numbers are finite. -/
theorem two_pow_mul_unitsPerOne_lt {k : Nat} (small : k < 1024) :
    2 ^ k * unitsPerOne < unitsLimit := by
  obtain ⟨i, j, one, limit, top⟩ := exists_exponents
  rw [one, limit, ← Nat.pow_add]
  exact Nat.pow_lt_pow_right (by decide) (by omega)

theorem roundUnits_le_two_pow_mul {num den k : Nat} (pos : 0 < den)
    (le : num ≤ 2 ^ k * unitsPerOne * den) : roundUnits num den ≤ 2 ^ k * unitsPerOne := by
  obtain ⟨j, _, power, -⟩ := exists_exponents
  rw [power, ← Nat.pow_add] at le ⊢
  exact roundUnits_le_two_pow pos le

section Bounds

variable {x y : Binary64} {k l : Nat}

theorem upTo_ofUnitRatio {num den : Nat} (pos : 0 < den) (small : k < 1024)
    (le : num ≤ 2 ^ k * unitsPerOne * den) : UpTo k (ofUnitRatio false num den) := by
  have bound := roundUnits_le_two_pow_mul pos le
  have room := Nat.lt_of_le_of_lt bound (two_pow_mul_unitsPerOne_lt small)
  rw [ofUnitRatio, ofUnits, dif_pos room]
  exact ⟨_, rfl, bound⟩

theorem upTo_ofRatio {num den : Nat} (pos : 0 < den) (small : k < 1024) (le : num ≤ 2 ^ k * den) :
    UpTo k (ofRatio false num den) := by
  apply upTo_ofUnitRatio pos small
  calc num * unitsPerOne ≤ 2 ^ k * den * unitsPerOne := Nat.mul_le_mul_right _ le
    _ = 2 ^ k * unitsPerOne * den := by ring

/-- A part of a whole is at most one. -/
theorem upTo_part {part whole : Nat} (pos : 0 < whole) (le : part ≤ whole) :
    UpTo 0 (ofRatio false part whole) := by
  apply upTo_ofRatio pos (by decide)
  rwa [Nat.pow_zero, Nat.one_mul]

theorem upTo_zero : UpTo k zero := ⟨.none, rfl, Nat.zero_le _⟩

theorem UpTo.mono (bounded : UpTo k x) (le : k ≤ l) : UpTo l x := by
  obtain ⟨units, rfl, bound⟩ := bounded
  refine ⟨units, rfl, bound.trans (Nat.mul_le_mul_right _ ?_)⟩
  exact Nat.pow_le_pow_right (by decide) le

theorem UpTo.mul (first : UpTo k x) (second : UpTo l y) (small : k + l < 1024) :
    UpTo (k + l) (x.mul y) := by
  obtain ⟨m, rfl, boundM⟩ := first
  obtain ⟨n, rfl, boundN⟩ := second
  apply upTo_ofUnitRatio unitsPerOne_pos small
  calc m.count * n.count ≤ 2 ^ k * unitsPerOne * (2 ^ l * unitsPerOne) :=
        Nat.mul_le_mul boundM boundN
    _ = 2 ^ (k + l) * unitsPerOne * unitsPerOne := by ring

/-- A sum of two numbers that are not negative is rounded once. -/
theorem add_finite (m n : Units) :
    (finite false m).add (finite false n) = ofUnitRatio false (m.count + n.count) 1 := by
  have total : signed false m.count + signed false n.count = ((m.count + n.count : Nat) : Int) := by
    simp [signed]
  simp only [Binary64.add, total]
  split
  · next empty =>
    rw [Int.natCast_eq_zero.mp empty]
    decide +kernel
  · have positive : decide (((m.count + n.count : Nat) : Int) < 0) = false :=
      decide_eq_false (by omega)
    rw [positive, Int.natAbs_natCast]

theorem add_counts_le {m n : Units} (boundM : m.count ≤ 2 ^ k * unitsPerOne)
    (boundN : n.count ≤ 2 ^ k * unitsPerOne) :
    m.count + n.count ≤ 2 ^ (k + 1) * unitsPerOne * 1 := by
  calc m.count + n.count ≤ 2 ^ k * unitsPerOne + 2 ^ k * unitsPerOne := Nat.add_le_add boundM boundN
    _ = 2 ^ (k + 1) * unitsPerOne * 1 := by ring

theorem UpTo.add (first : UpTo k x) (second : UpTo k y) (small : k + 1 < 1024) :
    UpTo (k + 1) (x.add y) := by
  obtain ⟨m, rfl, boundM⟩ := first
  obtain ⟨n, rfl, boundN⟩ := second
  rw [add_finite]
  exact upTo_ofUnitRatio Nat.one_pos small (add_counts_le boundM boundN)

theorem UpTo.divNat (bounded : UpTo k x) {n : Nat} (pos : 0 < n) (small : k < 1024) :
    UpTo k (x.divNat n) := by
  obtain ⟨m, rfl, bound⟩ := bounded
  apply upTo_ofUnitRatio pos small
  exact bound.trans (Nat.le_mul_of_pos_right _ pos)

/-- A finite number that is not negative, or the infinity above. -/
def IsNonneg (x : Binary64) : Prop := x = .infinity false ∨ ∃ units, x = .finite false units

theorem isNonneg_ofUnitRatio (num den : Nat) : IsNonneg (ofUnitRatio false num den) := by
  rw [ofUnitRatio, ofUnits]
  split
  · exact .inr ⟨_, rfl⟩
  · exact .inl rfl

theorem IsNonneg.mul_finite (nonneg : IsNonneg x) {units : Units} (pos : units.count ≠ 0) :
    IsNonneg (x.mul (.finite false units)) := by
  rcases nonneg with rfl | ⟨m, rfl⟩
  · left
    simp [Binary64.mul, pos]
  · exact isNonneg_ofUnitRatio _ _

/-- A minimum is bounded as soon as one side is. -/
theorem upTo_min (bounded : UpTo k x) (nonneg : IsNonneg y) : UpTo k (Binary64.min x y) := by
  unfold Binary64.min
  split
  · next less =>
    obtain ⟨m, rfl, bound⟩ := bounded
    rcases nonneg with rfl | ⟨n, rfl⟩
    · cases less
    · have below : n.count < m.count := by
        simpa [Binary64.lt, place?, Place.before, signed] using less
      exact ⟨n, rfl, below.le.trans bound⟩
  · exact bounded

/-! ### Order -/

theorem lt_asymm (less : x.lt y = true) : y.lt x = false := by
  unfold Binary64.lt at less ⊢
  split at less
  · next p q placeX placeY =>
    rw [placeX, placeY]
    exact Place.before_asymm less
  · cases less

theorem lt_irrefl (x : Binary64) : x.lt x = false := by
  cases less : x.lt x with
  | false => rfl
  | true => rw [← less, lt_asymm less]

theorem le_of_lt (less : x.lt y = true) : x.le y = true :=
  Number.le_of_lt (a := .float x) (b := .float y) less

theorem le_trans {z : Binary64} (first : x.le y = true) (second : y.le z = true) : x.le z = true :=
  Number.le_trans (a := .float x) (b := .float y) (c := .float z) first second

theorem lt_eq_false_of_le (le : x.le y = true) : y.lt x = false :=
  Number.lt_eq_false_of_le (a := .float x) (b := .float y) le

theorem le_eq_not_lt (placeX : x.place?.isSome = true) (placeY : y.place?.isSome = true) :
    x.le y = !y.lt x :=
  Number.le_eq_not_lt (a := .float x) (b := .float y) placeX placeY

theorem le_nan (x : Binary64) : x.le .nan = false := by
  unfold Binary64.le
  cases x.place? <;> rfl

theorem UpTo.eq_of_not_lt (first : UpTo k x) (second : UpTo l y) (notBelow : x.lt y = false)
    (notAbove : y.lt x = false) : x = y := by
  obtain ⟨m, rfl, -⟩ := first
  obtain ⟨n, rfl, -⟩ := second
  have level : m.count = n.count := by
    simp only [Binary64.lt, place?, Place.before, signed, decide_eq_false_iff_not]
      at notBelow notAbove
    simp only [Bool.false_eq_true, if_false] at notBelow notAbove
    omega
  obtain ⟨count, small, fits⟩ := m
  cases level
  rfl

theorem UpTo.isSome_place? (bounded : UpTo k x) : (Number.float x).place?.isSome = true := by
  obtain ⟨m, rfl, -⟩ := bounded
  rfl

theorem le_of_place? {p q : Place} (hx : x.place? = some p) (hy : y.place? = some q)
    (notAbove : q.before p = false) : x.le y = true := by
  rw [Binary64.le, hx, hy]
  simp only [notAbove, Bool.not_false]

theorem place?_roundPlaces (places : Nat) (units : Units) :
    (roundPlaces places (finite false units)).place? =
      some (placeOfUnits false (roundUnits
        (roundQuotient (units.count * 10 ^ places) unitsPerOne * unitsPerOne) (10 ^ places))) := by
  rw [roundPlaces, ofRatio, place?_ofUnitRatio]

/-- A larger number is not rounded to a smaller one. -/
theorem UpTo.roundPlaces_mono (first : UpTo k x) (second : UpTo l y) (le : x.le y = true)
    (places : Nat) : (x.roundPlaces places).le (y.roundPlaces places) = true := by
  obtain ⟨m, rfl, -⟩ := first
  obtain ⟨n, rfl, -⟩ := second
  have counts : m.count ≤ n.count := by
    simpa [Binary64.le, place?, Place.before, signed] using le
  have whole : roundQuotient (m.count * 10 ^ places) unitsPerOne ≤
      roundQuotient (n.count * 10 ^ places) unitsPerOne :=
    roundQuotient_mono _ (Nat.mul_le_mul_right _ counts)
  have pos : 0 < 10 ^ places := Nat.pow_pos (by decide)
  have rounded := roundUnits_mono pos (Nat.mul_le_mul_right unitsPerOne whole)
  exact le_of_place? (place?_roundPlaces places m) (place?_roundPlaces places n)
    (placeOfUnits_mono rounded).1

end Bounds

theorem upTo_half : UpTo 0 half := upTo_part (by decide) (by decide)

end Binary64

open Binary64

/-- A bounded score is a confidence. -/
theorem exists_confidenceOf {score : Binary64} {k : Nat} (bounded : UpTo k score)
    (small : k + 1 < 1024) : ∃ n, confidenceOf (.float score) = .ok n := by
  unfold confidenceOf
  split
  · obtain ⟨units, sum, -⟩ := bounded.add (upTo_half.mono (Nat.zero_le k)) small
    simp [Number.toBinary64, bind, Except.bind, sum, truncate?]
  · exact ⟨0, rfl⟩

end SnippetDetect
