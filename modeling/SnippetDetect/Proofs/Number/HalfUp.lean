import SnippetDetect.Proofs.Number.Magnitude

/-!
Rounding half up, and the middles between whole numbers.

A score reaches a whole confidence as soon as it reaches the middle below it (`lt_of_reaches`), so
a score of a confidence up to `n` lies below the middle above `n`. Rounding to six places does not
bring it past that middle (`roundPlaces_le_middle`), but it may bring it there: `almostMiddle n`
is rounded to the middle above `n` and has the confidence `n` all the same.
-/

namespace SnippetDetect

namespace Binary64

/-! ### Nearest whole numbers -/

/-- A quotient not above the middle over a whole number is not rounded past that number. -/
theorem roundQuotient_le_of {num den q : Nat} (pos : 0 < den) (le : 2 * num < (2 * q + 1) * den) :
    roundQuotient num den ≤ q := by
  have split := Nat.div_add_mod' num den
  have quotient : num / den ≤ q := by
    rw [← Nat.lt_succ_iff, Nat.div_lt_iff_lt_mul pos]
    show num < (q + 1) * den
    have wide : (2 * q + 1) * den + den = 2 * ((q + 1) * den) := by ring
    omega
  rcases Nat.lt_or_eq_of_le quotient with less | rfl
  · exact (roundQuotient_le num den).trans less
  · have wide : (2 * (num / den) + 1) * den = 2 * (num / den * den) + den := by ring
    have short : 2 * (num % den) < den := by omega
    simp only [roundQuotient, if_pos short]
    exact Nat.le_refl _

/-- A quotient above the middle below a whole number is rounded to that number or past it. -/
theorem le_roundQuotient_of {num den q : Nat} (pos : 0 < den) (le : 2 * (q * den) < 2 * num + den) :
    q ≤ roundQuotient num den := by
  have split := Nat.div_add_mod' num den
  have rest := Nat.mod_lt num pos
  rcases Nat.lt_or_ge (num / den) q with less | reached
  · have next : (num / den + 1) * den ≤ q * den := Nat.mul_le_mul_right den less
    rw [Nat.add_mul, Nat.one_mul] at next
    have long : den < 2 * (num % den) := by omega
    have notShort : ¬ 2 * (num % den) < den := by omega
    have near : q ≤ num / den + 1 := by
      by_contra far
      have farther : (num / den + 2) * den ≤ q * den := Nat.mul_le_mul_right den (by omega)
      rw [Nat.add_mul] at farther
      omega
    simp only [roundQuotient, if_neg notShort, if_pos long]
    exact near
  · exact reached.trans (div_le_roundQuotient num den)

/-- A quotient near a whole number is rounded to it. -/
theorem roundQuotient_of_near {num den q k : Nat} (near : num + k = q * den) (less : 2 * k < den) :
    roundQuotient num den = q := by
  apply Nat.le_antisymm
  · apply roundQuotient_le_of (by omega)
    rw [Nat.add_mul, Nat.one_mul, Nat.mul_assoc]
    omega
  · exact le_roundQuotient_of (by omega) (by omega)

theorem exists_upTo (units : Units) : ∃ k, UpTo k (.finite false units) := by
  refine ⟨units.count, units, rfl, ?_⟩
  calc units.count ≤ 2 ^ units.count * 1 := by
        rw [Nat.mul_one]
        exact Nat.lt_two_pow_self.le
    _ ≤ 2 ^ units.count * unitsPerOne := Nat.mul_le_mul_left _ unitsPerOne_pos

/-! ### Binary fractions -/

section Fractions

variable {m j count : Nat}

/-- A fraction with a short numerator and a power of two below fits. -/
theorem fitsBits_of_fraction (short : m ≤ 2 ^ 53) (same : 2 ^ j * count = m * unitsPerOne) :
    FitsBits count := by
  obtain ⟨k, _, power, -⟩ := exists_exponents
  rw [power] at same
  rcases Nat.le_total j k with shorter | longer
  · have split : 2 ^ j * count = 2 ^ j * (m * 2 ^ (k - j)) := by
      calc 2 ^ j * count = m * 2 ^ (j + (k - j)) := by rw [same, Nat.add_sub_cancel' shorter]
        _ = 2 ^ j * (m * 2 ^ (k - j)) := by ring
    rw [Nat.eq_of_mul_eq_mul_left (Nat.two_pow_pos j) split]
    exact fitsBits_mul_two_pow short _
  · have split : 2 ^ k * (2 ^ (j - k) * count) = 2 ^ k * m := by
      calc 2 ^ k * (2 ^ (j - k) * count) = 2 ^ (k + (j - k)) * count := by ring
        _ = 2 ^ k * m := by rw [Nat.add_sub_cancel' longer, same, Nat.mul_comm]
    have bound : count ≤ m := by
      rw [← Nat.eq_of_mul_eq_mul_left (Nat.two_pow_pos k) split]
      exact Nat.le_mul_of_pos_left _ (Nat.two_pow_pos _)
    have fits := fitsBits_mul_two_pow (bound.trans short) 0
    rwa [Nat.pow_zero, Nat.mul_one] at fits

theorem lt_unitsLimit_of_fraction (short : m ≤ 2 ^ 53) (same : 2 ^ j * count = m * unitsPerOne) :
    count < unitsLimit := by
  have limit : 2 ^ 53 * unitsPerOne < unitsLimit := two_pow_mul_unitsPerOne_lt (by decide)
  calc count ≤ 2 ^ j * count := Nat.le_mul_of_pos_left _ (Nat.two_pow_pos j)
    _ ≤ 2 ^ 53 * unitsPerOne := by
      rw [same]
      exact Nat.mul_le_mul_right _ short
    _ < unitsLimit := limit

/-- Such a fraction is a number. -/
theorem ofRatio_fraction (short : m ≤ 2 ^ 53) (same : 2 ^ j * count = m * unitsPerOne) :
    ofRatio false m (2 ^ j) = .finite false
      ⟨count, lt_unitsLimit_of_fraction short same, fitsBits_of_fraction short same⟩ := by
  have value : m * unitsPerOne * 2 ^ j = count * 2 ^ j * 2 ^ j := by
    rw [← same]
    ring
  rw [ofRatio, ofUnitRatio_congr false (Nat.two_pow_pos j) (Nat.two_pow_pos j) value]
  exact ofUnitRatio_units false ⟨count, _, _⟩ (Nat.two_pow_pos j)

/-- A whole number of at most 53 bits is a number. -/
theorem ofNat_whole {n : Nat} (short : n ≤ 2 ^ 53) :
    ∃ units : Units, ofNat n = .finite false units ∧ units.count = n * unitsPerOne :=
  ⟨_, ofRatio_fraction (j := 0) short (by rw [Nat.pow_zero, Nat.one_mul]), rfl⟩

/-- Such a fraction stands where it is after rounding. -/
theorem placeOfTotal_fraction (short : m ≤ 2 ^ 53) (same : 2 ^ j * count = m * unitsPerOne) :
    placeOfTotal count = .at count := by
  have rounded := roundUnits_of_fitsBits (fitsBits_of_fraction short same) Nat.one_pos
  rw [Nat.mul_one] at rounded
  have positive : decide ((count : Int) < 0) = false := by
    rw [decide_eq_false_iff_not]
    omega
  rw [placeOfTotal, positive, Int.natAbs_natCast, rounded, placeOfUnits,
    if_pos (lt_unitsLimit_of_fraction short same)]
  rfl

theorem placeOfTotal_whole {n : Nat} (short : n ≤ 2 ^ 53) :
    placeOfTotal (n * unitsPerOne : Nat) = .at (n * unitsPerOne : Nat) :=
  placeOfTotal_fraction (j := 0) short (by rw [Nat.pow_zero, Nat.one_mul])

end Fractions

/-! ### Middles -/

/-- The number in the middle between a natural number and the next one. -/
def middle (n : Nat) : Binary64 := ofRatio false (2 * n + 1) 2

/-- A number a little below the middle. -/
def almostMiddle (n : Nat) : Binary64 := ofRatio false ((2 * n + 1) * 2097152 - 1) (2 ^ 22)

theorem half_eq_middle : half = middle 0 := rfl

theorem exists_half : ∃ count, 2 * count = unitsPerOne :=
  ⟨2 ^ 1073, by decide +kernel⟩

/-- Twice a middle is an odd number of ones. -/
theorem middle_eq {n : Nat} (small : n < 2 ^ 52) : ∃ units : Units,
    middle n = .finite false units ∧ 2 * units.count = (2 * n + 1) * unitsPerOne := by
  obtain ⟨half, twice⟩ := exists_half
  have short : 2 * n + 1 ≤ 2 ^ 53 := by omega
  have same : 2 ^ 1 * ((2 * n + 1) * half) = (2 * n + 1) * unitsPerOne := by
    rw [← twice]
    ring
  refine ⟨_, ofRatio_fraction short same, ?_⟩
  rw [← same]
  rfl

theorem isSome_place?_middle {n : Nat} (small : n < 2 ^ 52) : (middle n).place?.isSome = true := by
  obtain ⟨units, same, -⟩ := middle_eq small
  rw [same]
  rfl

/-- A middle in millionths. -/
theorem ofRatio_millionths (n : Nat) :
    ofRatio false ((2 * n + 1) * 500000) (10 ^ 6) = middle n := by
  rw [middle, ofRatio, ofRatio]
  apply ofUnitRatio_congr false (by decide) (by decide)
  ring

/-- A middle is kept by rounding to six places. -/
theorem roundPlaces_middle {n : Nat} (small : n < 2 ^ 52) :
    (middle n).roundPlaces 6 = middle n := by
  obtain ⟨units, same, twice⟩ := middle_eq small
  have whole : units.count * 10 ^ 6 = (2 * n + 1) * 500000 * unitsPerOne := by
    calc units.count * 10 ^ 6 = 2 * units.count * 500000 := by ring
      _ = (2 * n + 1) * 500000 * unitsPerOne := by
        rw [twice]
        ring
  rw [same, roundPlaces, roundQuotient_of_eq_mul unitsPerOne_pos whole, ofRatio_millionths, same]

/-- What is below a middle is not past it when it is rounded to six places. -/
theorem roundPlaces_le_middle {score : Binary64} {n : Nat} (small : n < 2 ^ 52)
    (below : score.lt (middle n) = true) : (score.roundPlaces 6).le (middle n) = true := by
  obtain ⟨units, same, -⟩ := middle_eq small
  cases score with
  | nan => cases below
  | infinity negative =>
    cases negative with
    | true =>
      rw [same]
      rfl
    | false =>
      rw [same] at below
      cases below
  | finite negative count =>
    cases negative with
    | true =>
      have here : (finite false units).place? = some (placeOfUnits false units.count) := by
        rw [placeOfUnits, if_pos units.small]
        rfl
      rw [same]
      exact le_of_place? (place?_ofUnitRatio _ _ _) here (placeOfUnits_sign _ _)
    | false =>
      obtain ⟨k, bounded⟩ := exists_upTo count
      obtain ⟨l, boundedToo⟩ := exists_upTo units
      rw [← roundPlaces_middle small, same]
      refine bounded.roundPlaces_mono boundedToo ?_ 6
      rw [← same]
      exact le_of_lt below

end Binary64

open Binary64

/-! ### Confidence -/

/-- The confidence of a score above zero is the whole part of its sum with a half. -/
theorem confidenceOf_of_pos {x : Binary64} (above : (0 : Number).lt (.float x) = true) :
    confidenceOf (.float x) = (x.add half).truncate?.elim (.error .infinityToInt)
      fun m => .ok (min m.toNat 100) := by
  unfold confidenceOf
  rw [if_pos above]
  simp only [Number.toBinary64, bind, Except.bind]
  cases (x.add half).truncate? <;> rfl

theorem zero_lt_finite {units : Units} (pos : 0 < units.count) :
    (0 : Number).lt (.float (finite false units)) = true := by
  have zero : (0 : Number).place? = some (.at 0) := congrArg (some ∘ Place.at) (Int.zero_mul _)
  have less : (0 : Int) < signed false units.count := by
    rw [signed, if_neg Bool.false_ne_true]
    omega
  have there : (Number.float (finite false units)).place? = some (.at (signed false units.count)) :=
    rfl
  rw [Number.lt, zero, there]
  exact decide_eq_true less

/-- An infinite score is no confidence. -/
theorem confidenceOf_infinity {c : Nat} : confidenceOf (.float (.infinity false)) ≠ .ok c := by
  obtain ⟨units, isHalf, -⟩ := middle_eq (n := 0) (by decide)
  have above : (0 : Number).lt (.float (.infinity false)) = true := rfl
  rw [confidenceOf_of_pos above, half_eq_middle, isHalf]
  nofun

/-- Where the sum of a score and a half stands. -/
theorem exists_place?_add_half (units : Units) : ∃ count, 2 * count = unitsPerOne ∧
    ((finite false units).add half).place? =
      some (placeOfTotal ((units.count + count : Nat) : Int)) := by
  obtain ⟨halfUnits, isHalf, twice⟩ := middle_eq (n := 0) (by decide)
  refine ⟨halfUnits.count, by omega, ?_⟩
  have total : signed false units.count + signed false halfUnits.count =
      ((units.count + halfUnits.count : Nat) : Int) := by
    simp only [signed, Bool.false_eq_true, if_false]
    omega
  rw [half_eq_middle, isHalf, place?_add_finite, total]

/-- The whole part of a number that is finite and not below a number of units. -/
theorem le_of_truncate? {x : Binary64} {p : Place} (place : x.place? = some p) {count : Nat}
    (pos : 0 < count) (reached : p.before (.at count) = false) {m : Int}
    (whole : x.truncate? = some m) : ((count / unitsPerOne : Nat) : Int) ≤ m := by
  cases x with
  | nan => cases whole
  | infinity negative => cases whole
  | finite negative units =>
    cases place
    rw [Place.before, decide_eq_false_iff_not, Int.not_lt] at reached
    cases negative with
    | true =>
      rw [signed, if_pos rfl] at reached
      omega
    | false =>
      rw [signed, if_neg Bool.false_ne_true, Int.ofNat_le] at reached
      cases whole
      rw [signed, if_neg Bool.false_ne_true, Int.ofNat_le]
      exact Nat.div_le_div_right reached

/-- A number that stands at a positive number of units is finite and has that many. -/
theorem exists_units {x : Binary64} {count : Nat} (pos : 0 < count)
    (place : x.place? = some (.at count)) :
    ∃ units : Units, x = .finite false units ∧ units.count = count := by
  cases x with
  | nan => cases place
  | infinity negative => cases negative <;> cases place
  | finite negative units =>
    have here : signed negative units.count = count := Place.at.inj (Option.some.inj place)
    cases negative with
    | true =>
      rw [signed, if_pos rfl] at here
      omega
    | false =>
      rw [signed, if_neg Bool.false_ne_true, Int.ofNat_inj] at here
      exact ⟨units, rfl, here⟩

theorem truncate?_of_place {x : Binary64} {count : Nat} (pos : 0 < count)
    (place : x.place? = some (.at count)) :
    x.truncate? = some ((count / unitsPerOne : Nat) : Int) := by
  obtain ⟨units, rfl, rfl⟩ := exists_units pos place
  rfl

/-- A score that reaches a middle has a confidence above it. -/
theorem lt_of_reaches {score : Binary64} {n c : Nat} (small : n < 100)
    (reaches : (middle n).le score = true) (made : confidenceOf (.float score) = .ok c) :
    n < c := by
  obtain ⟨units, same, twice⟩ := middle_eq (n := n) (by omega)
  have odd : 0 < (2 * n + 1) * unitsPerOne := Nat.mul_pos (by omega) unitsPerOne_pos
  rw [same] at reaches
  cases score with
  | nan => cases reaches
  | infinity negative =>
    cases negative with
    | true => cases reaches
    | false => exact absurd made confidenceOf_infinity
  | finite negative count =>
    simp only [Binary64.le, place?, Place.before, Bool.not_eq_true', decide_eq_false_iff_not]
      at reaches
    cases negative with
    | true =>
      simp only [signed, if_true, Bool.false_eq_true, if_false] at reaches
      omega
    | false =>
      simp only [signed, Bool.false_eq_true, if_false] at reaches
      rw [confidenceOf_of_pos (zero_lt_finite (by omega))] at made
      cases whole : ((finite false count).add half).truncate? with
      | none =>
        rw [whole] at made
        cases made
      | some m =>
        obtain ⟨halfUnits, one, place⟩ := exists_place?_add_half count
        have total : (((n + 1) * unitsPerOne : Nat) : Int) ≤ (count.count + halfUnits : Nat) := by
          have split : 2 * ((n + 1) * unitsPerOne) = (2 * n + 1) * unitsPerOne + unitsPerOne := by
            ring
          omega
        have order := placeOfTotal_mono total
        rw [placeOfTotal_whole (by omega)] at order
        have pos : 0 < (n + 1) * unitsPerOne := Nat.mul_pos n.succ_pos unitsPerOne_pos
        have reached := le_of_truncate? place pos order whole
        rw [Nat.mul_div_cancel _ unitsPerOne_pos] at reached
        rw [whole] at made
        obtain rfl := Except.ok.inj made
        omega

/-! ### Just below a middle -/

theorem almostMiddle_eq {n : Nat} (small : n < 100) : ∃ units : Units,
    almostMiddle n = .finite false units ∧
      4194304 * units.count = ((2 * n + 1) * 2097152 - 1) * unitsPerOne := by
  obtain ⟨part, split⟩ : ∃ part, 4194304 * part = unitsPerOne := ⟨2 ^ 1052, by decide +kernel⟩
  have short : (2 * n + 1) * 2097152 - 1 ≤ 2 ^ 53 := by omega
  have same : 2 ^ 22 * (((2 * n + 1) * 2097152 - 1) * part) =
      ((2 * n + 1) * 2097152 - 1) * unitsPerOne := by
    rw [← split]
    ring
  refine ⟨_, ofRatio_fraction short same, ?_⟩
  rw [← same]
  rfl

/-- A number a little below the middle is rounded to the middle. -/
theorem roundPlaces_almostMiddle {n : Nat} (small : n < 100) :
    (almostMiddle n).roundPlaces 6 = middle n := by
  obtain ⟨units, same, parts⟩ := almostMiddle_eq small
  have millionths : roundQuotient (units.count * 10 ^ 6) unitsPerOne =
      roundQuotient (((2 * n + 1) * 2097152 - 1) * 10 ^ 6) 4194304 := by
    have value : units.count * 10 ^ 6 * 4194304 =
        ((2 * n + 1) * 2097152 - 1) * 10 ^ 6 * unitsPerOne := by
      calc units.count * 10 ^ 6 * 4194304 = 4194304 * units.count * 10 ^ 6 := by ring
        _ = ((2 * n + 1) * 2097152 - 1) * 10 ^ 6 * unitsPerOne := by
          rw [parts]
          ring
    have factor : 0 < 4194304 := by decide
    rw [← roundQuotient_mul_right (units.count * 10 ^ 6) unitsPerOne factor, value,
      Nat.mul_comm unitsPerOne, roundQuotient_mul_right _ _ unitsPerOne_pos]
  have nearest : roundQuotient (((2 * n + 1) * 2097152 - 1) * 10 ^ 6) 4194304 =
      (2 * n + 1) * 500000 := by
    apply roundQuotient_of_near (k := 1000000)
    · omega
    · decide
  rw [same, roundPlaces, millionths, nearest, ofRatio_millionths]

/-- Its confidence is the number below the middle. -/
theorem confidenceOf_almostMiddle {n : Nat} (small : n < 100) :
    confidenceOf (.float (almostMiddle n)) = .ok n := by
  obtain ⟨units, same, parts⟩ := almostMiddle_eq small
  obtain ⟨halfUnits, one, place⟩ := exists_place?_add_half units
  have pos := unitsPerOne_pos
  have positive : 0 < ((2 * n + 1) * 2097152 - 1) * unitsPerOne := Nat.mul_pos (by omega) pos
  have total : 2 ^ 22 * (units.count + halfUnits) = ((n + 1) * 4194304 - 1) * unitsPerOne := by
    have sum : (n + 1) * 4194304 - 1 = (2 * n + 1) * 2097152 - 1 + 2097152 := by omega
    calc 2 ^ 22 * (units.count + halfUnits)
        = 4194304 * units.count + 2097152 * (2 * halfUnits) := by ring
      _ = ((n + 1) * 4194304 - 1) * unitsPerOne := by
        rw [parts, one, sum]
        ring
  have quotient : (units.count + halfUnits) / unitsPerOne = n := by
    have whole : ((n + 1) * 4194304 - 1) * unitsPerOne + unitsPerOne =
        4194304 * (n * unitsPerOne) + 4194304 * unitsPerOne := by
      have steps : (n + 1) * 4194304 - 1 + 1 = (n + 1) * 4194304 := by omega
      calc ((n + 1) * 4194304 - 1) * unitsPerOne + unitsPerOne
          = ((n + 1) * 4194304 - 1 + 1) * unitsPerOne := by ring
        _ = 4194304 * (n * unitsPerOne) + 4194304 * unitsPerOne := by
          rw [steps]
          ring
    rw [Nat.div_eq_iff pos]
    constructor
    · omega
    · omega
  rw [placeOfTotal_fraction (j := 22) (by omega) total] at place
  have whole := truncate?_of_place (by omega) place
  rw [same, confidenceOf_of_pos (zero_lt_finite (by omega)), whole, quotient]
  have low : min n 100 = n := by omega
  exact congrArg Except.ok low

end SnippetDetect
