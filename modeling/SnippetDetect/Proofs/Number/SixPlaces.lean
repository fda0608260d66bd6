import SnippetDetect.Proofs.Number.HalfUp

/-!
Gates on the scale of scores.

A threshold is divided by a hundred to make a gate, and the gate is multiplied by a hundred to be
compared with scores. Each of the two roundings on the way changes little (`div_le_roundUnits`,
`roundUnits_le_div`), so what comes back is the threshold up to a quarter of a millionth
(`exists_hundredfold`). Rounded to six places it passes no millionth that the threshold does not
pass (`sixPlaces_eq`). In particular it stays on the side of a middle that the threshold is on,
where that is a millionth away (`sixPlaces_le_middle`, `middle_lt_sixPlaces`).
-/

namespace SnippetDetect.Binary64

/-! ### What rounding changes -/

/-- The step of rounding is small beside what is rounded. -/
theorem step_le (q : Nat) : 2 ^ (q.log2 - 52) ≤ q / 2 ^ 52 + 1 := by
  rcases Nat.le_total q.log2 52 with short | long
  · rw [Nat.sub_eq_zero_of_le short, Nat.pow_zero]
    exact Nat.le_add_left 1 _
  · have nonzero : q ≠ 0 := by
      rintro rfl
      exact absurd long (by decide)
    have split : 2 ^ (q.log2 - 52) * 2 ^ 52 ≤ q := by
      rw [← Nat.pow_add, Nat.sub_add_cancel long]
      exact Nat.log2_self_le nonzero
    have quotient := (Nat.le_div_iff_mul_le (Nat.two_pow_pos 52)).mpr split
    omega

/-- Rounding loses little. -/
theorem div_le_roundUnits (num den : Nat) :
    num / den ≤ roundUnits num den + num / den / 2 ^ 52 := by
  have step := step_le (num / den)
  have rounded := div_le_roundQuotient num (den * 2 ^ ((num / den).log2 - 52))
  rw [← Nat.div_div_eq_div_mul] at rounded
  have parts := Nat.div_add_mod' (num / den) (2 ^ ((num / den).log2 - 52))
  have rest := Nat.mod_lt (num / den) (Nat.two_pow_pos ((num / den).log2 - 52))
  have whole := Nat.mul_le_mul_right (2 ^ ((num / den).log2 - 52)) rounded
  rw [roundUnits]
  omega

/-- Rounding adds little. -/
theorem roundUnits_le_div (num den : Nat) :
    roundUnits num den ≤ num / den + num / den / 2 ^ 52 + 1 := by
  have step := step_le (num / den)
  have rounded := roundQuotient_le num (den * 2 ^ ((num / den).log2 - 52))
  rw [← Nat.div_div_eq_div_mul] at rounded
  have parts := Nat.div_mul_le_self (num / den) (2 ^ ((num / den).log2 - 52))
  have whole := Nat.mul_le_mul_right (2 ^ ((num / den).log2 - 52)) rounded
  rw [Nat.add_mul, Nat.one_mul] at whole
  rw [roundUnits]
  omega

theorem ofUnitRatio_eq (num den : Nat) {k : Nat} (pos : 0 < den) (small : k < 1024)
    (le : num ≤ 2 ^ k * unitsPerOne * den) : ∃ units : Units,
      ofUnitRatio false num den = .finite false units ∧ units.count = roundUnits num den ∧
        units.count ≤ 2 ^ k * unitsPerOne := by
  have bound := roundUnits_le_two_pow_mul pos le
  have room := Nat.lt_of_le_of_lt bound (two_pow_mul_unitsPerOne_lt small)
  rw [ofUnitRatio, ofUnits, dif_pos room]
  exact ⟨_, rfl, rfl, bound⟩

/-- One has units enough for what is cut off in a few roundings not to matter. -/
theorem two_pow_le_unitsPerOne : 2 ^ 64 ≤ unitsPerOne := by decide +kernel

/-- The hundredth of a number up to a hundred, taken a hundred times, is that number up to a
quarter of a millionth. -/
theorem exists_hundredfold {t : Nat} (high : t ≤ 100 * unitsPerOne) : ∃ units : Units,
    (ofUnitRatio false t 100).mul (ofNat 100) = .finite false units ∧
      4000000 * units.count ≤ 4000000 * t + unitsPerOne ∧
      4000000 * t ≤ 4000000 * units.count + unitsPerOne := by
  obtain ⟨hundred, isHundred, ones⟩ := ofNat_whole (n := 100) (by decide)
  have large := two_pow_le_unitsPerOne
  obtain ⟨part, isPart, count, bound⟩ :=
    ofUnitRatio_eq t 100 (k := 0) (by decide) (by decide) (by omega)
  have product : part.count * hundred.count ≤ 2 ^ 7 * unitsPerOne * unitsPerOne := by
    rw [ones, ← Nat.mul_assoc]
    exact Nat.mul_le_mul_right _ (by omega)
  obtain ⟨units, isUnits, countUnits, -⟩ :=
    ofUnitRatio_eq (part.count * hundred.count) unitsPerOne unitsPerOne_pos (by decide) product
  -- Two roundings, each of which loses and adds little.
  have lossPart := div_le_roundUnits t 100
  have gainPart := roundUnits_le_div t 100
  rw [← count] at lossPart gainPart
  have loss := div_le_roundUnits (part.count * hundred.count) unitsPerOne
  have gain := roundUnits_le_div (part.count * hundred.count) unitsPerOne
  rw [← countUnits, ones, ← Nat.mul_assoc, Nat.mul_div_cancel _ unitsPerOne_pos] at loss gain
  refine ⟨units, ?_, ?_, ?_⟩
  · rw [isPart, isHundred]
    exact isUnits
  · omega
  · omega

/-! ### Gates -/

/-- The gate of a threshold of so many units, back on the scale of scores and rounded to six
places. -/
def sixPlaces (t : Nat) : Binary64 := ((ofUnitRatio false t 100).mul (ofNat 100)).roundPlaces 6

/-- Rounding to six places takes the gate past no millionth that the threshold does not pass. -/
theorem sixPlaces_eq {t : Nat} (high : t ≤ 100 * unitsPerOne) : ∃ r : Nat,
    sixPlaces t = ofRatio false r (10 ^ 6) ∧
      ∀ q, (q * unitsPerOne ≤ t * 10 ^ 6 → q ≤ r) ∧ (t * 10 ^ 6 ≤ q * unitsPerOne → r ≤ q) := by
  obtain ⟨units, same, above, below⟩ := exists_hundredfold high
  have pos := unitsPerOne_pos
  refine ⟨roundQuotient (units.count * 10 ^ 6) unitsPerOne, ?_, ?_⟩
  · rw [sixPlaces, same, roundPlaces]
  · intro q
    constructor
    · intro reached
      apply le_roundQuotient_of pos
      omega
    · intro bounded
      apply roundQuotient_le_of pos
      rw [Nat.add_mul, Nat.one_mul, Nat.mul_assoc]
      omega

/-- The gate of a threshold that is not above a middle is not above it either. -/
theorem sixPlaces_le_middle {t n : Nat} (high : t ≤ 100 * unitsPerOne)
    (below : 2 * t ≤ (2 * n + 1) * unitsPerOne) : (sixPlaces t).le (middle n) = true := by
  obtain ⟨r, same, bounds⟩ := sixPlaces_eq high
  have bounded : r ≤ (2 * n + 1) * 500000 := by
    apply (bounds _).2
    calc t * 10 ^ 6 = 2 * t * 500000 := by ring
      _ ≤ (2 * n + 1) * unitsPerOne * 500000 := Nat.mul_le_mul_right _ below
      _ = (2 * n + 1) * 500000 * unitsPerOne := by ring
  have million : 0 < 10 ^ 6 := by decide
  have rounded := roundUnits_mono million (Nat.mul_le_mul_right unitsPerOne bounded)
  rw [same, ← ofRatio_millionths]
  exact le_of_place? (place?_ofUnitRatio _ _ _) (place?_ofUnitRatio _ _ _)
    (placeOfUnits_mono rounded).1

theorem before_placeOfUnits {m n : Nat} (less : m < n) :
    (Place.at m).before (placeOfUnits false n) = true := by
  rw [placeOfUnits]
  split
  · simpa [Place.before, signed] using less
  · rfl

/-- The gate of a threshold that is a millionth above a middle is above it too. -/
theorem middle_lt_sixPlaces {t n : Nat} (high : t ≤ 100 * unitsPerOne) (small : n < 100)
    (above : ((2 * n + 1) * 500000 + 1) * unitsPerOne ≤ t * 10 ^ 6) :
    (middle n).lt (sixPlaces t) = true := by
  obtain ⟨units, isMiddle, twice⟩ := middle_eq (n := n) (by omega)
  obtain ⟨r, same, bounds⟩ := sixPlaces_eq high
  have large := two_pow_le_unitsPerOne
  have reached := Nat.mul_le_mul_right unitsPerOne ((bounds _).1 above)
  have wide : ((2 * n + 1) * 500000 + 1) * unitsPerOne =
      500000 * ((2 * n + 1) * unitsPerOne) + unitsPerOne := by ring
  have narrow : (2 * n + 1) * unitsPerOne ≤ 201 * unitsPerOne := Nat.mul_le_mul_right _ (by omega)
  have loss := div_le_roundUnits (r * unitsPerOne) (10 ^ 6)
  have less : units.count < roundUnits (r * unitsPerOne) (10 ^ 6) := by omega
  rw [isMiddle, same, Binary64.lt, ofRatio, place?_ofUnitRatio]
  exact before_placeOfUnits less

end SnippetDetect.Binary64
