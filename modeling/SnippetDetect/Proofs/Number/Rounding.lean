import SnippetDetect.Number
import Mathlib.Algebra.Order.Ring.Nat
import Mathlib.Tactic.Ring

/-!
Rounding to 53 significant bits.

Rounding depends on the value of a quotient only, not on how it is written
(`ofUnitRatio_congr`), and leaves the numbers of the format alone (`ofUnitRatio_units`). It never
passes a power of two that the quotient does not pass (`roundUnits_le_two_pow`), so it keeps the
order (`roundUnits_mono`), and with it differences keep the order of their first terms
(`place?_sub_le`).
-/

namespace SnippetDetect.Binary64

/-! ### Rounding to a whole number -/

/-- A common factor does not matter. -/
theorem roundQuotient_mul_right (num den : Nat) {k : Nat} (pos : 0 < k) :
    roundQuotient (num * k) (den * k) = roundQuotient num den := by
  have quotient : num * k / (den * k) = num / den := Nat.mul_div_mul_right num den pos
  have remainder : num * k % (den * k) = num % den * k := Nat.mul_mod_mul_right k num den
  have below : 2 * (num % den * k) < den * k ↔ 2 * (num % den) < den := by
    rw [← Nat.mul_assoc]
    exact Nat.mul_lt_mul_right pos
  have above : den * k < 2 * (num % den * k) ↔ den < 2 * (num % den) := by
    rw [← Nat.mul_assoc]
    exact Nat.mul_lt_mul_right pos
  simp only [roundQuotient, quotient, remainder, below, above]

/-- A whole quotient is not rounded. -/
theorem roundQuotient_of_eq_mul {num den q : Nat} (pos : 0 < den) (whole : num = q * den) :
    roundQuotient num den = q := by
  subst whole
  simp [roundQuotient, pos]

/-! ### Rounding to 53 bits -/

theorem roundUnits_mul_right (num den : Nat) {k : Nat} (pos : 0 < k) :
    roundUnits (num * k) (den * k) = roundUnits num den := by
  have quotient : num * k / (den * k) = num / den := Nat.mul_div_mul_right num den pos
  have factors (step : Nat) : den * k * step = den * step * k := by ring
  simp only [roundUnits, quotient, factors, roundQuotient_mul_right _ _ pos]

/-- Quotients of one value are rounded alike. -/
theorem roundUnits_congr {a b c d : Nat} (posB : 0 < b) (posD : 0 < d) (same : a * d = c * b) :
    roundUnits a b = roundUnits c d := by
  rw [← roundUnits_mul_right a b posD, ← roundUnits_mul_right c d posB, same, Nat.mul_comm b d]

theorem two_pow_log2_sub_le (n : Nat) : 2 ^ (n.log2 - 52) ≤ n + 1 := by
  by_cases zero : n = 0
  · simp [zero]
  · calc 2 ^ (n.log2 - 52) ≤ 2 ^ n.log2 := Nat.pow_le_pow_right (by decide) (Nat.sub_le _ _)
      _ ≤ n := Nat.log2_self_le zero
      _ ≤ n + 1 := Nat.le_succ n

/-- Rounding at most doubles. -/
theorem roundUnits_le (num den : Nat) : roundUnits num den ≤ 2 * (num / den) + 1 := by
  have step := two_pow_log2_sub_le (num / den)
  have rounded := roundQuotient_le num (den * 2 ^ ((num / den).log2 - 52))
  rw [← Nat.div_div_eq_div_mul] at rounded
  have parts := Nat.div_mul_le_self (num / den) (2 ^ ((num / den).log2 - 52))
  calc roundUnits num den
      ≤ (num / den / 2 ^ ((num / den).log2 - 52) + 1) * 2 ^ ((num / den).log2 - 52) :=
        Nat.mul_le_mul_right _ rounded
    _ ≤ 2 * (num / den) + 1 := by
        rw [Nat.add_mul, Nat.one_mul]
        omega

/-! ### Counts of units -/

/-- A count that fits is not rounded. -/
theorem roundUnits_of_fitsBits {count : Nat} (fits : FitsBits count) {k : Nat} (pos : 0 < k) :
    roundUnits (count * k) k = count := by
  have quotient : count * k / k = count := Nat.mul_div_cancel count pos
  obtain ⟨q, split⟩ := fits
  have step : 0 < 2 ^ (count.log2 - 52) := Nat.two_pow_pos _
  have whole : count * k = q * (k * 2 ^ (count.log2 - 52)) := by
    calc count * k = 2 ^ (count.log2 - 52) * q * k := by rw [← split]
      _ = q * (k * 2 ^ (count.log2 - 52)) := by ring
  rw [roundUnits, quotient, roundQuotient_of_eq_mul (Nat.mul_pos pos step) whole, Nat.mul_comm]
  exact split.symm

theorem ofUnits_congr (negative : Bool) {count other : Nat} (same : count = other)
    (fits : FitsBits count) (fitsOther : FitsBits other) :
    ofUnits negative count fits = ofUnits negative other fitsOther := by
  subst same
  rfl

/-- Quotients of one value stand for one number. -/
theorem ofUnitRatio_congr (negative : Bool) {a b c d : Nat} (posB : 0 < b) (posD : 0 < d)
    (same : a * d = c * b) : ofUnitRatio negative a b = ofUnitRatio negative c d := by
  rw [ofUnitRatio, ofUnitRatio]
  exact ofUnits_congr negative (roundUnits_congr posB posD same) _ _

/-- A power of two bounds what is rounded when it bounds the quotient. -/
theorem roundUnits_le_two_pow {num den k : Nat} (pos : 0 < den) (le : num ≤ 2 ^ k * den) :
    roundUnits num den ≤ 2 ^ k := by
  rcases Nat.lt_or_eq_of_le le with less | same
  · have quotient : num / den < 2 ^ k := (Nat.div_lt_iff_lt_mul pos).mpr less
    have rounded := roundQuotient_le num (den * 2 ^ ((num / den).log2 - 52))
    rw [← Nat.div_div_eq_div_mul] at rounded
    have short : (num / den).log2 - 52 ≤ k := by
      by_cases zero : num / den = 0
      · simp [zero]
      · have := (Nat.log2_lt zero).mpr quotient
        omega
    have split : 2 ^ (k - ((num / den).log2 - 52)) * 2 ^ ((num / den).log2 - 52) = 2 ^ k := by
      rw [← Nat.pow_add, Nat.sub_add_cancel short]
    have below : num / den / 2 ^ ((num / den).log2 - 52) <
        2 ^ (k - ((num / den).log2 - 52)) := by
      rw [Nat.div_lt_iff_lt_mul (Nat.two_pow_pos _), split]
      exact quotient
    calc roundUnits num den
        ≤ 2 ^ (k - ((num / den).log2 - 52)) * 2 ^ ((num / den).log2 - 52) :=
          Nat.mul_le_mul_right _ (Nat.le_trans rounded below)
      _ = 2 ^ k := split
  · have fits : FitsBits (2 ^ k) := by
      have := fitsBits_mul_two_pow (q := 1) (Nat.one_le_two_pow) k
      rwa [Nat.one_mul] at this
    rw [same, roundUnits_of_fitsBits fits pos]

/-- A number is nearest to its own value. -/
theorem ofUnitRatio_units (negative : Bool) (units : Units) {k : Nat} (pos : 0 < k) :
    ofUnitRatio negative (units.count * k) k = .finite negative units := by
  have kept := roundUnits_of_fitsBits units.fits pos
  rw [ofUnitRatio, ofUnits_congr negative kept _ units.fits, ofUnits, dif_pos units.small]

/-! ### Order -/

/-- What is rounded is not below the whole part. -/
theorem div_le_roundQuotient (num den : Nat) : num / den ≤ roundQuotient num den := by
  unfold roundQuotient
  dsimp only
  split
  · exact Nat.le_refl _
  · split
    · exact Nat.le_succ _
    · split
      · exact Nat.le_refl _
      · exact Nat.le_succ _

theorem roundQuotient_mono {a b : Nat} (den : Nat) (le : a ≤ b) :
    roundQuotient a den ≤ roundQuotient b den := by
  rcases Nat.lt_or_eq_of_le (Nat.div_le_div_right (c := den) le) with less | same
  · calc roundQuotient a den ≤ a / den + 1 := roundQuotient_le a den
      _ ≤ b / den := less
      _ ≤ roundQuotient b den := div_le_roundQuotient b den
  · have remainders : a % den ≤ b % den := by
      have left := Nat.div_add_mod a den
      have right := Nat.div_add_mod b den
      rw [same] at left
      omega
    simp only [roundQuotient, same]
    split_ifs <;> omega

/-- A power of two that the quotient reaches is reached after rounding. -/
theorem two_pow_le_roundUnits {num den k : Nat} (log : (num / den).log2 = k)
    (pos : num / den ≠ 0) : 2 ^ k ≤ roundUnits num den := by
  have reached : 2 ^ k ≤ num / den := log ▸ Nat.log2_self_le pos
  have split : 2 ^ (k - (k - 52)) * 2 ^ (k - 52) = 2 ^ k := by
    rw [← Nat.pow_add, Nat.sub_add_cancel (Nat.sub_le _ _)]
  have steps : 2 ^ (k - (k - 52)) ≤ num / den / 2 ^ (k - 52) := by
    rw [Nat.le_div_iff_mul_le (Nat.two_pow_pos _), split]
    exact reached
  have rounded := div_le_roundQuotient num (den * 2 ^ (k - 52))
  rw [← Nat.div_div_eq_div_mul] at rounded
  rw [roundUnits, log]
  calc 2 ^ k = 2 ^ (k - (k - 52)) * 2 ^ (k - 52) := split.symm
    _ ≤ roundQuotient num (den * 2 ^ (k - 52)) * 2 ^ (k - 52) :=
      Nat.mul_le_mul_right _ (Nat.le_trans steps rounded)

/-- Rounding keeps the order. -/
theorem roundUnits_mono {a b den : Nat} (pos : 0 < den) (le : a ≤ b) :
    roundUnits a den ≤ roundUnits b den := by
  have quotients : a / den ≤ b / den := Nat.div_le_div_right le
  by_cases same : (a / den).log2 - 52 = (b / den).log2 - 52
  · rw [roundUnits, roundUnits, same]
    exact Nat.mul_le_mul_right _ (roundQuotient_mono _ le)
  · -- Different steps: a power of two lies between the quotients.
    have nonzero : b / den ≠ 0 := by
      intro zero
      have both : a / den = 0 := Nat.eq_zero_of_le_zero (zero ▸ quotients)
      exact same (by rw [zero, both])
    have longer : a / den < 2 ^ (b / den).log2 := by
      by_cases zero : a / den = 0
      · rw [zero]
        exact Nat.two_pow_pos _
      · have logs : (a / den).log2 ≤ (b / den).log2 := by
          rw [Nat.le_log2 nonzero]
          exact Nat.le_trans (Nat.log2_self_le zero) quotients
        exact (Nat.log2_lt zero).mp (by omega)
    have below : a ≤ 2 ^ (b / den).log2 * den :=
      Nat.le_of_lt ((Nat.div_lt_iff_lt_mul pos).mp longer)
    exact Nat.le_trans (roundUnits_le_two_pow pos below) (two_pow_le_roundUnits rfl nonzero)

/-- Where a rounded magnitude stands. -/
def placeOfUnits (negative : Bool) (count : Nat) : Place :=
  if count < unitsLimit then .at (signed negative count) else if negative then .bottom else .top

theorem place?_ofUnitRatio (negative : Bool) (num den : Nat) :
    (ofUnitRatio negative num den).place? =
      some (placeOfUnits negative (roundUnits num den)) := by
  rw [ofUnitRatio, ofUnits, placeOfUnits]
  split <;> rfl

/-- Where a whole number of units stands when it is rounded. -/
def placeOfTotal (total : Int) : Place := placeOfUnits (total < 0) (roundUnits total.natAbs 1)

theorem place?_add_finite (s t : Bool) (m n : Units) :
    ((finite s m).add (.finite t n)).place? =
      some (placeOfTotal (signed s m.count + signed t n.count)) := by
  simp only [add]
  split
  · next zero =>
    have none : placeOfTotal 0 = .at 0 := by decide +kernel
    rw [zero, none]
    simp [place?, Units.none, signed]
  · rw [place?_ofUnitRatio, placeOfTotal]

/-- A larger magnitude is farther from zero, on either side. -/
theorem placeOfUnits_mono {m n : Nat} (le : m ≤ n) :
    (placeOfUnits false n).before (placeOfUnits false m) = false ∧
      (placeOfUnits true m).before (placeOfUnits true n) = false := by
  simp only [placeOfUnits, signed, if_true, Bool.false_eq_true, if_false]
  constructor
  · split_ifs <;> simp [Place.before] <;> omega
  · split_ifs <;> simp [Place.before] <;> omega

theorem placeOfUnits_sign (m n : Nat) :
    (placeOfUnits false n).before (placeOfUnits true m) = false := by
  simp only [placeOfUnits, signed, if_true, Bool.false_eq_true, if_false]
  split_ifs <;> simp [Place.before]

theorem placeOfTotal_mono {a b : Int} (le : a ≤ b) :
    (placeOfTotal b).before (placeOfTotal a) = false := by
  unfold placeOfTotal
  by_cases negative : a < 0
  · by_cases both : b < 0
    · have rounded : roundUnits b.natAbs 1 ≤ roundUnits a.natAbs 1 :=
        roundUnits_mono Nat.one_pos (by omega)
      simp only [negative, both, decide_true]
      exact (placeOfUnits_mono rounded).2
    · simp only [negative, both, decide_true, decide_false]
      exact placeOfUnits_sign _ _
  · have neither : ¬b < 0 := by omega
    have rounded : roundUnits a.natAbs 1 ≤ roundUnits b.natAbs 1 :=
      roundUnits_mono Nat.one_pos (by omega)
    simp only [negative, neither, decide_false]
    exact (placeOfUnits_mono rounded).1

/-! ### Differences -/

theorem Place.before_of_not_before {p q r : Place} (le : q.before p = false)
    (less : q.before r = true) : p.before r = true := by
  cases p <;> cases q <;> cases r <;> simp_all [Place.before]
  omega

theorem Place.before_bottom (p : Place) : p.before .bottom = false := by
  cases p <;> rfl

theorem Place.before_self (p : Place) : p.before p = false := by
  cases p <;> simp [before]

/-- The difference to a number is not larger for a smaller number, unless it is unbounded above. -/
theorem place?_sub_le {now later stored : Binary64} (le : now.le later = true) {q : Place}
    (placed : (later.sub stored).place? = some q) (bounded : q ≠ .top) :
    ∃ p, (now.sub stored).place? = some p ∧ q.before p = false := by
  have unbounded : (later.sub stored).place? ≠ some .top := by
    rw [placed]
    exact fun same => bounded (Option.some.inj same)
  cases later with
  | nan => cases placed
  | infinity t =>
    cases t with
    | false =>
      -- The difference is infinite or not a number.
      cases stored with
      | nan => cases placed
      | infinity u => cases u <;> first | exact absurd rfl unbounded | cases placed
      | finite u k => exact absurd rfl unbounded
    | true =>
      have same : now = .infinity true := by
        cases now with
        | nan => cases le
        | infinity s => cases s <;> first | rfl | cases le
        | finite s m => cases le
      rw [same]
      exact ⟨q, placed, q.before_self⟩
  | finite t n =>
    cases now with
    | nan => cases le
    | infinity s =>
      cases s with
      | false => cases le
      | true =>
        refine ⟨.bottom, ?_, q.before_bottom⟩
        cases stored with
        | nan => cases placed
        | infinity u => cases u <;> first | rfl | exact absurd rfl unbounded
        | finite u k => rfl
    | finite s m =>
      cases stored with
      | nan => cases placed
      | infinity u => exact ⟨q, placed, q.before_self⟩
      | finite u k =>
        rw [sub, neg, place?_add_finite] at placed
        cases placed
        rw [sub, neg, place?_add_finite]
        refine ⟨_, rfl, placeOfTotal_mono ?_⟩
        have ordered : signed s m.count ≤ signed t n.count := by
          simpa [Binary64.le, place?, Place.before] using le
        omega

/-- A number that is less far above another than a bound was less far above it before. -/
theorem sub_lt_of_le {now later stored : Binary64} {bound : Number} (le : now.le later = true)
    (less : (Number.float (later.sub stored)).lt bound = true) :
    (Number.float (now.sub stored)).lt bound = true := by
  have places (x : Binary64) : (Number.float x).place? = x.place? := rfl
  simp only [Number.lt, places] at less ⊢
  cases placed : (later.sub stored).place? with
  | none => simp [placed] at less
  | some q =>
    cases limit : bound.place? with
    | none => simp [placed, limit] at less
    | some r =>
      simp only [placed, limit] at less
      have bounded : q ≠ .top := by
        rintro rfl
        cases r <;> cases less
      obtain ⟨p, earlier, below⟩ := place?_sub_le le placed bounded
      simp only [earlier]
      exact Place.before_of_not_before below less

end SnippetDetect.Binary64
