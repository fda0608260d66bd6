import SnippetDetect.Number.Reader
import SnippetDetect.Proofs.Number.Rounding

/-!
Decimals and the numbers they stand for.

The number nearest to a decimal depends on the value of the decimal only, so zeros at its end do
not matter (`toBinary64_shift`). The decimal that a number is written as reads back as that
number, with either sign (`toBinary64_shortest`).
-/

namespace SnippetDetect

/-! ### Digits -/

namespace Number

theorem ofDigits_eq (ds : List Char) : ofDigits ds = Nat.ofDigitChars 10 ds 0 := by
  simp only [ofDigits, Nat.ofDigitChars, Nat.mul_comm 10]
  rfl

theorem ofDigits_append (xs ys : List Char) :
    ofDigits (xs ++ ys) = ofDigits xs * 10 ^ ys.length + ofDigits ys := by
  rw [ofDigits_eq, ofDigits_eq, ofDigits_eq, Nat.ofDigitChars_append,
    Nat.ofDigitChars_eq_ofDigitChars_zero, Nat.mul_comm]

theorem ofDigits_digits (n : Nat) : ofDigits (Decimal.digits n) = n := by
  rw [ofDigits_eq, Decimal.digits, Nat.ofDigitChars_ten_toDigits]

theorem ofDigits_zeros (k : Nat) : ofDigits (Decimal.zeros k) = 0 := by
  rw [ofDigits_eq, Decimal.zeros, Nat.ofDigitChars_replicate_zero, Nat.mul_zero]

end Number

namespace Decimal

open SnippetDetect.Number (ofDigits ofDigits_append ofDigits_digits ofDigits_zeros)

theorem isDigit_of_mem_digits {n : Nat} {c : Char} (mem : c ∈ digits n) : c.isDigit = true :=
  Nat.isDigit_of_mem_toDigits (by decide) (by decide) mem

theorem length_digits_le_iff {n k : Nat} (pos : 0 < k) : (digits n).length ≤ k ↔ n < 10 ^ k :=
  Nat.length_toDigits_le_iff (by decide) pos

theorem digits_ne_nil (n : Nat) : digits n ≠ [] := Nat.toDigits_ne_nil

theorem digits_mul_ten {n : Nat} (pos : 0 < n) : digits (n * 10) = digits n ++ ['0'] := by
  rw [digits, Nat.toDigits_of_base_le (by decide) (by omega), Nat.mul_div_cancel n (by decide),
    Nat.mul_mod_left]
  rfl

/-- A power of ten as a factor appends zeros. -/
theorem length_digits_mul_ten_pow {n : Nat} (pos : 0 < n) (k : Nat) :
    (digits (n * 10 ^ k)).length = (digits n).length + k := by
  induction k with
  | zero => rw [Nat.pow_zero, Nat.mul_one, Nat.add_zero]
  | succ k ih =>
    have part : 0 < n * 10 ^ k := Nat.mul_pos pos (Nat.pow_pos (by decide))
    rw [Nat.pow_succ, ← Nat.mul_assoc, digits_mul_ten part, List.length_append, ih]
    rfl

/-- A positive number does not begin with a zero. -/
theorem head_digits_ne_zero {n : Nat} (pos : 0 < n) : (digits n).head? ≠ some '0' := by
  induction n using Nat.strongRecOn with
  | _ n ih =>
    by_cases small : n < 10
    · rw [digits, Nat.toDigits_of_lt_base small]
      intro same
      have value := congrArg (·.elim 0 fun c => c.toNat - 48) same
      simp only [List.head?_cons, Option.elim_some, Nat.toNat_digitChar_sub_48_of_lt_ten small]
        at value
      exact absurd value (Nat.ne_of_gt pos)
    · have fewer := ih (n / 10) (by omega) (by omega)
      obtain ⟨c, rest, split⟩ := List.exists_cons_of_ne_nil (digits_ne_nil (n / 10))
      have longer : digits n = digits (n / 10) ++ [(n % 10).digitChar] :=
        Nat.toDigits_of_base_le (by decide) (by omega)
      rw [split] at fewer
      rw [longer, split]
      exact fewer

/-! ### Values of decimals -/

/-- The place just before the leading digit. -/
def lead (d : Decimal) : Int := d.exponent + (digits d.coefficient).length

/-- The number nearest to a decimal, with the quotient in one form for all exponents. -/
theorem toBinary64_eq (negative : Bool) (d : Decimal) :
    d.toBinary64 negative =
      if d.coefficient = 0 ∨ d.lead < -400 then .finite negative .none
      else if 400 < d.lead then .infinity negative
      else .ofRatio negative (d.coefficient * 10 ^ d.exponent.toNat) (10 ^ (-d.exponent).toNat) := by
  obtain ⟨coefficient, exponent⟩ := d
  cases exponent with
  | ofNat e =>
    have numerator : (Int.ofNat e).toNat = e := rfl
    have denominator : (-Int.ofNat e).toNat = 0 := by simp
    rw [toBinary64, lead, numerator, denominator, Nat.pow_zero]
  | negSucc e =>
    have numerator : (Int.negSucc e).toNat = 0 := rfl
    have denominator : (-Int.negSucc e).toNat = e + 1 := rfl
    rw [toBinary64, lead, numerator, denominator, Nat.pow_zero, Nat.mul_one]

theorem ofRatio_congr (negative : Bool) {a b c d : Nat} (posB : 0 < b) (posD : 0 < d)
    (same : a * d = c * b) : Binary64.ofRatio negative a b = Binary64.ofRatio negative c d := by
  apply Binary64.ofUnitRatio_congr negative posB posD
  calc a * Binary64.unitsPerOne * d = a * d * Binary64.unitsPerOne := by ring
    _ = c * b * Binary64.unitsPerOne := by rw [same]
    _ = c * Binary64.unitsPerOne * b := by ring

/-- Zeros at the end do not matter. -/
theorem toBinary64_shift (negative : Bool) (coefficient : Nat) (exponent : Int) (k : Nat) :
    toBinary64 negative ⟨coefficient * 10 ^ k, exponent - k⟩ =
      toBinary64 negative ⟨coefficient, exponent⟩ := by
  by_cases zero : coefficient = 0
  · rw [toBinary64_eq, toBinary64_eq, if_pos (.inl (by simp [zero])), if_pos (.inl zero)]
  · have pos : 0 < coefficient := Nat.pos_of_ne_zero zero
    have shifted : coefficient * 10 ^ k ≠ 0 :=
      Nat.mul_ne_zero zero (Nat.pow_pos (by decide)).ne'
    have place : lead ⟨coefficient * 10 ^ k, exponent - k⟩ = lead ⟨coefficient, exponent⟩ := by
      simp only [lead, length_digits_mul_ten_pow pos]
      omega
    have quotient : Binary64.ofRatio negative
          (coefficient * 10 ^ k * 10 ^ (exponent - k).toNat) (10 ^ (-(exponent - k)).toNat) =
        .ofRatio negative (coefficient * 10 ^ exponent.toNat) (10 ^ (-exponent).toNat) := by
      apply ofRatio_congr negative (Nat.pow_pos (by decide)) (Nat.pow_pos (by decide))
      have exponents : k + (exponent - k).toNat + (-exponent).toNat =
          exponent.toNat + (-(exponent - k)).toNat := by omega
      calc coefficient * 10 ^ k * 10 ^ (exponent - k).toNat * 10 ^ (-exponent).toNat
          = coefficient * 10 ^ (k + (exponent - k).toNat + (-exponent).toNat) := by ring
        _ = coefficient * 10 ^ (exponent.toNat + (-(exponent - k)).toNat) := by rw [exponents]
        _ = coefficient * 10 ^ exponent.toNat * 10 ^ (-(exponent - k)).toNat := by ring
    simp only [toBinary64_eq, place, quotient, zero, shifted]

/-! ### Placed digits -/

/-- The digits of a positive decimal as they are written: none is missing, and neither the first nor,
before the zeros that are left out, the last is wasted. -/
structure WrittenAs (p : Placed) (d : Decimal) : Prop where
  row : ∀ c ∈ p.digits, c.isDigit = true
  nonempty : p.digits ≠ []
  head : p.digits.head? ≠ some '0'
  value : ∀ negative, toBinary64 negative ⟨ofDigits p.digits, p.point - p.digits.length⟩ =
    d.toBinary64 negative

/-- A row of characters is what is left of it without the zeros at its end, and these. -/
theorem eq_append_zeros (ds : List Char) :
    ∃ k, ds = (ds.reverse.dropWhile (· == '0')).reverse ++ zeros k := by
  refine ⟨(ds.reverse.takeWhile (· == '0')).length, ?_⟩
  have trailing : ds.reverse.takeWhile (· == '0') =
      zeros (ds.reverse.takeWhile (· == '0')).length := by
    rw [zeros, List.eq_replicate_iff]
    refine ⟨rfl, fun c mem => ?_⟩
    exact eq_of_beq (List.all_eq_true.mp List.all_takeWhile c mem)
  have whole := congrArg List.reverse
    (List.takeWhile_append_dropWhile (p := (· == '0')) (l := ds.reverse))
  rw [trailing, List.reverse_append, List.reverse_reverse, zeros, List.reverse_replicate] at whole
  exact whole.symm

theorem writtenAs_placed {d : Decimal} (pos : 0 < d.coefficient) : WrittenAs d.placed d := by
  obtain ⟨k, split⟩ := eq_append_zeros (digits d.coefficient)
  have same : d.placed.digits = ((digits d.coefficient).reverse.dropWhile (· == '0')).reverse := rfl
  rw [← same] at split
  have value : ofDigits d.placed.digits * 10 ^ k = d.coefficient := by
    rw [← ofDigits_digits d.coefficient, split, ofDigits_append, ofDigits_zeros, zeros,
      List.length_replicate, Nat.add_zero]
  have nonempty : d.placed.digits ≠ [] := by
    intro empty
    rw [empty] at value
    simp [ofDigits] at value
    omega
  refine ⟨?_, nonempty, ?_, ?_⟩
  · intro c mem
    apply isDigit_of_mem_digits (n := d.coefficient)
    rw [split]
    exact List.mem_append_left _ mem
  · obtain ⟨c, rest, first⟩ := List.exists_cons_of_ne_nil nonempty
    have head := head_digits_ne_zero pos
    rw [split, first] at head
    rw [first]
    exact head
  · intro negative
    have length := congrArg List.length split
    rw [List.length_append, zeros, List.length_replicate] at length
    have point : d.placed.point = d.exponent + (digits d.coefficient).length := rfl
    have exponent : d.exponent = d.placed.point - d.placed.digits.length - k := by
      rw [point, length]
      omega
    rw [← toBinary64_shift negative _ _ k, value, ← exponent]

end Decimal

namespace Binary64

open SnippetDetect.Decimal

/-! ### The decimal of a number -/

/-- The sign of a decimal is that of its number. -/
theorem toBinary64_of_false {d : Decimal} {units : Units}
    (reads : d.toBinary64 false = .finite false units) (negative : Bool) :
    d.toBinary64 negative = .finite negative units := by
  rw [toBinary64_eq] at reads ⊢
  split
  · next small =>
    rw [if_pos small] at reads
    cases reads
    rfl
  · next notSmall =>
    rw [if_neg notSmall] at reads
    split
    · next large =>
      rw [if_pos large] at reads
      cases reads
    · next notLarge =>
      rw [if_neg notLarge, ofRatio, ofUnitRatio, ofUnits] at reads
      rw [ofRatio, ofUnitRatio, ofUnits]
      split at reads
      · next inRange =>
        rw [dif_pos inRange]
        cases reads
        rfl
      · cases reads

/-- All the digits of a number read back as it. -/
theorem toBinary64_expansion (units : Units) (pos : 0 < units.count) :
    (expansion units.count).toBinary64 false = .finite false units := by
  have five (k : Nat) : 0 < 5 ^ k := Nat.pow_pos (by decide)
  set coefficient := units.count * 5 ^ 1074 with hcoefficient
  have low : 673 < (digits coefficient).length := by
    rw [← Nat.not_le, length_digits_le_iff (by decide), Nat.not_lt]
    calc 10 ^ 673 ≤ 5 ^ 1074 := by decide +kernel
      _ ≤ coefficient := Nat.le_mul_of_pos_left _ pos
  have high : (digits coefficient).length ≤ 1474 := by
    rw [length_digits_le_iff (by decide)]
    calc coefficient < unitsLimit * 5 ^ 1074 := by
          rw [hcoefficient]
          exact Nat.mul_lt_mul_of_pos_right units.small (five 1074)
      _ ≤ 10 ^ 1474 := by decide +kernel
  have written : expansion units.count = ⟨coefficient, -1074⟩ := by
    simp only [expansion, ← hcoefficient]
  have place : (expansion units.count).lead = -1074 + (digits coefficient).length := by
    rw [written, lead]
  have nonzero : coefficient ≠ 0 := (Nat.mul_pos pos (five 1074)).ne'
  have value : coefficient * 10 ^ 0 * unitsPerOne = units.count * 10 ^ 1074 := by
    have ten : 5 ^ 1074 * unitsPerOne = 10 ^ 1074 := by decide +kernel
    rw [hcoefficient, Nat.pow_zero, Nat.mul_one, Nat.mul_assoc, ten]
  rw [written] at place ⊢
  rw [toBinary64_eq, if_neg (not_or.mpr ⟨nonzero, by omega⟩), if_neg (by omega), ofRatio]
  dsimp only
  rw [show (-1074 : Int).toNat = 0 from rfl, show (-(-1074) : Int).toNat = 1074 from rfl, value,
    ofUnitRatio_units false units (Nat.pow_pos (by decide))]

/-- A number reads back from the decimal it is written as. -/
theorem toBinary64_shortest (units : Units) (pos : 0 < units.count) (negative : Bool) :
    (shortest units).toBinary64 negative = .finite negative units := by
  apply toBinary64_of_false
  unfold shortest
  dsimp only
  cases found : (List.range 17).findSome? fun p =>
      (neighbours units.count (p + 1)).find? fun d => d.toBinary64 false == .finite false units with
  | none => exact toBinary64_expansion units pos
  | some d =>
    obtain ⟨p, -, hit⟩ := List.exists_of_findSome?_eq_some found
    have reads := List.find?_some hit
    exact eq_of_beq reads

end Binary64

end SnippetDetect
