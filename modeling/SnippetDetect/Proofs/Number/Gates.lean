import SnippetDetect.Engine.Basic
import SnippetDetect.Proofs.Number.Rounding

/-!
Thresholds from 0 to 100 and gates from 0 to 1.

Both are clamped, and a second clamp changes nothing (`clampThreshold_idempotent`,
`isGate_of_gateOf`). So a value that was stored can be set again. A clamped threshold is small
enough for the double-precision format, so it always stands for a gate
(`gateOfThreshold_clampThreshold`).
-/

namespace SnippetDetect

/-! ### Comparison -/

theorem Binary64.Place.before_asymm {p q : Binary64.Place} (before : p.before q = true) :
    q.before p = false := by
  cases p with
  | bottom => cases q <;> rfl
  | «at» m =>
    cases q with
    | bottom => cases before
    | «at» n =>
      have less : m < n := of_decide_eq_true before
      exact decide_eq_false (Int.not_lt.mpr (Int.le_of_lt less))
    | top => rfl
  | top => cases before

namespace Number

/-- Integers are compared as such. -/
theorem int_lt_int {m n : Int} : (Number.int m).lt (.int n) = true ↔ m < n := by
  have pos : (0 : Int) < (Binary64.unitsPerOne : Int) := by
    exact_mod_cast Binary64.unitsPerOne_pos
  simp only [lt, place?, Binary64.Place.before, decide_eq_true_eq]
  exact Int.mul_lt_mul_right pos

/-- What is less is not more. -/
theorem le_of_lt {a b : Number} (less : a.lt b = true) : a.le b = true := by
  unfold lt at less
  unfold le
  split at less
  · next p q _ _ =>
    rw [Binary64.Place.before_asymm less]
    rfl
  · cases less

/-- Not-a-number is in no range. -/
theorem ne_nan_of_within {a lo hi : Number} (inside : a.within lo hi = true) : a ≠ .float .nan := by
  rintro rfl
  have nowhere : lo.le (.float .nan) = false := by
    unfold le
    cases lo.place? <;> rfl
  rw [within, nowhere] at inside
  cases inside

end Number

namespace Binary64

theorem zero_lt_one : zero.lt one = true := by decide +kernel

end Binary64

/-! ### Thresholds -/

namespace Engine

theorem clampThreshold_eq (v : Number) :
    clampThreshold v =
      if (Number.int 0).lt (if v.lt (.int 100) then v else .int 100)
      then if v.lt (.int 100) then v else .int 100 else .int 0 := rfl

theorem clampThreshold_cases (v : Number) :
    clampThreshold v = .int 0 ∨ clampThreshold v = .int 100 ∨
      clampThreshold v = v ∧ (Number.int 0).lt v = true ∧ v.lt (.int 100) = true := by
  have hundred : (Number.int 0).lt (.int 100) = true := Number.int_lt_int.mpr (by decide)
  rw [clampThreshold_eq]
  by_cases below : v.lt (.int 100)
  · by_cases above : (Number.int 0).lt v <;> simp [below, above]
  · simp [below, hundred]

/-- A clamped threshold is kept by a clamp. -/
@[simp] theorem clampThreshold_idempotent (v : Number) :
    clampThreshold (clampThreshold v) = clampThreshold v := by
  have hundred : (Number.int 0).lt (.int 100) = true := Number.int_lt_int.mpr (by decide)
  rcases clampThreshold_cases v with low | high | ⟨same, -, -⟩
  · rw [low, clampThreshold_eq, if_pos hundred]
    split <;> rfl
  · rw [high, clampThreshold_eq, ite_self, if_pos hundred]
  · rw [same, same]

theorem within_clampThreshold (v : Number) : (clampThreshold v).within 0 100 = true := by
  rcases clampThreshold_cases v with low | high | ⟨same, low, high⟩
  · rw [low]
    decide +kernel
  · rw [high]
    decide +kernel
  · rw [same, Number.within, Bool.and_eq_true]
    exact ⟨Number.le_of_lt low, Number.le_of_lt high⟩

end Engine

/-! ### Gates -/

/-- A gate that clamping leaves alone. -/
def IsGate (gate : Binary64) : Prop := gateOf (.float gate) = .ok gate

theorem isGate_one : IsGate Binary64.one := by
  unfold IsGate
  decide +kernel

theorem gateOf_float (x : Binary64) :
    gateOf (.float x) = .ok (Binary64.max Binary64.zero (Binary64.min Binary64.one x)) := rfl

/-- A gate is from 0 to 1. -/
theorem within_of_isGate {gate : Binary64} (isGate : IsGate gate) :
    (Number.float gate).within 0 1 = true := by
  have zero : (0 : Number).place? = (Number.float Binary64.zero).place? := by decide +kernel
  have one : (1 : Number).place? = (Number.float Binary64.one).place? := by decide +kernel
  have ends : (Number.float Binary64.zero).within 0 1 = true ∧
      (Number.float Binary64.one).within 0 1 = true := by decide +kernel
  unfold IsGate at isGate
  rw [gateOf_float, Except.ok.injEq] at isGate
  by_cases below : gate.lt Binary64.one
  · by_cases above : Binary64.zero.lt gate
    · rw [Number.within, Bool.and_eq_true]
      constructor
      · apply Number.le_of_lt
        rw [Number.lt, zero]
        exact above
      · apply Number.le_of_lt
        rw [Number.lt, one]
        exact below
    · rw [Binary64.min, if_pos below, Binary64.max, if_neg above] at isGate
      exact isGate ▸ ends.1
  · rw [Binary64.min, if_neg below, Binary64.max, if_pos Binary64.zero_lt_one] at isGate
    exact isGate ▸ ends.2

/-- Whatever number a gate was made of, it is kept by a clamp. -/
theorem isGate_of_gateOf {value : Number} {gate : Binary64} (made : gateOf value = .ok gate) :
    IsGate gate := by
  have clamped (x : Binary64) :
      IsGate (Binary64.max Binary64.zero (Binary64.min Binary64.one x)) := by
    unfold IsGate
    rw [gateOf_float]
    congr 1
    by_cases below : x.lt Binary64.one
    · by_cases above : Binary64.zero.lt x <;>
        simp [Binary64.min, Binary64.max, below, above, Binary64.zero_lt_one]
    · simp [Binary64.min, Binary64.max, below, Binary64.zero_lt_one]
  unfold gateOf at made
  cases read : value.toBinary64 with
  | error fault => simp [read, Except.map] at made
  | ok x =>
    simp only [read, Except.map, Except.ok.injEq] at made
    rw [← made]
    exact clamped x

theorem isGate_of_toOption {value : Number} {gate : Binary64}
    (made : (gateOf value).toOption = some gate) : IsGate gate := by
  cases read : gateOf value with
  | error fault => simp [read, Except.toOption] at made
  | ok other =>
    obtain rfl : other = gate := by simpa [read, Except.toOption] using made
    exact isGate_of_gateOf read

/-- A part of a whole is a finite number. -/
theorem Binary64.ofRatio_eq_finite (negative : Bool) {num den : Nat} (le : num ≤ den) :
    ∃ units, Binary64.ofRatio negative num den = .finite negative units := by
  have room : 2 * Binary64.unitsPerOne + 1 < Binary64.unitsLimit := by decide +kernel
  have whole : num * Binary64.unitsPerOne / den ≤ Binary64.unitsPerOne :=
    Nat.div_le_of_le_mul (Nat.mul_le_mul_right _ le)
  have rounded : Binary64.roundUnits (num * Binary64.unitsPerOne) den < Binary64.unitsLimit :=
    calc Binary64.roundUnits (num * Binary64.unitsPerOne) den
        ≤ 2 * (num * Binary64.unitsPerOne / den) + 1 := Binary64.roundUnits_le _ _
      _ ≤ 2 * Binary64.unitsPerOne + 1 := Nat.succ_le_succ (Nat.mul_le_mul_left 2 whole)
      _ < Binary64.unitsLimit := room
  rw [Binary64.ofRatio, Binary64.ofUnitRatio, Binary64.ofUnits, dif_pos rounded]
  exact ⟨_, rfl⟩

/-- A hundredth of an integer up to a hundred is a finite number. -/
theorem Number.hundredth_int (n : Int) (size : n.natAbs ≤ 100) :
    (Number.int n).hundredth = .ok (Binary64.ofRatio (n < 0) n.natAbs 100) := by
  have kept : (Binary64.ofRatio (n < 0) n.natAbs 100).inRange? =
      some (Binary64.ofRatio (n < 0) n.natAbs 100) := by
    obtain ⟨units, finite⟩ := Binary64.ofRatio_eq_finite (n < 0) size
    rw [finite, Binary64.inRange?]
  rw [hundredth, kept, orFault]

/-- A clamped threshold stands for a gate. -/
theorem gateOfThreshold_clampThreshold (v : Number) :
    ∃ gate, gateOfThreshold (Engine.clampThreshold v) = .ok gate := by
  have part {n : Int} (low : 0 ≤ n) (high : n ≤ 100) :
      ∃ gate, gateOfThreshold (.int n) = .ok gate := by
    have size : n.natAbs ≤ 100 := by omega
    rw [gateOfThreshold, Number.hundredth_int _ size]
    exact ⟨_, gateOf_float _⟩
  rcases Engine.clampThreshold_cases v with low | high | ⟨same, low, high⟩
  · rw [low]
    exact part (by decide) (by decide)
  · rw [high]
    exact part (by decide) (by decide)
  · rw [same]
    cases v with
    | int n =>
      rw [Number.int_lt_int] at low high
      exact part (Int.le_of_lt low) (Int.le_of_lt high)
    | float x => exact ⟨_, rfl⟩

/-! ### Hundredths -/

theorem Binary64.min_one {units : Binary64.Units} (le : units.count ≤ Binary64.unitsPerOne) :
    Binary64.min Binary64.one (.finite false units) = .finite false units := by
  obtain ⟨count, small, fits⟩ := units
  rcases Nat.lt_or_eq_of_le le with less | rfl
  · have below : (count : Int) < Binary64.unitsPerOne := by exact_mod_cast less
    simp [Binary64.min, Binary64.lt, Binary64.place?, Binary64.one, Binary64.Place.before,
      Binary64.signed, below]
  · exact ite_self _

theorem Binary64.max_zero (units : Binary64.Units) :
    Binary64.max Binary64.zero (.finite false units) = .finite false units := by
  obtain ⟨count, small, fits⟩ := units
  rcases Nat.eq_zero_or_pos count with rfl | pos
  · exact ite_self _
  · have above : (0 : Int) < count := by exact_mod_cast pos
    have lt : Binary64.zero.lt (.finite false ⟨count, small, fits⟩) = true := by
      simpa [Binary64.lt, Binary64.place?, Binary64.zero, Binary64.Units.none,
        Binary64.Place.before, Binary64.signed] using above
    rw [Binary64.max, if_pos lt]

/-- A part of one is kept by a clamp to 0 … 1. -/
theorem gateOf_ofUnitRatio {num den : Nat} (pos : 0 < den)
    (le : num ≤ Binary64.unitsPerOne * den) :
    gateOf (.float (Binary64.ofUnitRatio false num den)) =
      .ok (Binary64.ofUnitRatio false num den) := by
  have bound : Binary64.roundUnits num den ≤ Binary64.unitsPerOne := by
    obtain ⟨k, _, power, -⟩ := Binary64.exists_exponents
    rw [power] at le ⊢
    exact Binary64.roundUnits_le_two_pow pos le
  have small := Nat.lt_of_le_of_lt bound Binary64.unitsPerOne_lt_unitsLimit
  rw [gateOf_float, Binary64.ofUnitRatio, Binary64.ofUnits, dif_pos small,
    Binary64.min_one bound, Binary64.max_zero]

/-- A number strictly between two integers is finite. -/
theorem Number.finite_of_between {x : Binary64} {m n : Int}
    (low : (Number.int m).lt (.float x) = true) (high : (Number.float x).lt (.int n) = true) :
    ∃ negative units, x = .finite negative units ∧
      m * Binary64.unitsPerOne < Binary64.signed negative units.count ∧
      Binary64.signed negative units.count < n * Binary64.unitsPerOne := by
  cases x with
  | nan => cases low
  | infinity negative => cases negative <;> [cases high; cases low]
  | finite negative units =>
    exact ⟨negative, units, rfl, of_decide_eq_true low, of_decide_eq_true high⟩

/-- The gate of a clamped threshold is its hundredth. -/
theorem hundredth_clampThreshold {v : Number} {gate : Binary64}
    (made : gateOfThreshold (Engine.clampThreshold v) = .ok gate) :
    (Engine.clampThreshold v).hundredth = .ok gate := by
  have whole {n : Int} (low : 0 ≤ n) (high : n ≤ 100) :
      ∃ x, (Number.int n).hundredth = .ok x ∧ gateOf (.float x) = .ok x := by
    have size : n.natAbs ≤ 100 := by omega
    have positive : decide (n < 0) = false := by simpa using low
    refine ⟨_, Number.hundredth_int n size, ?_⟩
    rw [positive, Binary64.ofRatio]
    apply gateOf_ofUnitRatio (by decide)
    rw [Nat.mul_comm]
    exact Nat.mul_le_mul_left _ size
  have kept : ∃ x, (Engine.clampThreshold v).hundredth = .ok x ∧ gateOf (.float x) = .ok x := by
    rcases Engine.clampThreshold_cases v with low | high | ⟨same, low, high⟩
    · rw [low]
      exact whole (by decide) (by decide)
    · rw [high]
      exact whole (by decide) (by decide)
    · rw [same]
      cases v with
      | int n =>
        rw [Number.int_lt_int] at low high
        exact whole (Int.le_of_lt low) (Int.le_of_lt high)
      | float x =>
        obtain ⟨negative, units, rfl, above, below⟩ := Number.finite_of_between low high
        cases negative with
        | true =>
          rw [Int.zero_mul, Binary64.signed, if_pos rfl] at above
          omega
        | false =>
          refine ⟨_, rfl, gateOf_ofUnitRatio (by decide) ?_⟩
          rw [Binary64.signed, if_neg Bool.false_ne_true] at below
          omega
  obtain ⟨x, hundredth, kept⟩ := kept
  rw [gateOfThreshold, hundredth] at made
  have same : gateOf (.float x) = .ok gate := made
  rw [hundredth, ← kept, same]

theorem isGate_of_gateOfThreshold {value : Number} {gate : Binary64}
    (made : gateOfThreshold value = .ok gate) : IsGate gate := by
  unfold gateOfThreshold at made
  cases read : value.hundredth with
  | error fault => simp [read, bind, Except.bind] at made
  | ok x => exact isGate_of_gateOf (by simpa [read, bind, Except.bind] using made)

end SnippetDetect
