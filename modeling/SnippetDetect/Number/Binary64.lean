/-!
Numbers with 53 significant bits.

A finite number is a sign and a count of units of `2 ^ -1074`, the smallest positive
number of the format, so exact values are natural numbers and comparison is
comparison of integers. A count that the format does not have is no number (`Units`).
Every operation is the exact result rounded once, to the nearest number and, between
two equally near ones, to the one with an even significand (`Binary64.ofRatio`).
-/

namespace SnippetDetect

-- Powers of natural numbers as the core library has them, whatever else is imported.
attribute [local instance (high)] instPowNat

namespace Binary64

/-- How many units make one. -/
@[irreducible] def unitsPerOne : Nat := 2 ^ (1074 : Nat)

/-- The first count of units too large for a finite number. -/
@[irreducible] def unitsLimit : Nat := 2 ^ (2098 : Nat)

/-- A count of units with at most 53 significant bits. -/
def FitsBits (count : Nat) : Prop := 2 ^ (count.log2 - 52) ∣ count

/-- A count of units that a number can have. -/
structure Units where
  count : Nat
  small : count < unitsLimit
  fits : FitsBits count
  deriving DecidableEq, Repr

end Binary64

/-- A double-precision number. Not-a-number is one value: nothing here tells two apart. -/
inductive Binary64 where
  | nan
  | infinity (negative : Bool)
  | finite (negative : Bool) (units : Binary64.Units)
  deriving DecidableEq, Repr, Inhabited

namespace Binary64

/-- The quotient rounded to the nearest natural number, a tie to the even one. -/
def roundQuotient (num den : Nat) : Nat :=
  let q := num / den
  let twice := 2 * (num % den)
  if twice < den then q
  else if den < twice then q + 1
  else if q % 2 = 0 then q else q + 1

/-- The quotient rounded to 53 significant bits: below `2 ^ 53` to a whole number, above
to a multiple of the power of two that leaves 53 bits. -/
def roundUnits (num den : Nat) : Nat :=
  let step := 2 ^ ((num / den).log2 - 52)
  roundQuotient num (den * step) * step

theorem roundQuotient_le (num den : Nat) : roundQuotient num den ≤ num / den + 1 := by
  unfold roundQuotient
  dsimp only
  split
  · omega
  · split
    · exact Nat.le_refl _
    · split <;> omega

/-- A number of at most 53 bits, shifted, fits. -/
theorem fitsBits_mul_two_pow {q : Nat} (bound : q ≤ 2 ^ (53 : Nat)) (k : Nat) : FitsBits (q * 2 ^ k) := by
  unfold FitsBits
  by_cases zero : q = 0
  · simp [zero]
  · rcases Nat.lt_or_eq_of_le bound with less | rfl
    · refine Nat.dvd_trans (Nat.pow_dvd_pow 2 ?_) (Nat.dvd_mul_left _ _)
      have size : (q * 2 ^ k).log2 < 53 + k := by
        rw [Nat.log2_lt (Nat.mul_ne_zero zero (Nat.ne_of_gt (Nat.two_pow_pos k))), Nat.pow_add]
        exact Nat.mul_lt_mul_of_pos_right less (Nat.two_pow_pos k)
      omega
    · rw [← Nat.pow_add, Nat.log2_two_pow]
      exact Nat.pow_dvd_pow 2 (by omega)

/-- What is rounded fits. -/
theorem fitsBits_roundUnits (num den : Nat) : FitsBits (roundUnits num den) := by
  refine fitsBits_mul_two_pow ?_ _
  have rounded := roundQuotient_le num (den * 2 ^ ((num / den).log2 - 52))
  rw [← Nat.div_div_eq_div_mul] at rounded
  have size : num / den < 2 ^ ((num / den).log2 + 1) := Nat.lt_log2_self
  have shifted : num / den / 2 ^ ((num / den).log2 - 52) < 2 ^ 53 := by
    rw [Nat.div_lt_iff_lt_mul (Nat.two_pow_pos _), ← Nat.pow_add]
    exact Nat.lt_of_lt_of_le size (Nat.pow_le_pow_right (by decide) (by omega))
  omega

/-- A rounded magnitude, past the largest finite number an infinity. -/
def ofUnits (negative : Bool) (count : Nat) (fits : FitsBits count) : Binary64 :=
  if small : count < unitsLimit then .finite negative ⟨count, small, fits⟩ else .infinity negative

/-- The number nearest to `± num / den` units. -/
@[irreducible] def ofUnitRatio (negative : Bool) (num den : Nat) : Binary64 :=
  ofUnits negative (roundUnits num den) (fitsBits_roundUnits num den)

/-- The number nearest to `± num / den`. -/
def ofRatio (negative : Bool) (num den : Nat) : Binary64 :=
  ofUnitRatio negative (num * unitsPerOne) den

/-- The exponents are bound, so that no proof comes to write the powers out. -/
theorem exists_exponents :
    ∃ one limit : Nat, unitsPerOne = 2 ^ one ∧ unitsLimit = 2 ^ limit ∧ 1024 + one = limit :=
  ⟨1074, 2098, by decide +kernel, by decide +kernel, rfl⟩

theorem unitsPerOne_pos : 0 < unitsPerOne := by
  obtain ⟨one, _, power, -⟩ := exists_exponents
  rw [power]
  exact Nat.two_pow_pos one

theorem unitsPerOne_lt_unitsLimit : unitsPerOne < unitsLimit := by
  obtain ⟨one, limit, power, powerLimit, top⟩ := exists_exponents
  rw [power, powerLimit]
  exact Nat.pow_lt_pow_right (by decide) (by omega)

/-- No units. -/
def Units.none : Units where
  count := 0
  small := Nat.lt_trans unitsPerOne_pos unitsPerOne_lt_unitsLimit
  fits := Nat.dvd_zero _

def zero : Binary64 := .finite false .none

def one : Binary64 :=
  .finite false ⟨unitsPerOne, unitsPerOne_lt_unitsLimit, by unfold FitsBits; decide +kernel⟩

/-- The number nearest to a natural number. -/
def ofNat (n : Nat) : Binary64 := ofRatio false n 1

/-- The number unless it is past the largest finite one. -/
def inRange? : Binary64 → Option Binary64
  | .infinity _ => none
  | .finite negative units => some (.finite negative units)
  | .nan => some .nan

/-- The number nearest to an integer, `none` when that is past the largest finite one. -/
def ofInt? (n : Int) : Option Binary64 := (ofRatio (n < 0) n.natAbs 1).inRange?

/-! ### Order -/

/-- A place on the number line, in units, with an end on either side. -/
inductive Place where
  | bottom
  | at (units : Int)
  | top
  deriving DecidableEq, Repr

/-- Strictly before. -/
def Place.before : Place → Place → Bool
  | .bottom, .bottom => false
  | .bottom, _ => true
  | .at m, .at n => m < n
  | .at _, .top => true
  | _, _ => false

/-- The signed count of units. -/
def signed (negative : Bool) (units : Nat) : Int :=
  if negative then -(units : Int) else units

/-- Where a number stands; not-a-number stands nowhere. -/
def place? : Binary64 → Option Place
  | .nan => none
  | .infinity negative => some (if negative then .bottom else .top)
  | .finite negative units => some (.at (signed negative units.count))

/-- A number below another; false as soon as either stands nowhere. -/
def lt (x y : Binary64) : Bool :=
  match x.place?, y.place? with
  | some p, some q => p.before q
  | _, _ => false

/-- A number not above another; false as soon as either stands nowhere. -/
def le (x y : Binary64) : Bool :=
  match x.place?, y.place? with
  | some p, some q => !q.before p
  | _, _ => false

/-- The second number when it is below the first, else the first. -/
def min (x y : Binary64) : Binary64 := if y.lt x then y else x

/-- The second number when it is above the first, else the first. -/
def max (x y : Binary64) : Binary64 := if x.lt y then y else x

/-! ### Arithmetic -/

def neg : Binary64 → Binary64
  | .nan => .nan
  | .infinity negative => .infinity !negative
  | .finite negative units => .finite (!negative) units

/-- The sum. An exact zero is negative only when both terms are. -/
def add : Binary64 → Binary64 → Binary64
  | .finite s m, .finite t n =>
      let total := signed s m.count + signed t n.count
      if total = 0 then .finite (s && t) .none else ofUnitRatio (total < 0) total.natAbs 1
  | .infinity s, .infinity t => if s = t then .infinity s else .nan
  | .infinity s, .finite _ _ => .infinity s
  | .finite _ _, .infinity t => .infinity t
  | _, _ => .nan

def sub (x y : Binary64) : Binary64 := x.add y.neg

def mul : Binary64 → Binary64 → Binary64
  | .finite s m, .finite t n => ofUnitRatio (s != t) (m.count * n.count) unitsPerOne
  | .infinity s, .infinity t => .infinity (s != t)
  | .infinity s, .finite t n => if n.count = 0 then .nan else .infinity (s != t)
  | .finite s m, .infinity t => if m.count = 0 then .nan else .infinity (s != t)
  | _, _ => .nan

/-- The quotient by a positive natural number. -/
def divNat (x : Binary64) (n : Nat) : Binary64 :=
  match x with
  | .finite s m => ofUnitRatio s m.count n
  | _ => x

/-! ### Whole numbers and decimal places -/

/-- The whole part toward zero, `none` for a number that is not finite. -/
def truncate? : Binary64 → Option Int
  | .finite negative units => some (signed negative (units.count / unitsPerOne))
  | _ => none

/-- The nearest number to the value rounded to so many decimal places, a tie to the even
last place. -/
def roundPlaces (places : Nat) : Binary64 → Binary64
  | .finite negative units =>
      ofRatio negative (roundQuotient (units.count * 10 ^ places) unitsPerOne) (10 ^ places)
  | x => x

end Binary64

end SnippetDetect
