import SnippetDetect.Number.Binary64

/-!
Decimal text of a double-precision number.

A number is written with the fewest significant digits that read back as the same
number, and of those the nearest ones; when no seventeen digits would do, with all
of them. The digits are positional while the leading one stands between the fourth
place after the point and the sixteenth before it, and otherwise carry an exponent.
-/

namespace SnippetDetect

-- Powers of natural numbers as the core library has them, whatever else is imported.
attribute [local instance (high)] instPowNat

/-- The number `coefficient * 10 ^ exponent`. -/
structure Decimal where
  coefficient : Nat
  exponent : Int
  deriving DecidableEq, Repr

namespace Decimal

/-- The decimal digits of a natural number, leading one first. -/
def digits (n : Nat) : List Char := Nat.toDigits 10 n

/-- The double-precision number nearest to a decimal. Exponents far outside the format are
settled by the place of the leading digit alone. -/
def toBinary64 (negative : Bool) (d : Decimal) : Binary64 :=
  let lead : Int := d.exponent + (digits d.coefficient).length
  if d.coefficient = 0 ∨ lead < -400 then .finite negative .none
  else if 400 < lead then .infinity negative
  else match d.exponent with
    | .ofNat e => .ofRatio negative (d.coefficient * 10 ^ e) 1
    | .negSucc e => .ofRatio negative d.coefficient (10 ^ (e + 1))

end Decimal

namespace Binary64

/-- The place of the leading decimal digit of a positive count of units. -/
def leadingPlace (units : Nat) : Int :=
  if unitsPerOne ≤ units then ((Decimal.digits (units / unitsPerOne)).length : Int) - 1
  else
    let below := (Decimal.digits (unitsPerOne / units)).length
    if unitsPerOne ≤ units * 10 ^ (below - 1) then 1 - (below : Int) else -(below : Int)

/-- The decimals with so many significant digits on either side of the value, the nearer one
first. -/
def neighbours (units precision : Nat) : List Decimal :=
  let scale := leadingPlace units - precision + 1
  let (num, den) := match scale with
    | .ofNat s => (units, unitsPerOne * 10 ^ s)
    | .negSucc s => (units * 10 ^ (s + 1), unitsPerOne)
  let low := num / den
  let nearer := roundQuotient num den
  [⟨nearer, scale⟩, ⟨if nearer = low then low + 1 else low, scale⟩]

/-- All the decimal digits of a count of units. -/
def expansion (units : Nat) : Decimal := ⟨units * 5 ^ (1074 : Nat), -1074⟩

/-- The nearest of the shortest decimals that read back as the number of this many units. -/
def shortest (units : Units) : Decimal :=
  let short := (List.range 17).findSome? fun p =>
    (neighbours units.count (p + 1)).find? fun d => d.toBinary64 false == .finite false units
  short.getD (expansion units.count)

end Binary64

/-- A decimal with the point after its first `point` digits. -/
structure Placed where
  digits : List Char
  point : Int

namespace Decimal

/-- The digits without trailing zeros and the place of the point among them. -/
def placed (d : Decimal) : Placed :=
  let all := digits d.coefficient
  ⟨(all.reverse.dropWhile (· == '0')).reverse, d.exponent + all.length⟩

/-- Zeros in a row. -/
def zeros (n : Nat) : List Char := List.replicate n '0'

/-- Digits around a point, at least one on either side. -/
def positional (p : Placed) : List Char :=
  if p.point ≤ 0 then ['0', '.'] ++ zeros p.point.natAbs ++ p.digits
  else
    let whole := p.point.natAbs
    if p.digits.length ≤ whole then
      p.digits ++ zeros (whole - p.digits.length) ++ ['.', '0']
    else p.digits.take whole ++ '.' :: p.digits.drop whole

/-- One digit before the point and a signed exponent of at least two digits. -/
def scientific (p : Placed) : List Char :=
  let exponent := p.point - 1
  let size := digits exponent.natAbs
  let mantissa := match p.digits with
    | [] => ['0']
    | [c] => [c]
    | c :: rest => c :: '.' :: rest
  mantissa ++ ['e', if exponent < 0 then '-' else '+'] ++ zeros (2 - size.length) ++ size

def text (d : Decimal) : List Char :=
  let p := d.placed
  if -4 < p.point ∧ p.point ≤ 16 then positional p else scientific p

end Decimal

namespace Binary64

/-- How the numbers without digits are spelled. -/
structure Spelling where
  nan : String
  infinity : String

/-- The spelling of plain text. -/
def plain : Spelling := ⟨"nan", "inf"⟩

/-- The text of a number, with the sign of a negative zero kept. -/
def text (spelling : Spelling) : Binary64 → String
  | .nan => spelling.nan
  | .infinity negative => (if negative then "-" else "") ++ spelling.infinity
  | .finite negative units =>
      (if negative then "-" else "") ++
        (if units.count = 0 then "0.0" else String.ofList (shortest units).text)

end Binary64

end SnippetDetect
