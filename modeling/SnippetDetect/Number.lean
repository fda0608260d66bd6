import SnippetDetect.Number.Decimal

/-!
Numbers as payloads carry them: an integer of any size or a double-precision number.

Comparison is exact across the two kinds. A clamp yields one of its bounds only when
the value is not strictly inside, so a value between the bounds keeps its kind, and
not-a-number becomes the upper bound.
-/

namespace SnippetDetect

/-- An integer or a double-precision number; the two are never confused. -/
inductive Number where
  | int (n : Int)
  | float (x : Binary64)
  deriving DecidableEq, Repr, Inhabited

/-- A result that no double-precision number can hold. -/
inductive Overflow where
  | intToFloat
  | quotient
  | infinityToInt
  deriving DecidableEq, Repr

def Overflow.message : Overflow → String
  | .intToFloat => "int too large to convert to float"
  | .quotient => "integer division result too large for a float"
  | .infinityToInt => "cannot convert float infinity to integer"

namespace Number

instance (n : Nat) : OfNat Number n := ⟨.int n⟩

/-- Where a number stands, if anywhere. -/
def place? : Number → Option Binary64.Place
  | .int n => some (.at (n * Binary64.unitsPerOne))
  | .float x => x.place?

/-- Strictly less; false as soon as either is not a number. -/
def lt (a b : Number) : Bool :=
  match a.place?, b.place? with
  | some p, some q => p.before q
  | _, _ => false

/-- At most; false as soon as either is not a number. -/
def le (a b : Number) : Bool :=
  match a.place?, b.place? with
  | some p, some q => !q.before p
  | _, _ => false

/-- Equal in value. -/
def same (a b : Number) : Bool :=
  match a.place?, b.place? with
  | some p, some q => p == q
  | _, _ => false

/-- Whether the number is in `lo … hi`, the ends included. -/
def within (a lo hi : Number) : Bool := lo.le a && a.le hi

/-- The number itself when strictly between the bounds, else a bound. -/
def clamp (a lo hi : Number) : Number :=
  let capped := if a.lt hi then a else hi
  if lo.lt capped then capped else lo

/-- The number there is, else the fault. -/
def orFault (fault : Overflow) : Option Binary64 → Except Overflow Binary64
  | some x => .ok x
  | none => .error fault

def toBinary64 : Number → Except Overflow Binary64
  | .int n => orFault .intToFloat (Binary64.ofInt? n)
  | .float x => .ok x

/-- A hundredth of the number. -/
def hundredth : Number → Except Overflow Binary64
  | .int n => orFault .quotient (Binary64.ofRatio (n < 0) n.natAbs 100).inRange?
  | .float x => .ok (x.divNat 100)

/-- The sum. Two integers have an integer sum. -/
def add : Number → Number → Except Overflow Number
  | .int m, .int n => .ok (.int (m + n))
  | a, b => do return .float ((← a.toBinary64).add (← b.toBinary64))

/-- The number rounded to so many decimal places; an integer has none. -/
def roundPlaces (places : Nat) : Number → Number
  | .int n => .int n
  | .float x => .float (x.roundPlaces places)

/-- The number in decimal digits. -/
def text (spelling : Binary64.Spelling) : Number → String
  | .int n => toString n
  | .float x => x.text spelling

end Number

end SnippetDetect
