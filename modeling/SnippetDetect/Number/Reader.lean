import SnippetDetect.Number
import SnippetDetect.Text.Blank
import SnippetDetect.Text.Digit
import SnippetDetect.Text.Quoted

/-!
Numbers written by hand, in an environment variable or on a command line.

Blank characters around the number do not count, digits may be of any script, and a
single underscore may stand between two digits. A double-precision number has a sign,
digits around an optional point and an optional exponent, or is one of the words for
infinity and not-a-number; an integer has a sign and at most 4300 digits.
-/

namespace SnippetDetect.Number

open SnippetDetect.Text

/-- The blank characters that may surround a number. -/
def isPadding (c : Char) : Bool :=
  if c.toNat < 0x80 then c = ' ' ∨ (0x09 ≤ c.toNat ∧ c.toNat ≤ 0x0D) else isBlank c

/-- The characters of a number without padding and with its digits in ASCII. -/
def normalize (s : String) : List Char :=
  let inner := ((s.toList.dropWhile isPadding).reverse.dropWhile isPadding).reverse
  inner.map fun c => match digit? c with
    | some d => Nat.digitChar d
    | none => c

/-- The text without underscores, when each stands between two digits. -/
def joinDigits : (previous : Option Char) → List Char → Option (List Char)
  | _, [] => some []
  | previous, '_' :: rest =>
      match previous, rest with
      | some p, next :: _ => if p.isDigit ∧ next.isDigit then joinDigits (some '_') rest else none
      | _, _ => none
  | _, c :: rest => (joinDigits (some c) rest).map (c :: ·)

/-- The sign before a number and what follows it. -/
def takeSign : List Char → Bool × List Char
  | '-' :: rest => (true, rest)
  | '+' :: rest => (false, rest)
  | cs => (false, cs)

/-- The value of a row of ASCII digits. -/
def ofDigits (ds : List Char) : Nat :=
  ds.foldl (fun n c => n * 10 + (c.toNat - 0x30)) 0

/-- An optional exponent, which takes all that is left. -/
def exponent? : List Char → Option Int
  | [] => some 0
  | e :: rest =>
      if e = 'e' ∨ e = 'E' then
        let (negative, ds) := takeSign rest
        if ds ≠ [] ∧ ds.all Char.isDigit then
          some (if negative then -(ofDigits ds : Int) else ofDigits ds)
        else none
      else none

/-- A decimal number without its sign. -/
def decimal? (cs : List Char) : Option Decimal :=
  let whole := cs.takeWhile Char.isDigit
  let rest := cs.dropWhile Char.isDigit
  let (fraction, rest) := match rest with
    | '.' :: tail => (tail.takeWhile Char.isDigit, tail.dropWhile Char.isDigit)
    | _ => ([], rest)
  if whole = [] ∧ fraction = [] then none
  else (exponent? rest).map fun e => ⟨ofDigits (whole ++ fraction), e - fraction.length⟩

/-- Read a double-precision number. -/
def readFloat? (s : String) : Option Binary64 := do
  let cs ← joinDigits none (normalize s)
  let (negative, magnitude) := takeSign cs
  match String.ofList (magnitude.map Char.toLower) with
  | "nan" => some .nan
  | "inf" | "infinity" => some (.infinity negative)
  | _ => (decimal? magnitude).map (·.toBinary64 negative)

/-- Why a text is no integer. -/
inductive IntFault where
  | malformed (text : String)
  | tooManyDigits (count : Nat)
  deriving DecidableEq, Repr

/-- The most digits an integer may be written with. -/
def maxDigits : Nat := 4300

def IntFault.message : IntFault → String
  | .malformed text =>
      "invalid literal for int() with base 10: " ++
        String.ofList ((quoted text).toList.take 200)
  | .tooManyDigits count =>
      "Exceeds the limit (" ++ toString maxDigits ++
        " digits) for integer string conversion: value has " ++ toString count ++
        " digits; use sys.set_int_max_str_digits() to increase the limit"

/-- Read an integer. The digits are counted before what follows them is looked at. -/
def readInt (s : String) : Except IntFault Int :=
  let (negative, cs) := takeSign (normalize s)
  let row := cs.takeWhile fun c => c.isDigit || c == '_'
  match joinDigits none row with
  | none | some [] => .error (.malformed s)
  | some ds =>
      if maxDigits < ds.length then .error (.tooManyDigits ds.length)
      else if row.length < cs.length then .error (.malformed s)
      else .ok (if negative then -(ofDigits ds : Int) else ofDigits ds)

end SnippetDetect.Number
