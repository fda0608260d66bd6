import SnippetDetect.Json.Basic
import SnippetDetect.Number.Reader

/-!
Reading JSON text.

Beyond the standard, the words `NaN`, `Infinity` and `-Infinity` are numbers. A text is
refused at the first character that cannot be part of it, and the fault says which part
was expected there. Two limits hold: how deep containers nest, which is up to the caller, and
how many digits an integer has. Half of a character in an escape of its own is read as U+FFFD, for a text
cannot hold it.

A reader takes the characters ahead and answers with those behind the part it read, so
the place of a fault is known from how many characters are left.
-/

namespace SnippetDetect.Json

/-- What is wrong at a place in a text. -/
inductive Problem where
  | valueExpected
  | nameExpected
  | colonExpected
  | commaExpected
  | openString
  | controlCharacter
  | unknownEscape
  | badCodeUnit
  | trailingText
  | byteOrderMark
  deriving DecidableEq, Repr

def Problem.message : Problem → String
  | .valueExpected => "Expecting value"
  | .nameExpected => "Expecting property name enclosed in double quotes"
  | .colonExpected => "Expecting ':' delimiter"
  | .commaExpected => "Expecting ',' delimiter"
  | .openString => "Unterminated string starting at"
  | .controlCharacter => "Invalid control character at"
  | .unknownEscape => "Invalid \\escape"
  | .badCodeUnit => "Invalid \\uXXXX escape"
  | .trailingText => "Extra data"
  | .byteOrderMark => "Unexpected UTF-8 BOM (decode using utf-8-sig)"

/-- A place in a text: line and column count from one, the offset from zero. -/
structure Position where
  line : Nat
  column : Nat
  offset : Nat
  deriving DecidableEq, Repr

/-- The place behind the given characters. -/
def Position.after (before : List Char) : Position :=
  let lastLine := before.reverse.takeWhile (· ≠ '\n')
  ⟨before.count '\n' + 1, lastLine.length + 1, before.length⟩

def Position.message (p : Position) : String :=
  "line " ++ toString p.line ++ " column " ++ toString p.column ++
    " (char " ++ toString p.offset ++ ")"

/-- Why a text is refused. -/
inductive Fault where
  | malformed (problem : Problem) (place : Position)
  | tooManyDigits (count : Nat)
  | tooDeep
  deriving DecidableEq, Repr

def Fault.message : Fault → String
  | .malformed problem place => problem.message ++ ": " ++ place.message
  | .tooManyDigits count => (Number.IntFault.tooManyDigits count).message
  | .tooDeep => "maximum recursion depth exceeded while decoding JSON text"

/-- Why reading ends, the place still given by the number of characters left. -/
inductive Stop where
  | malformed (problem : Problem) (left : Nat)
  | tooManyDigits (count : Nat)
  | tooDeep

/-- A fault at the head of the given characters. -/
def faultAt {α : Type} (problem : Problem) (ahead : List Char) : Except Stop (α × List Char) :=
  .error (.malformed problem ahead.length)

def isSpace (c : Char) : Bool := c = ' ' ∨ c = '\t' ∨ c = '\n' ∨ c = '\r'

def skipSpaces (cs : List Char) : List Char := cs.dropWhile isSpace

/-! ### Strings -/

def hexDigit? (c : Char) : Option Nat :=
  let n := c.toNat
  if 0x30 ≤ n ∧ n ≤ 0x39 then some (n - 0x30)
  else if 0x41 ≤ n ∧ n ≤ 0x46 then some (n - 0x37)
  else if 0x61 ≤ n ∧ n ≤ 0x66 then some (n - 0x57)
  else none

/-- A code unit of four hexadecimal digits that more text follows. -/
def codeUnit? : List Char → Option (Nat × List Char)
  | a :: b :: c :: d :: e :: rest => do
      let digits ← [a, b, c, d].mapM hexDigit?
      some (digits.foldl (fun n d => n * 16 + d) 0, e :: rest)
  | _ => none

def isHighSurrogate (n : Nat) : Bool := 0xD800 ≤ n ∧ n ≤ 0xDBFF

def isLowSurrogate (n : Nat) : Bool := 0xDC00 ≤ n ∧ n ≤ 0xDFFF

/-- The character of a code unit; half of a pair stands for none. -/
def unitChar (n : Nat) : Char :=
  if isHighSurrogate n || isLowSurrogate n then Char.ofNat 0xFFFD else Char.ofNat n

/-- The character an escape begins, which may take a second escape, and the text behind it. The
characters ahead begin with the `u` of the escape. -/
def readCodeUnits (ahead : List Char) : Except Stop (Char × List Char) :=
  match codeUnit? (ahead.drop 1) with
  | none => faultAt .badCodeUnit ahead
  | some (first, rest) =>
      match rest with
      | '\\' :: 'u' :: more =>
          if isHighSurrogate first ∧ 5 ≤ more.length then
            match codeUnit? more with
            | none => faultAt .badCodeUnit ('u' :: more)
            | some (second, behind) =>
                if isLowSurrogate second then
                  .ok (Char.ofNat (0x10000 + (first - 0xD800) * 0x400 + (second - 0xDC00)), behind)
                else .ok (unitChar first, rest)
          else .ok (unitChar first, rest)
      | _ => .ok (unitChar first, rest)

/-- The character after a backslash stands for another one. -/
def shortEscape? : Char → Option Char
  | '"' => some '"'
  | '\\' => some '\\'
  | '/' => some '/'
  | 'b' => some '\x08'
  | 'f' => some '\x0c'
  | 'n' => some '\n'
  | 'r' => some '\r'
  | 't' => some '\t'
  | _ => none

/-- The rest of a string; `opening` characters were left at its opening quote. -/
def readStringFrom (opening : Nat) : (fuel : Nat) → (read : List Char) → List Char → Except Stop (String × List Char)
  | 0, _, _ => .error (.malformed .openString opening)
  | _ + 1, _, [] => .error (.malformed .openString opening)
  | fuel + 1, read, c :: rest =>
      if c = '"' then .ok (String.ofList read.reverse, rest)
      else if c = '\\' then
        match rest with
        | [] => .error (.malformed .openString opening)
        | 'u' :: _ => do
            let (decoded, behind) ← readCodeUnits rest
            readStringFrom opening fuel (decoded :: read) behind
        | e :: behind =>
            match shortEscape? e with
            | some decoded => readStringFrom opening fuel (decoded :: read) behind
            | none => faultAt .unknownEscape (c :: rest)
      else if c.toNat < 0x20 then faultAt .controlCharacter (c :: rest)
      else readStringFrom opening fuel (c :: read) rest

/-- A string whose opening quote stands just before the characters. -/
def readString (cs : List Char) : Except Stop (String × List Char) :=
  readStringFrom (cs.length + 1) (cs.length + 1) [] cs

/-! ### Numbers -/

/-- The digits before a point: a zero alone, or a row that starts with another digit. -/
def takeWhole : List Char → Option (List Char × List Char)
  | [] => none
  | '0' :: rest => some (['0'], rest)
  | c :: rest =>
      if c.isDigit then some (c :: rest.takeWhile Char.isDigit, rest.dropWhile Char.isDigit)
      else none

/-- A point and the digits after it, if there are any. -/
def takeFraction : List Char → List Char × List Char
  | '.' :: c :: rest =>
      if c.isDigit then (c :: rest.takeWhile Char.isDigit, rest.dropWhile Char.isDigit)
      else ([], '.' :: c :: rest)
  | cs => ([], cs)

/-- An exponent, if there is a whole one. -/
def takeExponent (cs : List Char) : Option (Int × List Char) :=
  match cs with
  | e :: rest =>
      if e = 'e' ∨ e = 'E' then
        let (negative, ahead) := Number.takeSign rest
        let ds := ahead.takeWhile Char.isDigit
        if ds = [] then none
        else
          let size : Int := Number.ofDigits ds
          some (if negative then -size else size, ahead.dropWhile Char.isDigit)
      else none
  | [] => none

/-- The number with the given digits before the point; what follows them is still ahead. -/
def readBehind (negative : Bool) (whole ahead : List Char) : Except Stop (Json × List Char) :=
  let (fraction, rest) := takeFraction ahead
  match fraction, takeExponent rest with
  | [], none =>
      if Number.maxDigits < whole.length then .error (.tooManyDigits whole.length)
      else
        let size : Int := Number.ofDigits whole
        .ok (.num (.int (if negative then -size else size)), rest)
  | _, exponent =>
      let (shift, rest) := exponent.getD (0, rest)
      let d : Decimal := ⟨Number.ofDigits (whole ++ fraction), shift - fraction.length⟩
      .ok (.num (.float (d.toBinary64 negative)), rest)

/-- A number that starts with a digit or a minus sign. -/
def readNumber (cs : List Char) : Except Stop (Json × List Char) :=
  let (negative, ahead) := match cs with
    | '-' :: rest => (true, rest)
    | _ => (false, cs)
  match takeWhole ahead with
  | none => faultAt .valueExpected cs
  | some (whole, rest) => readBehind negative whole rest

/-! ### Values -/

/-- The words that are values. -/
def words : List (List Char × Json) :=
  [("null".toList, .null), ("true".toList, .bool true), ("false".toList, .bool false),
    ("NaN".toList, .num (.float .nan)), ("Infinity".toList, .num (.float (.infinity false))),
    ("-Infinity".toList, .num (.float (.infinity true)))]

/-- A value that is no string and no container. -/
def readPlain (cs : List Char) : Except Stop (Json × List Char) :=
  match words.find? fun (word, _) => word.isPrefixOf cs with
  | some (word, value) => .ok (value, cs.drop word.length)
  | none => readNumber cs

/-- The items of a list from the first one on, up to the closing bracket. -/
def readItems (value : List Char → Except Stop (Json × List Char)) :
    (fuel : Nat) → (read : List Json) → List Char → Except Stop (Json × List Char)
  | 0, _, cs => faultAt .valueExpected cs
  | fuel + 1, read, cs => do
      let (item, rest) ← value cs
      match skipSpaces rest with
      | ']' :: behind => .ok (.arr (item :: read).reverse, behind)
      | ',' :: behind => readItems value fuel (item :: read) (skipSpaces behind)
      | ahead => faultAt .commaExpected ahead

/-- The members of an object from the first one on, up to the closing brace. -/
def readMembers (value : List Char → Except Stop (Json × List Char)) :
    (fuel : Nat) → (read : Members) → List Char → Except Stop (Json × List Char)
  | 0, _, cs => faultAt .valueExpected cs
  | fuel + 1, read, cs =>
      match cs with
      | '"' :: rest => do
          let (name, rest) ← readString rest
          match skipSpaces rest with
          | ':' :: rest =>
              let (item, rest) ← value (skipSpaces rest)
              let read := setEntry name item read
              match skipSpaces rest with
              | '\x7d' :: behind => .ok (.obj read, behind)
              | ',' :: behind => readMembers value fuel read (skipSpaces behind)
              | ahead => faultAt .commaExpected ahead
          | ahead => faultAt .colonExpected ahead
      | ahead => faultAt .nameExpected ahead

/-- A value in which containers nest at most `depth` deep. -/
def readValue : (depth : Nat) → List Char → Except Stop (Json × List Char)
  | depth, cs =>
      match cs with
      | '"' :: rest => do
          let (s, behind) ← readString rest
          .ok (.str s, behind)
      | '[' :: rest =>
          match depth with
          | 0 => .error .tooDeep
          | depth + 1 =>
              match skipSpaces rest with
              | ']' :: behind => .ok (.arr [], behind)
              | ahead => readItems (readValue depth) (ahead.length + 1) [] ahead
      | '\x7b' :: rest =>
          match depth with
          | 0 => .error .tooDeep
          | depth + 1 =>
              match skipSpaces rest with
              | '\x7d' :: behind => .ok (.obj [], behind)
              | ahead => readMembers (readValue depth) (ahead.length + 1) [] ahead
      | _ => readPlain cs

/-- The fault with its place in the text. -/
def Stop.fault (text : List Char) : Stop → Fault
  | .malformed problem left => .malformed problem (.after (text.take (text.length - left)))
  | .tooManyDigits count => .tooManyDigits count
  | .tooDeep => .tooDeep

/-- One value with nothing but space around it. -/
def readText (depth : Nat) (cs : List Char) : Except Stop Json :=
  match cs with
  | '\ufeff' :: _ => .error (.malformed .byteOrderMark cs.length)
  | _ => do
      let (value, rest) ← readValue depth (skipSpaces cs)
      match skipSpaces rest with
      | [] => .ok value
      | ahead => .error (.malformed .trailingText ahead.length)

/-- Read a JSON text in which containers nest at most `depth` deep. -/
def parse (depth : Nat) (s : String) : Except Fault Json :=
  (readText depth s.toList).mapError (·.fault s.toList)

end SnippetDetect.Json
