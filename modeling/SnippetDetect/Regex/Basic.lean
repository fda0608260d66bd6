import SnippetDetect.Regex.Letter
import SnippetDetect.Text.Point

/-!
Regular expressions.

An expression is a tree of nodes with every option already settled: a test of one code
point knows which letters it tells apart, an anchor knows what a line is. What a node
matches is said in `SnippetDetect.Regex.Matcher`.
-/

namespace SnippetDetect.Regex

open SnippetDetect.Text

/-- A class of characters that has a name. -/
inductive Category where
  | digit
  | space
  | word
  deriving DecidableEq, Repr

/-- Whether a character is in the class, of which ASCII may be all. -/
def Category.holds (asciiOnly : Bool) (c : Char) : Category → Bool
  | .digit => if asciiOnly then c.isDigit else isDigit c
  | .space =>
      if asciiOnly then c = ' ' ∨ (0x09 ≤ c.toNat ∧ c.toNat ≤ 0x0D) else isBlank c
  | .word => if asciiOnly then isAsciiWord c else isWord c

/-- Whether a code point is in the class; a lone half is in none. -/
def Category.contains (asciiOnly : Bool) (p : Point) (kind : Category) : Bool :=
  p.char?.any fun c => kind.holds asciiOnly c

/-- A part of a character set. -/
inductive SetItem where
  | one (code : Nat)
  | range (first last : Nat)
  | category (kind : Category) (inverted asciiOnly : Bool)
  deriving DecidableEq, Repr

/-- The last code point of the plane that holds the common scripts. -/
def lastBasic : Nat := 0xFFFF

/-- Whether a part of a set admits a code point, given the `forms` of its letter. Beyond the basic
plane a lone character admits its own lower case alone, and a range looks at the lower and the
upper case. -/
def SetItem.admits (folding : Folding) (forms : List Nat) (p : Point) : SetItem → Bool
  | .one code =>
      if folding = .exact then p.toNat = code
      else if code ≤ lastBasic then forms.contains code
      else folding.lower p.toNat = code
  | .range first last =>
      let within := fun n => first ≤ n && n ≤ last
      if folding = .exact then within p.toNat
      else
        let low := folding.lower p.toNat
        forms.any (fun n => n ≤ lastBasic && within n) ||
          (lastBasic < last && (within low || within (upperCode low)))
  | .category kind inverted asciiOnly => kind.contains asciiOnly p != inverted

/-- A test of one code point. -/
inductive CharTest where
  | any
  | notNewline
  | letter (folding : Folding) (inverted : Bool) (code : Nat)
  | set (folding : Folding) (inverted : Bool) (items : List SetItem)
  deriving DecidableEq, Repr

def CharTest.accepts (p : Point) : CharTest → Bool
  | .any => true
  | .notNewline => p ≠ .char '\n'
  | .letter folding inverted code => (folding.key p.toNat == folding.key code) != inverted
  | .set folding inverted items =>
      let forms := folding.forms p.toNat
      items.any (·.admits folding forms p) != inverted

/-- A place in a text. -/
inductive Anchor where
  | textStart
  | textEnd
  /-- The end of the text or just before a newline that ends it. -/
  | finalLineEnd
  | lineStart
  | lineEnd
  | boundary (asciiOnly : Bool)
  | noBoundary (asciiOnly : Bool)
  deriving DecidableEq, Repr

/-- How many repetitions are tried first, and whether fewer or more are tried after that. -/
inductive Greed where
  | greedy
  | lazy
  | possessive
  deriving DecidableEq, Repr

/-- A regular expression. Groups are numbered from one. -/
inductive Node where
  | empty
  | char (test : CharTest)
  | anchor (place : Anchor)
  | seq (first second : Node)
  | alt (first second : Node)
  | group (index : Nat) (body : Node)
  /-- The text that a group matched, once more. -/
  | again (folding : Folding) (index : Nat)
  | conditional (index : Nat) (yes no : Node)
  | ahead (negated : Bool) (body : Node)
  /-- The text just before, of a fixed width. -/
  | behind (negated : Bool) (width : Nat) (body : Node)
  | atomic (body : Node)
  /-- A test that so many characters in a row pass. -/
  | run (greed : Greed) (min : Nat) (max : Option Nat) (test : CharTest)
  | loop (greed : Greed) (min : Nat) (max : Option Nat) (body : Node)
  deriving DecidableEq, Repr

/-- A number of repetitions of a node. -/
def Node.repeated (greed : Greed) (min : Nat) (max : Option Nat) : Node → Node
  | .char test => .run greed min max test
  | body => .loop greed min max body

/-- Nodes in a row. -/
def Node.ofList : List Node → Node
  | [] => .empty
  | [n] => n
  | n :: rest => .seq n (ofList rest)

/-- The characters of a text in a row. -/
def Node.ofText (cs : List Char) : Node :=
  .ofList (cs.map fun c => .char (.letter .exact false c.toNat))

/-! ### Width -/

/-- The fewest and the most code points that a node matches. -/
structure Width where
  least : Nat
  most : Nat
  deriving DecidableEq, Repr

-- Powers of natural numbers as the core library has them, whatever else is imported.
attribute [local instance (high)] instPowNat

/-- The width that counts as no bound. -/
def Width.limit : Nat := 2 ^ (64 : Nat)

def Width.plus (a b : Width) : Width :=
  ⟨min (a.least + b.least) limit, min (a.most + b.most) limit⟩

def Width.either (a b : Width) : Width := ⟨min a.least b.least, max a.most b.most⟩

def Width.times (a : Width) (least : Nat) (most : Option Nat) : Width :=
  ⟨min (a.least * least) limit,
    match most with
    | some n => min (a.most * n) limit
    | none => if a.most = 0 then 0 else limit⟩

/-- The width of a node whose groups have the given widths. -/
def Node.width (groups : Nat → Width) : Node → Width
  | .empty | .anchor _ | .ahead _ _ | .behind _ _ _ => ⟨0, 0⟩
  | .char _ => ⟨1, 1⟩
  | .seq a b => (a.width groups).plus (b.width groups)
  | .alt a b => (a.width groups).either (b.width groups)
  | .group _ body | .atomic body => body.width groups
  | .again _ index => groups index
  | .conditional _ yes no => (yes.width groups).either (no.width groups)
  | .run _ least most _ => Width.times ⟨1, 1⟩ least most
  | .loop _ least most body => (body.width groups).times least most

end SnippetDetect.Regex

namespace SnippetDetect

/-- A regular expression and the number of its groups. -/
structure Regex where
  node : Regex.Node
  groups : Nat
  deriving DecidableEq, Repr

end SnippetDetect
