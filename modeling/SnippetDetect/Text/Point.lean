import SnippetDetect.Text.Blank
import SnippetDetect.Text.Digit
import SnippetDetect.Text.WordChar

/-!
Code points.

Sixteen-bit code spells a character beyond the basic plane by two halves. A half that stands alone is
no character, but text from outside may hold one. It is no letter, no digit and no white space,
and no file of characters can spell it.
-/

namespace SnippetDetect.Text

/-- A character or a lone half, of which there are as many as from 0xD800 to 0xDFFF. -/
inductive Point where
  | char (c : Char)
  | half (index : Fin 0x800)
  deriving DecidableEq, Repr

namespace Point

def toNat : Point → Nat
  | .char c => c.toNat
  | .half index => 0xD800 + index

def char? : Point → Option Char
  | .char c => some c
  | .half _ => none

def isChar (p : Point) : Bool := p.char?.isSome

def isBlank (p : Point) : Bool := p.char?.any Text.isBlank

end Point

/-- The code points of a text. -/
def points (s : String) : List Point := s.toList.map .char

end SnippetDetect.Text
