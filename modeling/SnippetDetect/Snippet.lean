import SnippetDetect.Text.Point
import SnippetDetect.Text.Quoted

/-!
Snippets: the code whose language is asked for.

A snippet is a row of code points. It need not be a text: a half of a character that stands alone has
no place in UTF-8, and the first row of such halves is the fault that encoding the snippet meets.
-/

namespace SnippetDetect

open SnippetDetect.Text

structure Snippet where
  points : List Point
  deriving DecidableEq, Repr

namespace Snippet

def ofString (s : String) : Snippet := ⟨Text.points s⟩

instance : Coe String Snippet := ⟨ofString⟩

/-- The code points by their places. -/
def text (s : Snippet) : Array Point := s.points.toArray

def length (s : Snippet) : Nat := s.points.length

/-- Nothing but blank characters, possibly none at all. -/
def isBlank (s : Snippet) : Bool := s.points.all Point.isBlank

/-! ### Encoding -/

/-- The first lone halves in a row: `length` of them from `start`, the first being `code`. -/
structure EncodeError where
  start : Nat
  length : Nat
  code : Nat
  deriving DecidableEq, Repr

def EncodeError.message (e : EncodeError) : String :=
  "'utf-8' codec can't encode " ++
    (if e.length = 1 then
      "character '\\u" ++ String.ofList (hex 4 e.code) ++ "' in position " ++ toString e.start
    else
      "characters in position " ++ toString e.start ++ "-" ++
        toString (e.start + e.length - 1)) ++
    ": surrogates not allowed"

/-- The text that a snippet is, unless a half in it stands alone. -/
def encode (s : Snippet) : Except EncodeError String :=
  match s.points.dropWhile Point.isChar with
  | [] => .ok (String.ofList (s.points.filterMap Point.char?))
  | half :: behind => .error {
      start := (s.points.takeWhile Point.isChar).length
      length := (behind.takeWhile (!·.isChar)).length + 1
      code := half.toNat }

end Snippet

end SnippetDetect
