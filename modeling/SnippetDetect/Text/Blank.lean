/-!
White space in any script.

Blank are the separators of Unicode and the control characters that move to another
field or line; the zero-width space and the byte order mark are not.
-/

namespace SnippetDetect.Text

def isBlank (c : Char) : Bool :=
  let n := c.toNat
  if n < 0x80 then n == 0x20 || (0x09 ≤ n && n ≤ 0x0D) || (0x1C ≤ n && n ≤ 0x1F)
  else n == 0x85 || n == 0xA0 || n == 0x1680 || (0x2000 ≤ n && n ≤ 0x200A) ||
    n == 0x2028 || n == 0x2029 || n == 0x202F || n == 0x205F || n == 0x3000

/-- The row without the members at either end that `p` holds of. -/
def trim {α : Type} (p : α → Bool) (as : List α) : List α :=
  ((as.dropWhile p).reverse.dropWhile p).reverse

/-- The characters without the blank ones at either end. -/
def stripBlanks (cs : List Char) : List Char := trim isBlank cs

/-- The text without the blank characters at either end. -/
def strip (s : String) : String := String.ofList (stripBlanks s.toList)

/-- Nothing but blank characters, possibly none at all. -/
def isBlankText (s : String) : Bool := s.toList.all isBlank

end SnippetDetect.Text
