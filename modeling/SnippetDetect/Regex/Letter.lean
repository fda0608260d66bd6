import SnippetDetect.Text.Casing

/-!
When two characters are the same letter.

Characters are code points here, since a pattern may name one that no text holds. Without
regard to case two characters are the same letter when they have the same lower case, or
lower cases that share a capital; `Folding.key` picks one lower case for each letter, and
`Folding.forms` lists all the characters of it.
-/

namespace SnippetDetect.Regex

open SnippetDetect.Text

/-- Which characters are told apart. -/
inductive Folding where
  /-- All of them. -/
  | exact
  /-- All but the two cases of an ASCII letter. -/
  | ascii
  /-- All but the forms of one letter. -/
  | unicode
  deriving DecidableEq, Repr

/-- The lower cases that share a capital with another one. -/
def sharedCapitals : List (List Nat) := [
    [0x69, 0x131], [0x73, 0x17F], [0xB5, 0x3BC], [0x345, 0x3B9, 0x1FBE], [0x390, 0x1FD3],
    [0x3B0, 0x1FE3], [0x3B2, 0x3D0], [0x3B5, 0x3F5], [0x3B8, 0x3D1], [0x3BA, 0x3F0],
    [0x3C0, 0x3D6], [0x3C1, 0x3F1], [0x3C2, 0x3C3], [0x3C6, 0x3D5], [0x432, 0x1C80],
    [0x434, 0x1C81], [0x43E, 0x1C82], [0x441, 0x1C83], [0x442, 0x1C84, 0x1C85], [0x44A, 0x1C86],
    [0x463, 0x1C87], [0x1C88, 0xA64B], [0x1E61, 0x1E9B], [0xFB05, 0xFB06]]

/-- Capitals that are not the upper case of their lower case. -/
def furtherCapitals : List (Nat × Nat) := [
    (0x69, 0x130), (0x6B, 0x212A), (0xDF, 0x1E9E), (0xE5, 0x212B), (0x1C6, 0x1C5),
    (0x1C9, 0x1C8), (0x1CC, 0x1CB), (0x1F3, 0x1F2), (0x3B8, 0x3F4), (0x3C9, 0x2126),
    (0x1F80, 0x1F88), (0x1F81, 0x1F89), (0x1F82, 0x1F8A), (0x1F83, 0x1F8B), (0x1F84, 0x1F8C),
    (0x1F85, 0x1F8D), (0x1F86, 0x1F8E), (0x1F87, 0x1F8F), (0x1F90, 0x1F98), (0x1F91, 0x1F99),
    (0x1F92, 0x1F9A), (0x1F93, 0x1F9B), (0x1F94, 0x1F9C), (0x1F95, 0x1F9D), (0x1F96, 0x1F9E),
    (0x1F97, 0x1F9F), (0x1FA0, 0x1FA8), (0x1FA1, 0x1FA9), (0x1FA2, 0x1FAA), (0x1FA3, 0x1FAB),
    (0x1FA4, 0x1FAC), (0x1FA5, 0x1FAD), (0x1FA6, 0x1FAE), (0x1FA7, 0x1FAF), (0x1FB3, 0x1FBC),
    (0x1FC3, 0x1FCC), (0x1FF3, 0x1FFC)]

def asciiLower (n : Nat) : Nat := if 0x41 ≤ n ∧ n ≤ 0x5A then n + 0x20 else n

def asciiUpper (n : Nat) : Nat := if 0x61 ≤ n ∧ n ≤ 0x7A then n - 0x20 else n

/-- The lower case of a code point. -/
def lowerCode (n : Nat) : Nat := if n < 0x80 then asciiLower n else shifted lowerRuns n

/-- The upper case of a code point. -/
def upperCode (n : Nat) : Nat := if n < 0x80 then asciiUpper n else shifted upperRuns n

/-- The lower cases of a letter that has `n` among them. -/
def siblings (n : Nat) : List Nat :=
  if n < 0x80 ∧ n ≠ 0x69 ∧ n ≠ 0x73 then [n]
  else (sharedCapitals.find? (·.contains n)).getD [n]

/-- The characters whose lower case is `n`. -/
def withLower (n : Nat) : List Nat :=
  let capital := upperCode n
  let further :=
    if n < 0x80 ∧ n ≠ 0x69 ∧ n ≠ 0x6B then []
    else (furtherCapitals.filter (·.1 = n)).map (·.2)
  (if lowerCode n = n then [n] else []) ++
    (if capital ≠ n ∧ lowerCode capital = n then [capital] else []) ++ further

namespace Folding

/-- The case in which characters are looked up. -/
def lower : Folding → Nat → Nat
  | .exact, n => n
  | .ascii, n => asciiLower n
  | .unicode, n => lowerCode n

/-- One lower case for all the characters of a letter. -/
def key : Folding → Nat → Nat
  | .unicode, n => (siblings (lowerCode n)).headD 0
  | folding, n => folding.lower n

/-- The characters that are the same letter as `n`. -/
def forms : Folding → Nat → List Nat
  | .exact, n => [n]
  | .ascii, n =>
      let low := asciiLower n
      if asciiUpper low = low then [low] else [low, asciiUpper low]
  | .unicode, n => (siblings (lowerCode n)).flatMap withLower

end Folding

end SnippetDetect.Regex
