import SnippetDetect.Regex.Matcher
import SnippetDetect.Snippet

/-!
The identifiers of a snippet.

An identifier begins with an ASCII letter or an underscore, goes on with ASCII letters,
digits and underscores, and stands between word boundaries. Boundaries know letters of
every script, so no part of a longer word is an identifier.
-/

namespace SnippetDetect

open SnippetDetect.Regex SnippetDetect.Text

/-- The letters an identifier may begin with. -/
def identifierHead : List SetItem := [.range 0x61 0x7A, .range 0x41 0x5A, .one 0x5F]

/-- The characters an identifier may go on with. -/
def identifierTail : List SetItem := .range 0x30 0x39 :: identifierHead

/-- An identifier between word boundaries. -/
def identifier : Regex where
  node := .ofList [
    .anchor (.boundary false),
    .char (.set .exact false identifierHead),
    .run .greedy 0 none (.set .exact false identifierTail),
    .anchor (.boundary false)]
  groups := 0

/-- The characters between two places. -/
def spelled (text : Array Point) (start stop : Nat) : String :=
  String.ofList ((text.extract start stop).toList.filterMap Point.char?)

/-- The identifiers from a place on, each looked for behind the one before. The fuel is at least
the number of code points left. -/
def wordsFrom (text : Array Point) : (fuel start : Nat) → List String
  | 0, _ => []
  | fuel + 1, start =>
      if text.size ≤ start then []
      else match identifier.matchEnd? text start with
        | some stop =>
            if start < stop then spelled text start stop :: wordsFrom text fuel stop
            else wordsFrom text fuel (start + 1)
        | none => wordsFrom text fuel (start + 1)

/-- The identifiers of a snippet in the order of the text. -/
def wordsOf (code : Snippet) : List String := wordsFrom code.text code.length 0

/-- Texts in the order of their characters, each once. -/
def sortedSet (names : List String) : List String :=
  names.eraseDups.mergeSort fun a b => !(b < a)

end SnippetDetect
