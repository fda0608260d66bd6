/-!
What the pattern detector knows of a language: the words and the regular expressions that
give it away and the way its comments look.
-/

namespace SnippetDetect

/-- The texts around a comment that may span lines. -/
structure BlockComment where
  opening : String
  closing : String
  deriving DecidableEq, Repr

/-- How comments look: what begins one up to the end of its line, and what surrounds one. -/
structure CommentStyle where
  line : List String := []
  block : List BlockComment := []
  deriving DecidableEq, Repr

/-- The lexical fingerprint of a language. -/
structure Language where
  name : String
  keywords : List String := []
  patterns : List String := []
  imports : List String := []
  builtins : List String := []
  comments : CommentStyle := {}
  extensions : List String := []
  operators : List String := []
  deriving DecidableEq, Repr

end SnippetDetect
