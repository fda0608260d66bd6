import SnippetDetect.Detector.Words
import SnippetDetect.Fault
import SnippetDetect.Number.Reader

/-!
Guessing by the lexers of a syntax highlighter.

The highlighter comes from outside: it picks a lexer for a snippet, or none. How relevant
the lexer finds the snippet, on a scale from 0 to 1, becomes a confidence that is lowered
for short snippets and raised for long ones. The lexer's first short name, or its name if
it has none, tells the language.
-/

namespace SnippetDetect

open SnippetDetect.Text

/-- What is known of the lexer that is picked. Its relevance may be any value. -/
structure Lexer where
  aliases : List Json
  name : Json
  relevance : Json

/-- The lexers of a highlighter. -/
structure Lexers where
  /-- The lexer for a snippet; there is none when the highlighter knows none or fails. -/
  pick? : Snippet → Option Lexer
  /-- The short names of each lexer there is. -/
  known : List (List String)

namespace Lexers

/-- No highlighter at all. -/
def absent : Lexers := ⟨fun _ => none, []⟩

/-- The languages that go by other names among lexers. -/
def otherNames : List (String × String) := [
  ("python3", "python"), ("py", "python"), ("py3", "python"), ("python2", "python"),
  ("js", "javascript"), ("javascript", "javascript"), ("node", "javascript"),
  ("ts", "typescript"), ("typescript", "typescript"), ("c++", "cpp"), ("cpp", "cpp"),
  ("c#", "csharp"), ("csharp", "csharp"), ("cs", "csharp"), ("sh", "bash"), ("shell", "bash"),
  ("zsh", "bash"), ("ksh", "bash"), ("console", "bash"), ("shell-session", "bash"),
  ("objective-c", "objective-c"), ("objectivec", "objective-c"), ("objc", "objective-c"),
  ("kt", "kotlin"), ("rb", "ruby"), ("golang", "go"), ("rs", "rust"), ("yml", "yaml"),
  ("ps1", "powershell"), ("pwsh", "powershell"), ("docker", "dockerfile"), ("make", "makefile"),
  ("mf", "makefile"), ("html+jinja", "html"), ("text", "text")]

/-- The language a name stands for. -/
def languageOf (name : String) : String :=
  let normal := strip (lower name)
  (otherNames.lookup normal).getD normal

/-- A relevance, capped, as a score. -/
def cappedScore : Number → Binary64
  | .int n => if 0 < n then Binary64.ofNat 100 else Binary64.zero
  | .float x => Binary64.min (Binary64.ofNat 100) (x.mul (Binary64.ofNat 100))

/-- The factor for a snippet of so many characters. -/
def lengthFactor (length : Int) : Option Binary64 :=
  if length < 50 then some (Binary64.ofRatio false 7 10)
  else if length < 100 then some (Binary64.ofRatio false 85 100)
  else if 500 < length then some (Binary64.ofRatio false 11 10)
  else none

/-- The confidence that a relevance stands for in a snippet of so many characters. -/
def confidence (relevance : Number) (length : Int) : Binary64 :=
  if relevance.le 0 then Binary64.zero
  else
    let base := cappedScore relevance
    let adjusted := (lengthFactor length).elim base base.mul
    Binary64.max Binary64.zero (Binary64.min (Binary64.ofNat 100) adjusted)

/-- The number a relevance stands for. An empty value is none at all, and a text may spell one. -/
def relevanceOf? : Json → Option Binary64
  | .null | .bool false | .str "" | .arr [] | .obj [] => some Binary64.zero
  | .bool true => some Binary64.one
  | .num n => n.toBinary64.toOption
  | .str s => Number.readFloat? s
  | .arr _ | .obj _ => none

/-- The text by which a lexer names its language. -/
def nameOf? (l : Lexer) : Option String :=
  match l.aliases.headD l.name with
  | .str s => some s
  | _ => none

/-- The language of a snippet and the confidence in it; plain text is no language. -/
def guess? (ls : Lexers) (code : Snippet) : Option (String × Binary64) := do
  let lexer ← ls.pick? code
  let relevance ← relevanceOf? lexer.relevance
  let name ← nameOf? lexer
  let language := languageOf name
  let score := confidence (.float relevance) code.length
  if language = "text" ∨ score.le Binary64.zero then none else some (language, score)

/-- The languages of all lexers. -/
def names (ls : Lexers) : List String :=
  sortedSet (ls.known.filterMap fun aliases => aliases.head?.map languageOf)

end Lexers

end SnippetDetect
