import SnippetDetect.Json.Basic
import SnippetDetect.Snippet
import SnippetDetect.Text.Search

/-!
Advice on a snippet before its language is detected.

Only an empty or blank snippet is an issue. A short one, one that mixes tabs with runs of
spaces and a long single line are worth a recommendation each.
-/

namespace SnippetDetect

open SnippetDetect.Text

/-- What there is to say about a snippet. -/
structure CodeCheck where
  isValid : Bool
  issues : List String := []
  recommendations : List String := []
  deriving DecidableEq, Repr

namespace CodeCheck

/-- Snippets with fewer code points are hard to tell apart. -/
def reliableLength : Nat := 10

def longLine : Nat := 100

def invalid (issue : String) : CodeCheck := { isValid := false, issues := [issue] }

/-- The recommendations for the code points of a snippet without the blank ones at its ends. -/
def advice (trimmed : List Point) : List String :=
  (if trimmed.length < reliableLength then
    ["Code snippets with more content typically yield better detection results"] else []) ++
  (if trimmed.contains (.char '\t') && occursIn (List.replicate 4 (.char ' ')) trimmed then
    ["Mixed indentation detected - consider consistent indentation for better analysis"]
    else []) ++
  (if !trimmed.contains (.char '\n') && longLine < trimmed.length then
    ["Long single-line code - line breaks may improve detection accuracy"] else [])

/-- Look at a snippet. -/
def ofSnippet (code : Snippet) : CodeCheck :=
  if code.points = [] then invalid "Code must be a non-empty string"
  else
    let trimmed := trim Point.isBlank code.points
    if trimmed = [] then invalid "Code cannot be empty or only whitespace"
    else { isValid := true, recommendations := advice trimmed }

/-- Look at a value that should be a snippet. -/
def ofJson : Json → CodeCheck
  | .str code => ofSnippet code
  | _ => invalid "Code must be a non-empty string"

end CodeCheck

end SnippetDetect
