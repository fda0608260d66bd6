import SnippetDetect.Detector.Words
import SnippetDetect.Fault
import SnippetDetect.Text.Search

/-!
Scoring a snippet against the fingerprints of languages.

Five sub-scores from 0 to 100 are added with fixed weights: the keywords, imports and
builtins among the identifiers, the regular expressions that match, and the comments.
Languages are kept in the order of their names, so of equal scores the first name wins.
A source that is no regular expression counts neither for nor against a language.
-/

namespace SnippetDetect

open SnippetDetect.Text

/-- A language with its regular expressions read. -/
structure Loaded where
  language : Language
  regexes : List Regex

/-- The languages a snippet is compared with, in the order of their names, and those allowed. -/
structure Fingerprints where
  loaded : List (String × Loaded)
  allowed : List String

namespace Fingerprints

/-! ### Sub-scores -/

/-- A hundred, as a score. -/
def full : Binary64 := Binary64.ofNat 100

/-- A part of a whole as a score. -/
def share (part whole : Nat) : Binary64 := (Binary64.ofRatio false part whole).mul full

/-- The share of candidates among the words. Past the cap a longer list asks for no more words. -/
def wordScore (words candidates : List String) (cap : Option Nat) : Binary64 :=
  if candidates.isEmpty then Binary64.zero
  else
    let found := (candidates.filter words.contains).length
    let asked := match cap with
      | none => candidates.length
      | some n => min candidates.length n
    Binary64.min full (share found asked)

/-- The share of expressions that match somewhere. -/
def regexScore (text : Array Point) (regexes : List Regex) : Binary64 :=
  if regexes.isEmpty then Binary64.zero
  else share (regexes.filter (·.occursIn text)).length regexes.length

/-- A text at the start of a line, blank characters before it aside. -/
def lineStart (token : String) : Regex where
  node := .ofList [
    .anchor .lineStart,
    .run .greedy 0 none (.set .exact false [.category .space false false]),
    .ofText token.toList]
  groups := 0

/-- Whether a comment up to the end of a line begins somewhere. -/
def hasLineComment (text : Array Point) (tokens : List String) : Bool :=
  tokens.any fun token => (lineStart token).occursIn text

/-- Whether both texts of some pair stand somewhere. -/
def hasBlockComment (code : List Point) (blocks : List BlockComment) : Bool :=
  blocks.any fun b => occursIn (points b.opening) code && occursIn (points b.closing) code

/-- Fifty for each of the two checks that passes, divided by the number of those that apply. -/
def commentScore (text : Array Point) (comments : CommentStyle) : Binary64 :=
  let checks := [(!comments.line.isEmpty, hasLineComment text comments.line),
    (!comments.block.isEmpty, hasBlockComment text.toList comments.block)].filter (·.1)
  let passed := (checks.filter (·.2)).length
  if checks.isEmpty then Binary64.zero
  else (Binary64.ofNat (50 * passed)).divNat checks.length

/-! ### The weighted score -/

def keywordWeight : Binary64 := Binary64.ofRatio false 4 10
def regexWeight : Binary64 := Binary64.ofRatio false 3 10
def importWeight : Binary64 := Binary64.ofRatio false 15 100
def builtinWeight : Binary64 := Binary64.ofRatio false 1 10
def commentWeight : Binary64 := Binary64.ofRatio false 5 100

def keywordCap : Nat := 10
def builtinCap : Nat := 15

/-- The score of a language whose regular expressions are given. -/
def score (text : Array Point) (words : List String) (regexes : List Regex) (l : Language) :
    Binary64 :=
  ((((wordScore words l.keywords (some keywordCap)).mul keywordWeight
    |>.add ((regexScore text regexes).mul regexWeight))
    |>.add ((wordScore words l.imports none).mul importWeight))
    |>.add ((wordScore words l.builtins (some builtinCap)).mul builtinWeight))
    |>.add ((commentScore text l.comments).mul commentWeight)

/-! ### Loading -/

/-- How many sources of a language are looked at. -/
def maxSources : Nat := 8

/-- In sources case does not matter and an anchor stands for the edge of a line. -/
def options : Regex.Options := { ignoreCase := true, multiline := true }

/-- The regular expressions among the sources. -/
def readSources : List String → Except Regex.Refusal (List Regex)
  | [] => .ok []
  | source :: rest =>
      match Regex.parse options source with
      | .ok regex => (readSources rest).map (regex :: ·)
      | .error .malformed => readSources rest
      | .error refusal => .error refusal

/-- The regular expressions of a language. -/
def regexesOf (l : Language) : Except Regex.Refusal (List Regex) :=
  readSources (l.patterns.take maxSources)

/-- The languages under their names in lower case, in the order of these. Of languages with one
name the last one counts. -/
def byName (languages : List Language) : List (String × Language) :=
  (languages.foldl (fun known l => setEntry (lower l.name) l known) []).mergeSort
    fun a b => !(b.1 < a.1)

/-- A list of languages to allow: lowered and without blank ends, blank ones and repetitions left
out. -/
def normalAllowed (languages : List String) : List String :=
  languages.foldl (fun kept language =>
    let name := strip (lower language)
    if name.isEmpty || kept.contains name then kept else kept ++ [name]) []

/-- Load languages and allow some of them, or all if none is given. -/
def load (languages : List Language) (allowed : List String) : Except Fault Fingerprints := do
  let loaded ← (byName languages).mapM fun (name, language) => do
    match regexesOf language with
    | .ok regexes => return (name, { language, regexes : Loaded })
    | .error refusal => throw (.regex refusal)
  return ⟨loaded, normalAllowed allowed⟩

/-! ### Use -/

def setAllowed (f : Fingerprints) (languages : List String) : Fingerprints :=
  { f with allowed := normalAllowed languages }

/-- Whether a language may be an answer. Without an allow-list every one may. -/
def allows (f : Fingerprints) (language : String) : Bool :=
  f.allowed.isEmpty || f.allowed.contains (lower language)

def names (f : Fingerprints) : List String := f.loaded.map (·.1)

def get? (f : Fingerprints) (language : String) : Option Language :=
  (f.loaded.lookup (lower language)).map (·.language)

/-- The score of any language. One whose name is loaded is judged by the loaded expressions. -/
def confidence (f : Fingerprints) (code : Snippet) (l : Language) (words : Option (List String)) :
    Except Fault Binary64 := do
  let words := words.getD (wordsOf code)
  let regexes ← match f.loaded.lookup (lower l.name) with
    | some known => pure known.regexes
    | none => (regexesOf l).mapError .regex
  return score code.text words regexes l

/-- The allowed languages that score at all, the best first. -/
def ranking (f : Fingerprints) (code : Snippet) : List (String × Binary64) :=
  let words := wordsOf code
  let scores := (f.loaded.filter fun e => f.allows e.1).map fun (name, known) =>
    (name, score code.text words known.regexes known.language)
  (scores.filter fun e => Binary64.zero.lt e.2).mergeSort fun a b => b.2.le a.2

end Fingerprints

end SnippetDetect
