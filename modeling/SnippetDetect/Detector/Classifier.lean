import SnippetDetect.Detector.Words
import SnippetDetect.Fault
import SnippetDetect.Number.Reader
import SnippetDetect.Text.Quoted

/-!
Classification by a trained model.

The model is made when it is first needed and kept until it is disposed of. Its answer is
a list of predictions, the best first: pairs of a language and a probability, or objects
with both. An answer of another shape is no prediction.

`Classifier` counts how often the model was made and how often it was run.
-/

namespace SnippetDetect

open SnippetDetect.Text

/-- A model: what it predicts for a snippet, or the message it fails with. -/
abbrev Model := Snippet → Except String Json

/-- How a model is made: there may be none, and making one may fail. -/
abbrev ModelSource := Except String (Option Model)

structure Classifier where
  source : ModelSource
  /-- The languages that have other names in predictions. -/
  mapping : List (String × String)
  languages : List String
  /-- Whether a model was asked for since the last disposal, and what was got. -/
  made : Option (Option Model) := none
  created : Nat := 0
  runs : Nat := 0

namespace Classifier

/-- The languages that go by other names in predictions. -/
def otherNames : List (String × String) := [
  ("ts", "typescript"), ("js", "javascript"), ("py", "python"), ("rs", "rust"),
  ("cs", "csharp"), ("rb", "ruby"), ("kt", "kotlin"), ("yml", "yaml"), ("md", "markdown"),
  ("sh", "bash"), ("ps1", "powershell"), ("pl", "perl"), ("hs", "haskell"), ("erl", "erlang"),
  ("coffee", "coffeescript"), ("bat", "batch"), ("tex", "latex"), ("mm", "objective-c"),
  ("ipynb", "jupyter")]

/-- The languages a model is taken to know. -/
def usualLanguages : List String := [
  "typescript", "javascript", "python", "rust", "cpp", "c", "csharp", "java", "php", "ruby",
  "go", "swift", "kotlin", "scala", "r", "sql", "html", "css", "json", "yaml", "xml",
  "markdown", "bash", "powershell", "dockerfile", "makefile", "lua", "perl", "haskell",
  "erlang", "coffeescript", "batch", "latex", "scss", "sass", "objective-c", "jupyter", "matlab"]

def create (source : ModelSource) (mapping : List (String × String))
    (languages : Option (List String)) : Classifier where
  source := source
  mapping := mapping.foldl (fun known (name, language) => setEntry name language known) otherNames
  languages := sortedSet (languages.getD usualLanguages)

/-! ### Making the model -/

/-- Have a model, or know that there is none. -/
def prepare (c : Classifier) : Except String Unit × Classifier :=
  match c.made with
  | some _ => (.ok (), c)
  | none =>
      let c := { c with created := c.created + 1 }
      match c.source with
      | .error message => (.error message, c)
      | .ok model => (.ok (), { c with made := some model })

def isReady (c : Classifier) : Bool :=
  match c.made with
  | some (some _) => true
  | _ => false

def dispose (c : Classifier) : Classifier := { c with made := none }

/-! ### Predictions -/

/-- The language a name in a prediction stands for. -/
def languageOf (c : Classifier) (name : String) : String :=
  let normal := strip (lower name)
  (c.mapping.lookup normal).getD normal

mutual

/-- A value in words, texts in quotes. -/
def quotedValue : Json → String
  | .str s => quoted s
  | .null => "None"
  | .bool b => if b then "True" else "False"
  | .num n => n.text Binary64.plain
  | .arr items => "[" ++ ", ".intercalate (quotedItems items) ++ "]"
  | .obj members => "\x7b" ++ ", ".intercalate (quotedMembers members) ++ "\x7d"

def quotedItems : List Json → List String
  | [] => []
  | item :: rest => quotedValue item :: quotedItems rest

def quotedMembers : Members → List String
  | [] => []
  | (name, value) :: rest => (quoted name ++ ": " ++ quotedValue value) :: quotedMembers rest

end

/-- A value in words. -/
def wordsForValue : Json → String
  | .str s => s
  | value => quotedValue value

/-- The probability a value stands for. -/
def probability? : Json → Option Binary64
  | .num n => n.toBinary64.toOption
  | .bool b => some (if b then Binary64.one else Binary64.zero)
  | .str s => Number.readFloat? s
  | _ => none

/-- The two parts of a prediction. -/
def parts? : Json → Option (Json × Json)
  | .arr (name :: probability :: _) => some (name, probability)
  | .obj members =>
      match valueOf? members "language_id", valueOf? members "confidence" with
      | some name, some probability => some (name, probability)
      | _, _ => none
  | _ => none

/-- The language and the score of the best prediction. -/
def best? (c : Classifier) : Json → Option (String × Binary64)
  | .arr (first :: _) => do
      let (name, written) ← parts? first
      let probability ← probability? written
      return (c.languageOf (wordsForValue name), probability.mul (Binary64.ofNat 100))
  | _ => none

/-- What the model makes of a snippet, and the classifier afterwards. -/
def classify (c : Classifier) (code : Snippet) : Option (String × Binary64) × Classifier :=
  let (outcome, c) := c.prepare
  match outcome, c.made with
  | .ok (), some (some model) =>
      let c := { c with runs := c.runs + 1 }
      match model code with
      | .ok predictions => (c.best? predictions, c)
      | .error _ => (none, c)
  | _, _ => (none, c)

end Classifier

end SnippetDetect
