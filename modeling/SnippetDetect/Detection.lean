import SnippetDetect.Number
import SnippetDetect.Json.Basic

/-!
Detections: a language, how sure a detector is of it, and which detector that was.

Confidence goes from 0 to 100. Detectors work with raw scores, which become confidences
by rounding half up and clamping (`confidenceOf`). Several detections are ranked by
falling confidence, and their consensus is the language that most of them name.
-/

namespace SnippetDetect

/-- The answer of a detector: a language with a name, and a confidence in range. -/
structure Detection where
  language : String
  confidence : Number
  source : String
  named : language ≠ ""
  inRange : confidence.within 0 100 = true
  deriving DecidableEq, Repr

namespace Detection

/-- Why values are no detection. -/
inductive Fault where
  | noLanguage
  | confidenceOutOfRange (confidence : Number)
  deriving DecidableEq, Repr

def Fault.message : Fault → String
  | .noLanguage => "Detection result language cannot be empty"
  | .confidenceOutOfRange c =>
      "Confidence must be between 0 and 100, got " ++ c.text Binary64.plain

/-- A detection, if its language has a name and its confidence is in range. -/
def make (language : String) (confidence : Number) (source : String) : Except Fault Detection :=
  if named : language = "" then .error .noLanguage
  else if inRange : confidence.within 0 100 then .ok ⟨language, confidence, source, named, inRange⟩
  else .error (.confidenceOutOfRange confidence)

/-- The detection in words. -/
def describe (d : Detection) : String :=
  "DetectionResult(language='" ++ d.language ++ "', confidence=" ++
    d.confidence.text Binary64.plain ++ ", source=" ++ d.source ++ ")"

def toJson (d : Detection) : Json :=
  .obj [("language", .str d.language), ("confidence", .num d.confidence),
    ("source_name", .str d.source)]

/-- The detections by falling confidence; equal ones keep their order. -/
def rank (ds : List Detection) : List Detection :=
  ds.mergeSort fun a b => b.confidence.le a.confidence

/-! ### Consensus -/

/-- Of two languages the one named more often, of two named equally often the lesser. -/
def preferred (names : List String) (a b : String) : String :=
  let m := names.count a
  let n := names.count b
  if m < n ∨ (m = n ∧ b < a) then b else a

/-- The language that most detections name, if there is any. -/
def consensus (ds : List Detection) : Option String :=
  match ds.map (·.language) with
  | [] => none
  | first :: rest => some (rest.foldl (preferred (first :: rest)) first)

end Detection

/-! ### Confidence -/

/-- One half. -/
def Binary64.half : Binary64 := ofRatio false 1 2

/-- A raw score rounded half up to a whole number from 0 to 100. -/
def confidenceOf (score : Number) : Except Overflow Nat :=
  if (0 : Number).lt score then do
    let raised := (← score.toBinary64).add Binary64.half
    match raised.truncate? with
    | some n => .ok (min n.toNat 100)
    | none => .error .infinityToInt
  else .ok 0

end SnippetDetect
