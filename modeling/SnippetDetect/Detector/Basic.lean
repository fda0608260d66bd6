import SnippetDetect.Detector.Classifier
import SnippetDetect.Detector.Custom
import SnippetDetect.Detector.Fingerprints
import SnippetDetect.Detector.Lexers

/-!
Detectors.

A detector has a name that never changes, a gate from 0 to 1 that its own scores must
clear, and a strategy. To detect is to ask the strategy and to drop what does not clear
the gate. Blank snippets have no language, and what goes wrong inside one of the bundled
strategies is no answer; a detector made by the user may fail.

Every write either takes effect or says why not, and gives the detector as it is then.
-/

namespace SnippetDetect

open SnippetDetect.Text

/-- How a detector comes to its answers. -/
inductive Strategy where
  | fingerprints (f : Fingerprints)
  | lexers (ls : Lexers)
  | classifier (c : Classifier)
  | custom (c : Custom)

structure Detector where
  name : String
  displayName : String
  description : String
  gate : Binary64
  strategy : Strategy

/-- What is told of a detector. -/
structure DetectorInfo where
  name : String
  displayName : String
  description : String
  isConfigurable : Bool
  deriving DecidableEq, Repr

def DetectorInfo.toJson (i : DetectorInfo) : Json :=
  .obj [("name", .str i.name), ("display_name", .str i.displayName),
    ("description", .str i.description), ("is_configurable", .bool i.isConfigurable)]

/-! ### Gates -/

/-- A number as a gate: from 0 to 1, and one when it is no number. -/
def gateOf (value : Number) : Except Overflow Binary64 :=
  value.toBinary64.map fun x => Binary64.max Binary64.zero (Binary64.min Binary64.one x)

/-- The gate of a threshold from 0 to 100. -/
def gateOfThreshold (threshold : Number) : Except Overflow Binary64 := do
  gateOf (.float (← threshold.hundredth))

namespace Detector

/-- The gate on the scale of scores. -/
def scoreGate (d : Detector) : Binary64 := d.gate.mul (Binary64.ofNat 100)

def setGate (d : Detector) (value : Number) : Except Overflow Detector :=
  (gateOf value).map fun gate => { d with gate }

def setThreshold (d : Detector) (threshold : Number) : Except Overflow Detector :=
  (gateOfThreshold threshold).map fun gate => { d with gate }

/-- The gate as a whole number from 0 to 100. -/
def threshold (d : Detector) : Nat :=
  match confidenceOf (.float d.scoreGate) with
  | .ok n => n
  | .error _ => 0

/-- Whether a score clears the gate, both taken to six places. -/
def clears (d : Detector) (score : Number) : Bool :=
  (Number.roundPlaces 6 (.float d.scoreGate)).le (score.roundPlaces 6)

/-! ### What a detector is -/

def kind (d : Detector) : String :=
  match d.strategy with
  | .fingerprints _ => "PatternMatchingDetector"
  | .lexers _ => "PygmentsDetector"
  | .classifier _ => "ModelDetector"
  | .custom c => c.kind

def isConfigurable (d : Detector) : Bool :=
  match d.strategy with
  | .fingerprints _ | .classifier _ => true
  | .lexers _ => false
  | .custom c => c.configuration?.isSome

def info (d : Detector) : DetectorInfo where
  name := d.name
  displayName := if d.displayName.isEmpty then d.name else d.displayName
  description := d.description
  isConfigurable := d.isConfigurable

/-- The detector in words. -/
def describe (d : Detector) : String :=
  d.kind ++ "(name='" ++ d.name ++ "', threshold=" ++ toString d.threshold ++ ")"

/-- The languages a detector may answer with. -/
def languages (d : Detector) : List String :=
  match d.strategy with
  | .fingerprints f => f.names
  | .lexers ls => ls.names
  | .classifier c => c.languages
  | .custom c => c.languages

def supports (d : Detector) (language : String) : Bool := d.languages.contains (lower language)

/-! ### The allow-list -/

/-- The allow-list, if the detector has one. -/
def allowed? (d : Detector) : Option (List String) :=
  match d.strategy with
  | .fingerprints f => some f.allowed
  | .custom c =>
      match c.capability with
      | .selectable _ allowed => some allowed
      | _ => none
  | _ => none

def isSelectable (d : Detector) : Bool := d.allowed?.isSome

/-- Whether the allow-list admits a language; a detector without one accepts them all. -/
def accepts (d : Detector) (language : String) : Bool :=
  match d.strategy with
  | .fingerprints f => f.allows language
  | .custom c => c.allows language
  | _ => true

/-- Give the detector an allow-list, if it has one at all. -/
def setAllowed (d : Detector) (languages : List String) : Detector :=
  match d.strategy with
  | .fingerprints f => { d with strategy := .fingerprints (f.setAllowed languages) }
  | .custom c => { d with strategy := .custom (c.setAllowed languages) }
  | _ => d

/-! ### Payloads -/

/-- The configuration of a configurable detector. -/
def configuration? (d : Detector) : Option Members :=
  match d.strategy with
  | .fingerprints f => some [("enabled_languages", .ofStrings f.allowed),
      ("available_languages", .ofStrings f.names), ("min_confidence", .num (.float d.gate))]
  | .lexers _ => none
  | .classifier c => some [("min_confidence", .num (.float d.gate)),
      ("is_initialized", .bool c.made.isSome), ("model_available", .bool c.isReady)]
  | .custom c => c.configuration?

/-- Set the gate to the number that a payload has for it. -/
def configureGate (d : Detector) (payload : Members) : Except Fault Unit × Detector :=
  match (valueOf? payload "min_confidence").bind Json.number? with
  | none => (.ok (), d)
  | some value =>
      match d.setGate value with
      | .ok d => (.ok (), d)
      | .error fault => (.error (.overflow fault), d)

/-- The allow-list that a payload has, if it has a list for it. -/
def payloadAllowed (payload : Members) : Except Fault (Option (List String)) :=
  match valueOf? payload "enabled_languages" with
  | some (.arr items) =>
      match items.find? fun item => item.kindName ≠ "str" with
      | some item => .error (.noMember item.kindName "lower")
      | none => .ok (Json.strings? items)
  | _ => .ok none

/-- Give a configurable detector a payload. Names it does not know do not count. -/
def configure (d : Detector) (payload : Members) : Except Fault Unit × Detector :=
  match d.strategy with
  | .fingerprints f =>
      match payloadAllowed payload with
      | .error fault => (.error fault, d)
      | .ok none => d.configureGate payload
      | .ok (some languages) =>
          { d with strategy := .fingerprints (f.setAllowed languages) }.configureGate payload
  | .lexers _ => (.ok (), d)
  | .classifier _ => d.configureGate payload
  | .custom c =>
      let (outcome, c) := c.configure payload
      (outcome, { d with strategy := .custom c })

/-! ### Detection -/

/-- The detection for a scored language that clears the gate. -/
def answer? (d : Detector) (language : String) (score : Binary64) : Option Detection :=
  if d.clears (.float score) then do
    let confidence ← (confidenceOf (.float score)).toOption
    (Detection.make language (.int confidence) d.name).toOption
  else none

/-- Detect the language of a snippet. -/
def detect (d : Detector) (code : Snippet) : Except Fault (Option Detection) × Detector :=
  match d.strategy with
  | .fingerprints f =>
      let best := if code.isBlank then none else (f.ranking code).head?
      (.ok (best.bind fun (language, score) => d.answer? language score), d)
  | .lexers ls =>
      let best := if code.isBlank then none else ls.guess? code
      (.ok (best.bind fun (language, score) => d.answer? language score), d)
  | .classifier c =>
      if code.isBlank then (.ok none, d)
      else
        let (best, c) := c.classify code
        (.ok (best.bind fun (language, score) => d.answer? language score),
          { d with strategy := .classifier c })
  | .custom c =>
      let (outcome, c) := c.ask d.gate code
      (outcome, { d with strategy := .custom c })

/-- Detect the languages of several snippets in turn. -/
def detectEach (d : Detector) : List Snippet → List (Except Fault (Option Detection)) × Detector
  | [] => ([], d)
  | code :: rest =>
      let (outcome, d) := d.detect code
      let (outcomes, d) := d.detectEach rest
      (outcome :: outcomes, d)

/-! ### The bundled detectors -/

/-- The detector that compares a snippet with the fingerprints of languages. -/
def ofLanguages (languages : List Language) (gate : Number) (allowed : List String) :
    Except Fault Detector := do
  let gate ← (gateOf gate).mapError .overflow
  let fingerprints ← Fingerprints.load languages allowed
  return {
    name := "pattern-matching"
    displayName := "Pattern Matching Detector"
    description := "Language detection using keyword analysis, regex patterns, and syntax " ++
      "features with configurable language selection"
    gate
    strategy := .fingerprints fingerprints }

/-- The gate of that detector unless another one is asked for. -/
def languagesGate : Number := .float (Binary64.ofRatio false 6 10)

/-- The gate of the other bundled detectors unless another one is asked for. -/
def usualGate : Number := .float Binary64.half

/-- The detector that asks the lexers of a syntax highlighter. -/
def ofLexers (lexers : Lexers) (gate : Number) : Except Fault Detector := do
  return {
    name := "pygments"
    displayName := "Pygments Lexer Detector"
    description := "Language detection using the lexer analysers of the Pygments syntax highlighter"
    gate := ← (gateOf gate).mapError .overflow
    strategy := .lexers lexers }

/-- The detector that asks a trained model. -/
def ofClassifier (classifier : Classifier) (gate : Number) : Except Fault Detector := do
  return {
    name := "ml-model"
    displayName := "ML Model Detector"
    description := "Machine learning based language detection using a pluggable classification " ++
      "model"
    gate := ← (gateOf gate).mapError .overflow
    strategy := .classifier classifier }

/-- A detector made by the user; it must have a name. -/
def ofCustom (name displayName description : String) (gate : Number) (custom : Custom) :
    Except Fault Detector := do
  if name.isEmpty then throw (.unnamed custom.kind)
  return {
    name, displayName, description
    gate := ← (gateOf gate).mapError .overflow
    strategy := .custom custom }

end Detector

end SnippetDetect
