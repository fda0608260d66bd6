import SnippetDetect.Engine.Configuration
import SnippetDetect.Json.Reader
import SnippetDetect.Json.Writer

/-!
Judging a configuration, and handing it over as text.

Issues keep an engine from detecting, warnings hint at poor results, recommendations at
better ones. To import a text is to read it, to write what it says and to judge the
result; texts that are no JSON and configurations that are refused are reported.
-/

namespace SnippetDetect

/-- A judgement on the configuration of an engine. -/
structure Validation where
  issues : List String
  warnings : List String
  recommendations : List String
  deriving DecidableEq, Repr

def Validation.isValid (v : Validation) : Bool := v.issues.isEmpty

/-- What became of a configuration that was handed over. -/
structure ImportReport where
  success : Bool
  errors : List String
  warnings : List String
  deriving DecidableEq, Repr

/-- A configuration in short. -/
structure ConfigurationSummary where
  order : List String
  threshold : Number
  allowed : Nat
  languages : Nat
  status : String
  deriving DecidableEq, Repr

namespace Engine

/-- Below this threshold nearly everything is accepted. -/
def lowThreshold : Number := 10

/-- Above this threshold nearly nothing is accepted. -/
def highThreshold : Number := 90

/-- An engine that knows fewer languages is of little use. -/
def fewLanguages : Nat := 5

def thresholdWarnings (e : Engine) : List String :=
  if e.threshold.lt lowThreshold then
    ["Very low confidence threshold may result in false positives"]
  else if highThreshold.lt e.threshold then
    ["Very high confidence threshold may result in missed detections"]
  else []

/-- A warning for each enabled detector that could have an allow-list, when there is none. -/
def allowedWarnings (e : Engine) : List String :=
  if e.allowed.isEmpty then
    (e.registry.inOrder.filter (·.isSelectable)).map fun d =>
      d.info.displayName ++ " is enabled but no languages are configured; all loaded languages " ++
        "will be used"
  else []

def coverageWarnings (e : Engine) : List String :=
  if e.registry.size ≠ 0 ∧ e.languages.length < fewLanguages then
    ["Limited language support detected"] else []

def issues (e : Engine) : List String :=
  (if e.canDetect then [] else ["Orchestrator configuration is invalid"]) ++
  (if e.registry.size = 0 then ["No detectors are registered"] else []) ++
  (if e.registry.order.isEmpty then ["No detectors are enabled"] else [])

def recommendations (e : Engine) : List String :=
  let enabled := e.registry.order.length
  let available := e.registry.size
  (if enabled = 1 then ["Consider enabling multiple detectors for better accuracy"] else []) ++
  (if 0 < enabled ∧ enabled < available then
    ["Consider enabling more detectors (" ++ toString enabled ++ "/" ++ toString available ++
      " active)"] else [])

/-- Judge the configuration. -/
def validate (e : Engine) : Validation where
  issues := e.issues
  warnings := e.thresholdWarnings ++ e.allowedWarnings ++ e.coverageWarnings
  recommendations := e.recommendations

def summary (e : Engine) : ConfigurationSummary :=
  let v := e.validate
  { order := e.registry.order
    threshold := e.threshold
    allowed := e.allowed.length
    languages := e.languages.length
    status := if !v.isValid then "error" else if v.warnings.isEmpty then "healthy" else "warning" }

/-! ### Handing over -/

/-- Write a configuration and judge the result. -/
def apply (e : Engine) (config : Json) : ImportReport × Engine :=
  match e.configure config with
  | (.error faults, e) => (⟨false, faults.map ChangeFault.message, []⟩, e)
  | (.ok (), e) =>
      let v := e.validate
      (⟨v.isValid, v.issues, v.warnings⟩, e)

/-- The configuration as text, on one line or laid out. -/
def exportText (e : Engine) (step : Option Nat) : String := e.configuration.text step

def parseFailure (reason : String) : ImportReport :=
  ⟨false, ["Failed to parse configuration: " ++ reason], []⟩

/-- Import a text. One that exceeds a limit of the reader, to which containers may nest `depth` deep,
is a failure and not a report. -/
def importText (e : Engine) (depth : Nat) (text : String) : Except Fault ImportReport × Engine :=
  match Json.parse depth text with
  | .ok config =>
      let (report, e) := e.apply config
      (.ok report, e)
  | .error (.malformed problem place) =>
      (.ok (parseFailure (Json.Fault.malformed problem place).message), e)
  | .error fault => (.error (.json fault), e)

/-- Import a value that should be a text. -/
def importValue (e : Engine) (depth : Nat) : Json → Except Fault ImportReport × Engine
  | .str text => e.importText depth text
  | value =>
      (.ok (parseFailure ("the JSON object must be str, bytes or bytearray, not " ++
        value.kindName)), e)

/-- Import what the engine itself exports. -/
def roundTrip (e : Engine) (depth : Nat) : Except Fault ImportReport × Engine :=
  e.importText depth (e.exportText (some 2))

end Engine

end SnippetDetect
