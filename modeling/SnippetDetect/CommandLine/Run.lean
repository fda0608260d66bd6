import SnippetDetect.CommandLine.Command
import SnippetDetect.Engine.Default
import SnippetDetect.Engine.Detect
import SnippetDetect.Settings.Environment

/-!
Carrying out a command.

A command line that cannot be read is misuse, and so are settings in the environment and a
threshold that are out of range; the environment is looked at first. Then the engine is
made, a configuration file is imported, and what the options ask for is written over it.
What fails from there on is an error line.
-/

namespace SnippetDetect.CommandLine

/-- All that a command may look at. -/
structure Surroundings where
  environment : Environment
  files : Files
  /-- The bytes of the standard input. -/
  input : List Nat
  lexers : Lexers
  /-- How deep the containers of a JSON text may nest. -/
  depth : Nat
  clock : Binary64

/-- What a command prints and its exit status. -/
structure Printout where
  status : Nat
  lines : List String := []
  errors : List String := []
  deriving DecidableEq, Repr

/-- What becomes of a command line. -/
inductive Outcome where
  | help
  /-- Misuse, with a reason where it is not the command line itself that cannot be read. -/
  | misuse (reason : Option String)
  | printed (printout : Printout)
  deriving DecidableEq, Repr

/-- Why a command fails. -/
inductive Failure where
  | fault (cause : Fault)
  | configurationFile (errors : List String)
  | options (errors : List String)
  deriving DecidableEq, Repr

def Failure.message : Failure → String
  | .fault cause => cause.message
  | .configurationFile errors => "Invalid configuration file: " ++ "; ".intercalate errors
  | .options errors => "; ".intercalate errors

/-- The lines as a text, each with its end. -/
def textOf (lines : List String) : String := String.join (lines.map (· ++ "\n"))

/-! ### Sources -/

/-- The text of a file. -/
def readFile (s : Surroundings) (path : String) : Except Failure String := do
  let bytes ← (s.files.bytes (FilePath.ofString path)).mapError (.fault ∘ .files)
  (Files.decode bytes).mapError (.fault ∘ .encoding)

/-- The text of a file, or of the standard input when there is no file or it is called `-`. -/
def readSource (s : Surroundings) : Option String → Except Failure String
  | none | some "-" => (Files.decode s.input).mapError (.fault ∘ .encoding)
  | some path => readFile s path

/-! ### The engine -/

/-- Import a configuration file. -/
def importFile (s : Surroundings) (e : Engine) (path : String) : Except Failure Engine := do
  let (outcome, e) := e.importText s.depth (← readFile s path)
  let report ← outcome.mapError .fault
  if report.success then return e else throw (.configurationFile report.errors)

/-- What the options for detection change in the configuration. An empty order does not count. -/
def overrides (r : DetectRequest) : Members :=
  let order := (r.order.filter (!·.isEmpty)).map fun o =>
    ("detection_order", Json.ofStrings (Settings.items o))
  let threshold := r.threshold.map fun t => ("confidence_threshold", Json.num (.float t))
  let languages := r.languages.map fun l =>
    ("enabled_pattern_languages", Json.ofStrings (Settings.items l))
  order.toList ++ threshold.toList ++ languages.toList

/-- Write what the options ask for over the configuration. -/
def override (e : Engine) (changes : Members) : Except Failure Engine :=
  if changes.isEmpty then .ok e
  else
    let (report, e) := e.apply (.obj changes)
    if report.success then .ok e else .error (.options report.errors)

def Command.configFile : Command → Option String
  | .detect r => r.configFile
  | .languages _ => none
  | .config _ _ configFile => configFile

def Command.overrides : Command → Members
  | .detect r => CommandLine.overrides r
  | _ => []

/-- The engine a command works with. -/
def makeEngine (s : Surroundings) (settings : Settings) (c : Command) :
    Except Failure Engine := do
  let e ← (Engine.ofSettings settings none s.lexers s.depth s.files s.clock).mapError .fault
  let e ← match c.configFile.filter (!·.isEmpty) with
    | some path => importFile s e path
    | none => pure e
  override e c.overrides

/-! ### Commands -/

/-- A language and the confidence in it, in words. -/
def inWords (d : Detection) : String :=
  d.language ++ " (" ++ d.confidence.text Binary64.plain ++ "%)"

def jsonLines (value : Json) : List String := [value.text (some 2)]

def printAnalysis (a : Analysis) (asJson : Bool) : Printout where
  status := if a.primary.isSome then 0 else 1
  lines :=
    if asJson then jsonLines a.toJson
    else
      ["Primary: " ++ a.primary.elim "none" inWords] ++
      a.alternatives.map (fun d => "Alternative: " ++ inWords d ++ " via " ++ d.source) ++
      a.fallbacks.map (fun d => "Fallback: " ++ inWords d ++ " via " ++ d.source) ++
      ["Consensus: " ++ a.summary.consensus.getD "none"]

def printAll (ds : List Detection) (asJson : Bool) : Printout where
  status := if ds.isEmpty then 1 else 0
  lines :=
    if asJson then jsonLines (.arr (ds.map Detection.toJson))
    else ds.map fun d => d.source ++ ": " ++ inWords d

def printFirst (d : Option Detection) (asJson : Bool) : Printout where
  status := if d.isSome then 0 else 1
  lines :=
    if asJson then jsonLines (d.elim .null Detection.toJson)
    else [d.elim "unknown" inWords]

def runDetect (e : Engine) (code : String) (r : DetectRequest) : Except Failure Printout :=
  match r.protocol with
  | .analysis => .ok (printAnalysis (e.analyze code none true true).1 r.asJson)
  | .all => .ok (printAll (e.detectAll code).1 r.asJson)
  | .first => do
      let found ← (e.detect code e.cache.isSome).1.mapError .fault
      return printFirst found r.asJson

def runLanguages (e : Engine) (asJson : Bool) : Printout where
  status := 0
  lines :=
    if asJson then [(Json.ofStrings e.languages).text none]
    else ["\n".intercalate e.languages]

def exportLines (e : Engine) : List String := [e.exportText (some 2)]

def runValidate (e : Engine) : Printout :=
  let v := e.validate
  { status := if v.isValid then 0 else 1
    lines :=
      ["Status: " ++ e.summary.status] ++ v.issues.map ("Issue: " ++ ·) ++
      v.warnings.map ("Warning: " ++ ·) ++ v.recommendations.map ("Recommendation: " ++ ·) }

def runImport (e : Engine) (depth : Nat) (text : String) : Except Failure Printout := do
  let (outcome, e) := e.importText depth text
  let report ← outcome.mapError .fault
  let warnings := report.warnings.map ("Warning: " ++ ·)
  if report.success then
    return { status := 0, lines := warnings ++ ["Configuration imported"] ++ exportLines e }
  else
    return { status := 1, lines := warnings, errors := report.errors.map ("Error: " ++ ·) }

/-- Carry out a command with its engine. -/
def Command.runWith (s : Surroundings) (e : Engine) : Command → Except Failure Printout
  | .detect r => do runDetect e (← readSource s r.file) r
  | .languages asJson => .ok (runLanguages e asJson)
  | .config .export _ _ => .ok { status := 0, lines := exportLines e }
  | .config .validate _ _ => .ok (runValidate e)
  | .config .import file _ => do runImport e s.depth (← readSource s file)

/-- Carry out a command. -/
def Command.run (s : Surroundings) (settings : Settings) (c : Command) : Printout :=
  match makeEngine s settings c >>= fun e => c.runWith s e with
  | .ok printout => printout
  | .error failure => { status := 1, errors := ["Error: " ++ failure.message] }

/-- Whether the threshold that a command asks for is out of range. -/
def Command.isOutOfRange : Command → Bool
  | .detect r => r.threshold.elim false fun t => !(Number.float t).within 0 100
  | _ => false

/-- Read and carry out a command line. -/
def run (s : Surroundings) (args : List String) : Outcome :=
  match Command.read args with
  | .error .helpWanted => .help
  | .error .misuse => .misuse none
  | .ok command =>
      match Settings.ofEnvironment s.environment with
      | .error fault => .misuse (some ("Invalid environment configuration: " ++ fault.message))
      | .ok settings =>
          if command.isOutOfRange then .misuse (some "--threshold must be between 0 and 100")
          else .printed (command.run s settings)

end SnippetDetect.CommandLine
