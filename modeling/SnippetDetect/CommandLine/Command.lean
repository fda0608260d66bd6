import SnippetDetect.CommandLine.Words
import SnippetDetect.Number.Reader
import SnippetDetect.Settings.LogLevel

/-!
The commands.

* `detect` detects the language of a snippet,
* `languages` lists the languages that are known,
* `config` shows, judges or imports the configuration.

The parts of a command take effect in the order in which they are written, up to one that
asks for help or cannot be accepted. An option written again replaces the earlier one.
-/

namespace SnippetDetect.CommandLine

/-- How to detect. -/
inductive Protocol where
  | first
  | all
  | analysis
  deriving DecidableEq, Repr

structure DetectRequest where
  /-- The file with the snippet. -/
  file : Option String := none
  protocol : Protocol := .first
  threshold : Option Binary64 := none
  order : Option String := none
  languages : Option String := none
  configFile : Option String := none
  asJson : Bool := false
  deriving DecidableEq, Repr

/-- What to do with the configuration. -/
inductive ConfigAction where
  | export
  | validate
  | import
  deriving DecidableEq, Repr

structure ConfigRequest where
  action : Option ConfigAction := none
  /-- The file to import. -/
  file : Option String := none
  configFile : Option String := none
  deriving DecidableEq, Repr

inductive Command where
  | detect (request : DetectRequest)
  | languages (asJson : Bool)
  | config (action : ConfigAction) (file configFile : Option String)
  deriving DecidableEq, Repr

/-! ### Detecting -/

inductive DetectPart where
  | help
  | file
  | all
  | analyze
  | threshold
  | order
  | languages
  | config
  | json
  deriving DecidableEq, Repr

def detectGrammar : Grammar DetectPart where
  names := [("-h", .help), ("--help", .help), ("--all", .all), ("--analyze", .analyze),
    ("--threshold", .threshold), ("--order", .order), ("--languages", .languages),
    ("--config", .config), ("--json", .json)]
  takesValue
    | .threshold | .order | .languages | .config => true
    | _ => false
  places := [(.file, .atMostOne)]

/-- Ask for a protocol; the two that can be asked for exclude each other. -/
def DetectRequest.ask (r : DetectRequest) (protocol : Protocol) : Except Stop DetectRequest :=
  if r.protocol = .first ∨ r.protocol = protocol then .ok { r with protocol }
  else .error .misuse

def DetectRequest.take (r : DetectRequest) (use : Use DetectPart) : Except Stop DetectRequest :=
  match use.part, use.values.head? with
  | .help, _ => .error .helpWanted
  | .file, file => .ok { r with file }
  | .all, _ => r.ask .all
  | .analyze, _ => r.ask .analysis
  | .threshold, value =>
      match value.bind Number.readFloat? with
      | some threshold => .ok { r with threshold := some threshold }
      | none => .error .misuse
  | .order, order => .ok { r with order }
  | .languages, languages => .ok { r with languages }
  | .config, configFile => .ok { r with configFile }
  | .json, _ => .ok { r with asJson := true }

/-! ### Listing languages -/

inductive LanguagesPart where
  | help
  | json
  deriving DecidableEq, Repr

def languagesGrammar : Grammar LanguagesPart where
  names := [("-h", .help), ("--help", .help), ("--json", .json)]
  takesValue _ := false
  places := []

def takeLanguagesPart (_ : Bool) (use : Use LanguagesPart) : Except Stop Bool :=
  match use.part with
  | .help => .error .helpWanted
  | .json => .ok true

/-! ### The configuration -/

inductive ConfigPart where
  | help
  | action
  | file
  | config
  deriving DecidableEq, Repr

def configGrammar : Grammar ConfigPart where
  names := [("-h", .help), ("--help", .help), ("--config", .config)]
  takesValue
    | .config => true
    | _ => false
  places := [(.action, .one), (.file, .atMostOne)]

def ConfigAction.ofName? : String → Option ConfigAction
  | "export" => some .export
  | "validate" => some .validate
  | "import" => some .import
  | _ => none

def ConfigRequest.take (r : ConfigRequest) (use : Use ConfigPart) : Except Stop ConfigRequest :=
  match use.part, use.values.head? with
  | .help, _ => .error .helpWanted
  | .action, name =>
      match name.bind ConfigAction.ofName? with
      | some action => .ok { r with action := some action }
      | none => .error .misuse
  | .file, file => .ok { r with file }
  | .config, configFile => .ok { r with configFile }

/-! ### All commands -/

inductive MainPart where
  | help
  | verbose
  | logLevel
  | command
  deriving DecidableEq, Repr

def mainGrammar : Grammar MainPart where
  names := [("-h", .help), ("--help", .help), ("--verbose", .verbose), ("-v", .verbose),
    ("--log-level", .logLevel)]
  takesValue
    | .logLevel => true
    | _ => false
  places := [(.command, .rest)]

/-- Read a command from its name and the words behind it. -/
def Command.ofWords? : List String → Except Stop Command
  | "detect" :: args => do
      return .detect (← (detectGrammar.read args).interpret DetectRequest.take {})
  | "languages" :: args => do
      return .languages (← (languagesGrammar.read args).interpret takeLanguagesPart false)
  | "config" :: args => do
      let request ← (configGrammar.read args).interpret ConfigRequest.take {}
      match request.action with
      | some action => return .config action request.file request.configFile
      | none => throw .misuse
  | _ => .error .misuse

def takeMainPart (command : Option Command) (use : Use MainPart) :
    Except Stop (Option Command) :=
  match use.part with
  | .help => .error .helpWanted
  | .verbose => .ok command
  | .logLevel =>
      match use.values with
      | [level] => if (LogLevel.ofName? level).isSome then .ok command else .error .misuse
      | _ => .error .misuse
  | .command => (Command.ofWords? use.values).map some

/-- Read a command line. -/
def Command.read (args : List String) : Except Stop Command := do
  match ← (mainGrammar.read args).interpret takeMainPart none with
  | some command => return command
  | none => throw .misuse

end SnippetDetect.CommandLine
