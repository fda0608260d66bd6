import SnippetDetect.Settings.Basic

/-!
Settings from environment variables.

A variable that is not set leaves the default, and so does one that is set to nothing,
unless its value is a list: a list may be empty. The values are read in a fixed order, and
the first that cannot be read is told before any range is looked at.
-/

namespace SnippetDetect

open SnippetDetect.Text

/-- Environment variables and their values. -/
abbrev Environment := List (String × String)

namespace Settings

/-- The words for yes, in lower case. -/
def yesWords : List String := ["1", "true", "yes", "on"]

def isYes (s : String) : Bool := yesWords.contains (lower (strip s))

/-- The value of a variable, if it is set. -/
def listed? (env : Environment) (name : String) : Option String := env.lookup name

/-- The value of a variable, if it is set to anything. -/
def given? (env : Environment) (name : String) : Option String :=
  (env.lookup name).filter fun value => !value.isEmpty

def readThreshold (s : String) : Except SettingsFault Number :=
  match Number.readFloat? s with
  | some x => .ok (.float x)
  | none => .error (.notAFloat s)

def readCount (s : String) : Except SettingsFault Int :=
  (Number.readInt s).mapError .notAnInteger

/-- What the environment asks for. -/
def wishes (env : Environment) : Except SettingsFault Wishes := do
  let d : Wishes := {}
  let threshold ← (given? env "FENCE_LANG_CONFIDENCE_THRESHOLD").mapM readThreshold
  let cacheSize ← (given? env "FENCE_LANG_CACHE_SIZE").mapM readCount
  let cacheAge ← (given? env "FENCE_LANG_CACHE_MAX_AGE").mapM readCount
  return {
    threshold := threshold.getD d.threshold
    order := ((listed? env "FENCE_LANG_DETECTION_ORDER").map items).getD d.order
    allowed := ((listed? env "FENCE_LANG_PATTERN_LANGUAGES").map items).getD d.allowed
    useCache := ((given? env "FENCE_LANG_CACHE").map isYes).getD d.useCache
    cacheSize := cacheSize.getD d.cacheSize
    cacheAge := cacheAge.getD d.cacheAge
    languagesFolder := (given? env "FENCE_LANG_PATTERNS_DIR").map FilePath.ofString
    logLevel := (given? env "FENCE_LANG_LOG_LEVEL").getD d.logLevel }

def ofEnvironment (env : Environment) : Except SettingsFault Settings := do
  ofWishes (← wishes env)

end Settings

end SnippetDetect
