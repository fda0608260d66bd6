import SnippetDetect.Detection
import SnippetDetect.Language.Catalog
import SnippetDetect.Regex.Reader
import SnippetDetect.Snippet

/-!
Why an operation fails.

Every failure is a cause; `Fault.message` puts it into words.
-/

namespace SnippetDetect

/-- Why a value cannot stand for the members of an object. -/
inductive MembersFault where
  /-- A value of a kind that has no items. -/
  | noItems (kind : String)
  /-- An item of a kind that has no items. -/
  | itemWithoutParts (index : Nat)
  | itemLength (index length : Nat)
  /-- A name that is itself a list or an object. -/
  | compoundName (kind : String)
  deriving DecidableEq, Repr

def MembersFault.message : MembersFault → String
  | .noItems kind => "'" ++ kind ++ "' object is not iterable"
  | .itemWithoutParts index =>
      "cannot convert dictionary update sequence element #" ++ toString index ++ " to a sequence"
  | .itemLength index length =>
      "dictionary update sequence element #" ++ toString index ++ " has length " ++
        toString length ++ "; 2 is required"
  | .compoundName kind => "unhashable type: '" ++ kind ++ "'"

/-- Why settings are refused. -/
inductive SettingsFault where
  | thresholdOutOfRange
  | cacheSizeTooSmall
  | negativeCacheAge
  | unknownLogLevel
  | notAFloat (text : String)
  | notAnInteger (fault : Number.IntFault)
  deriving DecidableEq, Repr

def SettingsFault.message : SettingsFault → String
  | .thresholdOutOfRange => "confidence_threshold must be between 0 and 100"
  | .cacheSizeTooSmall => "cache_max_size must be at least 1"
  | .negativeCacheAge => "cache_max_age_seconds cannot be negative"
  | .unknownLogLevel => "log_level must be one of DEBUG, INFO, WARNING, ERROR, CRITICAL"
  | .notAFloat text => "could not convert string to float: " ++ Text.quoted text
  | .notAnInteger fault => fault.message

/-- What is wrong with a configuration that is written. -/
inductive ChangeFault where
  | notAnObject
  | detectionOrder
  | confidenceThreshold
  | allowedLanguages
  | detectorConfigs
  | detectorConfig (detector : String)
  | detectorThresholds
  | detectorThreshold (detector : String)
  /-- A detector refuses its part. -/
  | refused (detector reason : String)
  deriving DecidableEq, Repr

def ChangeFault.message : ChangeFault → String
  | .notAnObject => "Configuration must be a valid object"
  | .detectionOrder => "'detection_order' must be a list of detector names"
  | .confidenceThreshold => "'confidence_threshold' must be a number between 0 and 100"
  | .allowedLanguages => "'enabled_pattern_languages' must be a list of language names"
  | .detectorConfigs => "'detector_configs' must be an object keyed by detector name"
  | .detectorConfig detector => "Configuration for detector '" ++ detector ++ "' must be an object"
  | .detectorThresholds => "'detector_thresholds' must be an object keyed by detector name"
  | .detectorThreshold detector => "Threshold for detector '" ++ detector ++ "' must be a number"
  | .refused detector reason =>
      "Configuration for detector '" ++ detector ++ "' failed: " ++ reason

/-- Why an operation fails. -/
inductive Fault where
  | detection (fault : Detection.Fault)
  | overflow (fault : Overflow)
  /-- A detector without a name. -/
  | unnamed (kind : String)
  /-- A detector that failed while it looked at a snippet or was made ready. -/
  | failed (message : String)
  /-- A detector refuses a payload because of one of its names. -/
  | badPayload (name : String)
  | definition (fault : Language.Fault)
  | regex (refusal : Regex.Refusal)
  | members (fault : MembersFault)
  /-- A value of a kind without the member that is asked for. -/
  | noMember (kind member : String)
  /-- A configuration that is refused, with every reason. -/
  | configuration (faults : List ChangeFault)
  | cacheSizeTooSmall
  | settings (fault : SettingsFault)
  | catalog (fault : Catalog.Fault)
  | files (fault : Files.Fault)
  | encoding (error : Text.Utf8Error)
  /-- A snippet that is no text. -/
  | unencodable (error : Snippet.EncodeError)
  | json (fault : Json.Fault)
  deriving DecidableEq, Repr

def refusalMessage : Regex.Refusal → String
  | .malformed => "malformed regular expression"
  | .repetitionTooLarge => "the repetition number is too large"
  | .conflictingOptions => "ASCII and UNICODE flags are incompatible"
  | .tooManyDigits count => (Number.IntFault.tooManyDigits count).message

def Fault.message : Fault → String
  | .detection fault => fault.message
  | .overflow fault => fault.message
  | .unnamed kind => kind ++ " must define a detector name"
  | .failed message => message
  | .badPayload name => "bad payload: " ++ name
  | .definition fault => fault.message
  | .regex refusal => refusalMessage refusal
  | .members fault => fault.message
  | .noMember kind member => "'" ++ kind ++ "' object has no attribute '" ++ member ++ "'"
  | .configuration faults => "; ".intercalate (faults.map ChangeFault.message)
  | .cacheSizeTooSmall => "Cache max_size must be at least 1"
  | .settings fault => fault.message
  | .catalog fault => fault.message
  | .files fault => fault.message
  | .encoding error => error.message
  | .unencodable error => error.message
  | .json fault => fault.message

end SnippetDetect
