/-!
Levels of logging.

A level has a name in upper case; what matters more comes later. No log is kept here.
-/

namespace SnippetDetect

/-- How much is logged. -/
inductive LogLevel where
  | debug
  | info
  | warning
  | error
  | critical
  deriving DecidableEq, Repr

namespace LogLevel

def name : LogLevel → String
  | .debug => "DEBUG"
  | .info => "INFO"
  | .warning => "WARNING"
  | .error => "ERROR"
  | .critical => "CRITICAL"

def all : List LogLevel := [.debug, .info, .warning, .error, .critical]

/-- The level of this name, in upper case. -/
def ofName? (name : String) : Option LogLevel := all.find? fun level => level.name = name

end LogLevel

end SnippetDetect
