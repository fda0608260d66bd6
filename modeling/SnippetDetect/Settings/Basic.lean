import SnippetDetect.Engine.Configuration
import SnippetDetect.Files
import SnippetDetect.Settings.LogLevel
import SnippetDetect.Text.Search

/-!
Settings an engine starts with.

Wishes come from a caller or from the environment. They become settings when they are in
range; of several faults the first is told, in the order threshold, size of the cache, age
of its entries, log level.
-/

namespace SnippetDetect

open SnippetDetect.Text

structure Settings where
  threshold : Number
  order : List String
  allowed : List String
  useCache : Bool
  cacheSize : Int
  cacheAge : Int
  /-- A folder with further languages. -/
  languagesFolder : Option FilePath
  logLevel : LogLevel

namespace Settings

/-- What is asked of the settings; the rest has its default. -/
structure Wishes where
  threshold : Number := Engine.defaultThreshold
  order : List String := Engine.defaultOrder
  allowed : List String := Engine.defaultAllowed
  useCache : Bool := true
  cacheSize : Int := 1000
  cacheAge : Int := 3600
  languagesFolder : Option FilePath := none
  logLevel : String := "WARNING"

/-- The settings that are asked for, when all of them are in range. The name of the log level may be
in any case. -/
def ofWishes (w : Wishes) : Except SettingsFault Settings := do
  if !w.threshold.within 0 100 then throw .thresholdOutOfRange
  if w.cacheSize < 1 then throw .cacheSizeTooSmall
  if w.cacheAge < 0 then throw .negativeCacheAge
  match LogLevel.ofName? (upper w.logLevel) with
  | none => throw .unknownLogLevel
  | some logLevel =>
      return {
        threshold := w.threshold, order := w.order, allowed := w.allowed
        useCache := w.useCache, cacheSize := w.cacheSize, cacheAge := w.cacheAge
        languagesFolder := w.languagesFolder, logLevel }

/-- The items of a list that is written with commas, without blank ends; blank items do not count. -/
def items (s : String) : List String :=
  ((splitAt ',' s.toList).map fun item => strip (String.ofList item)).filter (!·.isEmpty)

/-- The settings as the configuration of an engine. -/
def configuration (s : Settings) : Json :=
  .obj [("detection_order", .ofStrings s.order), ("confidence_threshold", .num s.threshold),
    ("enabled_pattern_languages", .ofStrings s.allowed)]

end Settings

end SnippetDetect
