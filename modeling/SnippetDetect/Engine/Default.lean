import SnippetDetect.Engine.Exchange
import SnippetDetect.Language.Bundled
import SnippetDetect.Settings.Basic

/-!
The engine with the bundled detectors.

It compares snippets with the bundled languages, extended by those of a folder, and asks
lexers; a trained model is asked when there is one. Its settings become its configuration
at last, as far as it takes them.
-/

namespace SnippetDetect

namespace Settings

def engineOptions (s : Settings) : Engine.Options where
  threshold := s.threshold
  allowed := s.allowed
  useCache := s.useCache
  cacheSize := s.cacheSize
  cacheAge := s.cacheAge

/-- The languages to compare with. -/
def languages (s : Settings) (depth : Nat) (fs : Files) : Except Catalog.Fault Catalog :=
  match s.languagesFolder with
  | none => .ok Language.Bundled.catalog
  | some folder => (Catalog.load depth fs folder).map Language.Bundled.catalog.update

end Settings

namespace Engine

/-- The engine with the bundled detectors, under the settings. -/
def ofSettings (s : Settings) (classifier : Option Detector) (lexers : Lexers) (depth : Nat)
    (fs : Files) (clock : Binary64) : Except Fault Engine := do
  let e ← create s.engineOptions clock
  let e := classifier.elim e e.register
  let e := e.register (← Detector.ofLexers lexers Detector.usualGate)
  let languages ← (s.languages depth fs).mapError .catalog
  let e := e.register (← Detector.ofLanguages (languages.map (·.2)) Detector.languagesGate [])
  return (e.apply s.configuration).2

end Engine

end SnippetDetect
