import SnippetDetect.Engine.Detect
import SnippetDetect.Engine.Exchange

/-!
Sessions: one action after the other on an engine.

An action is whatever a caller can do with an engine that changes it or asks it for a
language. `Engine.after` gives the engine that an action leaves behind, also when the action is
refused, and `Engine.answers` what the detections of a session answer.
-/

namespace SnippetDetect

/-- What a caller can do with an engine. -/
inductive Action where
  | register (d : Detector)
  | unregister (name : String)
  /-- Detect, with the cache used as the engine has one unless the caller says. -/
  | detect (code : Snippet) (useCache : Option Bool)
  | detectAll (code : Snippet)
  | detectWith (code : Snippet) (name : String)
  | analyze (code : Snippet) (threshold : Option Number) (alternatives fallbacks : Bool)
  | configure (config : Json)
  | apply (config : Json)
  /-- Import a text; how deep its containers may nest is up to the caller. -/
  | importText (depth : Nat) (text : String)
  | changeThreshold (value : Number)
  | changeDetectorThreshold (name : String) (value : Number)
  | changeOrder (names : List String)
  | changeEnabled (name : String) (enabled : Bool)
  | changeAllowed (languages : List String)
  | configureDetector (name : String) (payload : Json)
  | reset
  | advance (seconds : Number)

namespace Engine

/-- Detect, by the cache unless the caller says otherwise. -/
def detectDefault (e : Engine) (code : Snippet) (useCache : Option Bool) :
    Except Fault (Option Detection) × Engine :=
  e.detect code (useCache.getD e.cache.isSome)

/-- The engine after an action. -/
def after (e : Engine) : Action → Engine
  | .register d => e.register d
  | .unregister name => (e.unregister name).2
  | .detect code useCache => (e.detectDefault code useCache).2
  | .detectAll code => (e.detectAll code).2
  | .detectWith code name => (e.detectWith code name).2
  | .analyze code threshold alternatives fallbacks =>
      (e.analyze code threshold alternatives fallbacks).2
  | .configure config => (e.configure config).2
  | .apply config => (e.apply config).2
  | .importText depth text => (e.importText depth text).2
  | .changeThreshold value => e.changeThreshold value
  | .changeDetectorThreshold name value => (e.changeDetectorThreshold name value).2
  | .changeOrder names => e.changeOrder names
  | .changeEnabled name enabled => e.changeEnabled name enabled
  | .changeAllowed languages => e.changeAllowed languages
  | .configureDetector name payload => (e.configureDetector name payload).2
  | .reset => e.reset
  | .advance seconds =>
      match e.advance seconds with
      | .ok later => later
      | .error _ => e

/-- The engine after a session. -/
def run (e : Engine) (actions : List Action) : Engine := actions.foldl after e

/-- What an action answers, if it is a detection. -/
def answer? (e : Engine) : Action → Option (Except Fault (Option Detection))
  | .detect code useCache => some (e.detectDefault code useCache).1
  | _ => none

/-- What the detections of a session answer, in turn. -/
def answers (e : Engine) : List Action → List (Except Fault (Option Detection))
  | [] => []
  | action :: rest => (e.answer? action).toList ++ (e.after action).answers rest

end Engine

end SnippetDetect
