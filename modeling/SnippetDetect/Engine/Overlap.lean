import SnippetDetect.Engine.Session

/-!
Detections that overlap.

A detection hands its snippet to one detector after the other and waits for each answer. While it
waits the engine does other things: it begins further detections, goes on with others and is
written to. A detection asks the detectors that were enabled when it began, also one that has
been replaced or forgotten since. The global threshold, the allow-lists and the cache are those
that there are when an answer is taken up.
-/

namespace SnippetDetect

open SnippetDetect.Text

/-- A detector that a detection is going to ask. -/
inductive Held where
  | registered (name : String)
  /-- One that was replaced or forgotten, as it was then. -/
  | detached (d : Detector)

/-- A detection that waits for a detector. -/
structure Waiting where
  code : Snippet
  /-- The key under which an accepted answer is put into the cache, if it is. -/
  key : Option String
  asked : Held
  /-- The detectors to ask after that one. -/
  rest : List Held
  /-- What the detector answers, once it has done so. -/
  heard : Option (Option Detection)

/-- An engine and the detections that wait. -/
structure BusyEngine where
  engine : Engine
  waiting : List Waiting := []

/-- Whether an action replaces or forgets the detector under a name. -/
def Action.drops : Action → String → Bool
  | .register d, name => d.name == name
  | .unregister other, name => other == name
  | _, _ => false

/-- The detector that is held, after an action on the engine. -/
def Held.follow (e : Engine) (action : Action) : Held → Held
  | .registered name =>
      match action.drops name, e.registry.get? name with
      | true, some d => .detached d
      | _, _ => .registered name
  | .detached d => .detached d

/-- Whether an answer of the detector that is held reaches the threshold and is accepted. -/
def Held.admits (e : Engine) (answer : Detection) : Held → Bool
  | .registered name =>
      !answer.confidence.lt e.threshold &&
        (e.registry.get? name).any (·.accepts answer.language)
  | .detached d => !answer.confidence.lt e.threshold && d.accepts answer.language

namespace Waiting

/-- Whether an accepted answer is put into the cache. -/
def stores (w : Waiting) : Bool := w.key.isSome

/-- A detection that is about to ask these detectors, unless there are none left. -/
def next? (code : Snippet) (key : Option String) : List Held → Option Waiting
  | [] => none
  | asked :: rest => some { code, key, asked, rest, heard := none }

def follow (e : Engine) (action : Action) (w : Waiting) : Waiting :=
  { w with asked := w.asked.follow e action, rest := w.rest.map (·.follow e action) }

/-- The detector answers, if it has not done so yet. -/
def hear (e : Engine) (w : Waiting) : Engine × Waiting :=
  match w.heard, w.asked with
  | none, .registered name =>
      match e.registry.get? name with
      | none => (e, w)
      | some d =>
          let (answer, registry) := e.registry.ask d w.code
          ({ e with registry }, { w with heard := some answer })
  | none, .detached d =>
      (e, { w with
        heard := some (e.registry.ask d w.code).1
        asked := .detached (d.detect w.code).2 })
  | some _, _ => (e, w)

/-- Take up the answer, if there is one: an admitted answer ends the detection, else it goes on
to the next detector. -/
def resume (e : Engine) (w : Waiting) : Engine × Option Waiting :=
  match w.heard with
  | none => (e, some w)
  | some answer =>
      match answer.filter fun d => w.asked.admits e d with
      | some d => (w.key.elim e fun key => e.store key (some d), none)
      | none => (e, next? w.code w.key w.rest)

end Waiting

namespace BusyEngine

/-- What an engine with waiting detections can do next. -/
inductive Move where
  /-- Something that is done at once. -/
  | act (action : Action)
  | start (code : Snippet) (useCache : Option Bool)
  /-- The detector that a detection waits for answers. -/
  | hear (index : Nat)
  /-- A detection takes up the answer that it waited for. -/
  | resume (index : Nat)

/-- Begin a detection. A snippet that lacks a key it needs is refused, what the cache holds is
answered at once, and blank snippets have no language. -/
def start (b : BusyEngine) (code : Snippet) (useCache : Option Bool) : BusyEngine :=
  match b.engine.key? code (useCache.getD b.engine.cache.isSome) with
  | .error _ => b
  | .ok key =>
      let looked := key.elim (none, b.engine) b.engine.lookUp
      if looked.1.isSome || code.isBlank then { b with engine := looked.2 }
      else
        let held := looked.2.registry.inOrder.map fun d => Held.registered d.name
        { engine := looked.2, waiting := b.waiting ++ (Waiting.next? code key held).toList }

def after (b : BusyEngine) : Move → BusyEngine
  | .act action =>
      { engine := b.engine.after action, waiting := b.waiting.map (·.follow b.engine action) }
  | .start code useCache => b.start code useCache
  | .hear index =>
      match b.waiting[index]? with
      | none => b
      | some w =>
          let heard := w.hear b.engine
          { engine := heard.1, waiting := b.waiting.set index heard.2 }
  | .resume index =>
      match b.waiting[index]? with
      | none => b
      | some w =>
          let resumed := w.resume b.engine
          { engine := resumed.1
            waiting := b.waiting.take index ++ resumed.2.toList ++ b.waiting.drop (index + 1) }

def run (b : BusyEngine) (moves : List Move) : BusyEngine := moves.foldl after b

end BusyEngine

end SnippetDetect
