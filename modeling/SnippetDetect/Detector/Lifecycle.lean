import SnippetDetect.Detector.Basic

/-!
A detector by a model, while several calls to it are under way.

A call waits at up to three points: for its turn to have the model made, for the model, and for
what the model predicts. In between it goes on at once. Calls take turns, and one that gets its
turn looks again whether the model has been made by now.

To dispose of the model also forgets who has the turn: calls that begin afterwards are a new round
and take turns among themselves. What a model source gives and what a model predicts comes from
outside, and may differ from one time to the next.
-/

namespace SnippetDetect

open SnippetDetect.Text

/-- What is asked of a detector by a model. -/
inductive Request where
  /-- To have the model made ahead of the first snippet. -/
  | prepare
  | detect (code : Snippet)

namespace Request

/-- Blank snippets are answered without a model. -/
def needsModel : Request → Bool
  | .prepare => true
  | .detect code => !code.isBlank

/-- Whether the model is run, once there is one. -/
def runsModel : Request → Bool
  | .prepare => false
  | .detect code => !code.isBlank

/-- What is answered when the model could not be made. Only who asked for the model is told. -/
def unmade (message : String) : Request → Except Fault (Option Detection)
  | .prepare => .error (.failed message)
  | .detect _ => .ok none

end Request

/-- How far a call has got. -/
inductive Stage where
  /-- It waits for its turn in a round. -/
  | queued (round : Nat)
  /-- It has its turn, and waits for the model. -/
  | making (round : Nat)
  | predicting
  | done (outcome : Except Fault (Option Detection))

namespace Stage

def isDone : Stage → Bool
  | .done _ => true
  | _ => false

/-- Whether it is the turn of a call at this stage in some round. -/
def holds (round : Nat) : Stage → Bool
  | .making other => other == round
  | _ => false

end Stage

/-- A call, with what was done on its behalf. -/
structure Call where
  request : Request
  stage : Stage
  /-- What came of having the model made. -/
  attempts : List ModelSource := []
  /-- How often the model was run. -/
  runs : Nat := 0

/-- What a call can wait for. -/
inductive Awaited where
  | turn
  | model (outcome : ModelSource)
  | predictions (outcome : Except String Json)

namespace Call

/-- Go on after it is settled whether there is a model. -/
def goOn (c : Classifier) (call : Call) : Classifier × Call :=
  match c.made, call.request with
  | some (some _), .detect _ =>
      ({ c with runs := c.runs + 1 }, { call with stage := .predicting, runs := call.runs + 1 })
  | _, _ => (c, { call with stage := .done (.ok none) })

/-- Begin a call in a round. -/
def start (round : Nat) (c : Classifier) (request : Request) : Classifier × Call :=
  if request.needsModel then
    match c.made with
    | some _ => goOn c { request, stage := .queued round }
    | none => (c, { request, stage := .queued round })
  else (c, { request, stage := .done (.ok none) })

/-- Use a turn to have the model made, unless that has happened in the meantime. -/
def takeTurn (round : Nat) (c : Classifier) (call : Call) : Classifier × Call :=
  match c.made with
  | some _ => call.goOn c
  | none => ({ c with created := c.created + 1 }, { call with stage := .making round })

/-- Take what came of having the model made. -/
def takeModel (c : Classifier) (call : Call) (outcome : ModelSource) : Classifier × Call :=
  let call := { call with attempts := call.attempts ++ [outcome] }
  match outcome with
  | .ok model => call.goOn { c with made := some model }
  | .error message => (c, { call with stage := .done (call.request.unmade message) })

/-- Answer by the best prediction, if the model gave any. -/
def takePredictions (d : Detector) (c : Classifier) (call : Call)
    (outcome : Except String Json) : Call :=
  let best := outcome.toOption.bind c.best?
  { call with
    stage := .done (.ok (best.bind fun (language, score) => d.answer? language score)) }

end Call

/-- A detector by a model and the calls made to it so far. -/
structure BusyClassifier where
  /-- The name and the gate that answers are given under. -/
  detector : Detector
  classifier : Classifier
  /-- How often the model was disposed of. -/
  round : Nat := 0
  calls : List Call := []

namespace BusyClassifier

/-- What can happen next. -/
inductive Move where
  | start (request : Request)
  /-- What a call has waited for is there. -/
  | resume (index : Nat) (awaited : Awaited)
  | dispose

/-- The detector as it is now. -/
def current (b : BusyClassifier) : Detector :=
  { b.detector with strategy := .classifier b.classifier }

/-- Whether some call has the turn in a round. -/
def isHeld (b : BusyClassifier) (round : Nat) : Bool := b.calls.any (·.stage.holds round)

/-- Whether no call is under way. -/
def isIdle (b : BusyClassifier) : Bool := b.calls.all (·.stage.isDone)

/-- A call after what it has waited for, if it has waited for that. -/
def advance? (b : BusyClassifier) (awaited : Awaited) (call : Call) : Option (Classifier × Call) :=
  match awaited, call.stage with
  | .turn, .queued round =>
      if b.isHeld round then none else some (call.takeTurn round b.classifier)
  | .model outcome, .making _ => some (call.takeModel b.classifier outcome)
  | .predictions outcome, .predicting =>
      some (b.classifier, call.takePredictions b.detector b.classifier outcome)
  | _, _ => none

def after (b : BusyClassifier) : Move → BusyClassifier
  | .start request =>
      let (classifier, call) := Call.start b.round b.classifier request
      { b with classifier, calls := b.calls ++ [call] }
  | .resume index awaited =>
      match b.calls[index]?.bind (b.advance? awaited) with
      | some (classifier, call) => { b with classifier, calls := b.calls.set index call }
      | none => b
  | .dispose => { b with classifier := b.classifier.dispose, round := b.round + 1 }

def run (b : BusyClassifier) (moves : List Move) : BusyClassifier := moves.foldl after b

end BusyClassifier

end SnippetDetect
