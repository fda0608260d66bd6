import SnippetDetect.Detector.Lifecycle
import SnippetDetect.Proofs.Detector

/-!
What becomes of calls to a detector by a model.

A stretch is a part of a run without a disposal, from a moment at which there is no model and no
call is under way. What each of its calls did is kept with the call, and the counters of the
classifier are the sums of that (`BusyClassifier.Account`). The stages a call can go through are in
`Call.OnCourse`, and what one step adds to the sums is in `Call.Step`: only one call at a time has
the model made, and none does once there is one. So every move but a disposal keeps the account
(`Account.after`), and so does a whole stretch (`Account.run`).
-/

namespace SnippetDetect

open SnippetDetect.Text

/-! ### What becomes of a call -/

theorem Request.runsModel_of_free {request : Request} (free : request.needsModel = false) :
    request.runsModel = false := by
  cases request with
  | prepare => cases free
  | detect code => exact free

namespace Call

/-- The call had the model made itself, or found it made. -/
def Found (model : Option Model) (attempts : List ModelSource) : Prop :=
  attempts = [] ∨ attempts = [.ok model]

/-- The call had the model made, which failed, and it answers so. -/
def Failed (call : Call) : Prop :=
  ∃ message, call.attempts = [.error message] ∧ call.runs = 0 ∧
    call.stage = .done (call.request.unmade message)

/-- What can have become of a call that began in this round, by the model that there is. -/
inductive OnCourse (round : Nat) (made : Option (Option Model)) : Call → Prop
  | blank {request : Request} (free : request.needsModel = false) :
      OnCourse round made ⟨request, .done (.ok none), [], 0⟩
  | queued {request : Request} (needs : request.needsModel = true) :
      OnCourse round made ⟨request, .queued round, [], 0⟩
  | making {request : Request} (needs : request.needsModel = true) (unmade : made = none) :
      OnCourse round made ⟨request, .making round, [], 0⟩
  | failed {request : Request} (needs : request.needsModel = true) (message : String) :
      OnCourse round made ⟨request, .done (request.unmade message), [.error message], 0⟩
  | predicting {code : Snippet} {model : Model} {attempts : List ModelSource}
      (asked : code.isBlank = false) (there : made = some (some model))
      (found : Found (some model) attempts) :
      OnCourse round made ⟨.detect code, .predicting, attempts, 1⟩
  | answered {code : Snippet} {model : Model} {attempts : List ModelSource}
      {answer : Option Detection} (asked : code.isBlank = false)
      (there : made = some (some model)) (found : Found (some model) attempts) :
      OnCourse round made ⟨.detect code, .done (.ok answer), attempts, 1⟩
  | prepared {model : Option Model} {attempts : List ModelSource} (there : made = some model)
      (found : Found model attempts) :
      OnCourse round made ⟨.prepare, .done (.ok none), attempts, 0⟩
  | without {code : Snippet} {attempts : List ModelSource} (asked : code.isBlank = false)
      (there : made = some none) (found : Found none attempts) :
      OnCourse round made ⟨.detect code, .done (.ok none), attempts, 0⟩

/-- Whether the call has the model made now, as a number. -/
def makes (call : Call) : Nat :=
  match call.stage with
  | .making _ => 1
  | _ => 0

/-- How often the call had the model made and got an answer. -/
def successes (call : Call) : Nat := call.attempts.countP (·.isOk)

variable {round : Nat} {made : Option (Option Model)} {c c' : Classifier} {call call' : Call}

/-- A model that is made disturbs no call but the one that has it made. -/
theorem OnCourse.of_made (course : call.OnCourse round none) (idle : call.makes = 0)
    (model : Option Model) : call.OnCourse round (some model) := by
  cases course with
  | blank free => exact .blank free
  | queued needs => exact .queued needs
  | making needs => cases idle
  | failed needs message => exact .failed needs message
  | predicting _ there => cases there
  | answered _ there => cases there
  | prepared there => cases there
  | without _ there => cases there

/-- What one step of a call does to the classifier and to the call, in figures. -/
structure Step (round : Nat) (c : Classifier) (call : Call) (c' : Classifier) (call' : Call) :
    Prop where
  request : call'.request = call.request
  course : call'.OnCourse round c'.made
  made : c'.made = c.made ∨ c.made = none ∧ call.makes = 1
  created : c'.created + call.attempts.length + call.makes =
    c.created + call'.attempts.length + call'.makes
  runs : c'.runs + call.runs = c.runs + call'.runs
  successes : c'.made.isSome.toNat + call.successes = c.made.isSome.toNat + call'.successes

/-- A call that needs the model goes on when there is one, or is known to be none. -/
theorem step_goOn {model : Option Model} (there : c.made = some model)
    (needs : call.request.needsModel = true) (found : Found model call.attempts)
    (fresh : call.runs = 0) (idle : call.makes = 0) :
    Step round c call (call.goOn c).1 (call.goOn c).2 := by
  obtain ⟨request, stage, attempts, runs⟩ := call
  obtain rfl : runs = 0 := fresh
  cases request with
  | prepare =>
    have ends : Call.goOn c ⟨.prepare, stage, attempts, 0⟩ =
        (c, ⟨.prepare, .done (.ok none), attempts, 0⟩) := by
      simp [goOn]
    rw [ends]
    exact ⟨rfl, .prepared there found, .inl rfl, by rw [idle]; rfl, rfl, rfl⟩
  | detect code =>
    have asked : code.isBlank = false := by simpa [Request.needsModel] using needs
    cases model with
    | none =>
      have ends : Call.goOn c ⟨.detect code, stage, attempts, 0⟩ =
          (c, ⟨.detect code, .done (.ok none), attempts, 0⟩) := by
        simp [goOn, there]
      rw [ends]
      exact ⟨rfl, .without asked there found, .inl rfl, by rw [idle]; rfl, rfl, rfl⟩
    | some model =>
      have asks : Call.goOn c ⟨.detect code, stage, attempts, 0⟩ =
          ({ c with runs := c.runs + 1 }, ⟨.detect code, .predicting, attempts, 1⟩) := by
        simp [goOn, there]
      rw [asks]
      exact ⟨rfl, .predicting asked there found, .inl rfl, by rw [idle]; rfl, rfl, rfl⟩

/-- How a call goes on does not depend on what it has waited for. -/
theorem goOn_withStage (c : Classifier) (call : Call) (stage : Stage) :
    goOn c { call with stage } = goOn c call := by
  obtain ⟨request, before, attempts, runs⟩ := call
  unfold goOn
  cases c.made with
  | none => rfl
  | some model => cases model <;> cases request <;> rfl

theorem makes_goOn (c : Classifier) (call : Call) : (call.goOn c).2.makes = 0 := by
  unfold goOn
  split <;> rfl

theorem attempts_goOn (c : Classifier) (call : Call) :
    (call.goOn c).2.attempts = call.attempts := by
  unfold goOn
  split <;> rfl

theorem attempts_start (round : Nat) (c : Classifier) (request : Request) :
    (Call.start round c request).2.attempts = [] := by
  unfold Call.start
  split
  · split
    · exact attempts_goOn c _
    · rfl
  · rfl

theorem attempts_takeTurn (round : Nat) (c : Classifier) (call : Call) :
    (call.takeTurn round c).2.attempts = call.attempts := by
  unfold takeTurn
  split
  · exact attempts_goOn c call
  · rfl

theorem attempts_takeModel (c : Classifier) (call : Call) (outcome : ModelSource) :
    (call.takeModel c outcome).2.attempts = call.attempts ++ [outcome] := by
  cases outcome with
  | error message => rfl
  | ok model => exact attempts_goOn _ _

/-- A call begins like one that waits for its turn, and goes on if it need not. -/
theorem step_start (round : Nat) (c : Classifier) (request : Request) :
    Step round c ⟨request, .queued round, [], 0⟩ (Call.start round c request).1
        (Call.start round c request).2 ∧ (Call.start round c request).2.makes = 0 := by
  by_cases needs : request.needsModel = true
  · cases there : c.made with
    | none =>
      have waits : Call.start round c request = (c, ⟨request, .queued round, [], 0⟩) := by
        simp [Call.start, needs, there]
      rw [waits]
      exact ⟨⟨rfl, .queued needs, .inl rfl, rfl, rfl, rfl⟩, rfl⟩
    | some model =>
      have goes : Call.start round c request = goOn c ⟨request, .queued round, [], 0⟩ := by
        simp [Call.start, needs, there]
      rw [goes]
      exact ⟨step_goOn there needs (.inl rfl) rfl rfl, makes_goOn c _⟩
  · have free : request.needsModel = false := by simpa using needs
    have ends : Call.start round c request = (c, ⟨request, .done (.ok none), [], 0⟩) := by
      simp [Call.start, free]
    rw [ends]
    exact ⟨⟨rfl, .blank free, .inl rfl, rfl, rfl, rfl⟩, rfl⟩

/-- A turn is used to have the model made, or it was made before. -/
theorem step_takeTurn (course : call.OnCourse round c.made) {other : Nat}
    (queued : call.stage = .queued other) : other = round ∧
      Step round c call (call.takeTurn round c).1 (call.takeTurn round c).2 := by
  cases course with
  | queued needs =>
    cases queued
    refine ⟨rfl, ?_⟩
    unfold takeTurn
    split
    · next model there => exact step_goOn there needs (.inl rfl) rfl rfl
    · next none => exact ⟨rfl, .making needs none, .inl rfl, rfl, rfl, rfl⟩
  | _ => cases queued

/-- What came of having the model made ends the call, or lets it go on. -/
theorem step_takeModel (course : call.OnCourse round c.made) {other : Nat}
    (making : call.stage = .making other) (outcome : ModelSource) :
    Step round c call (call.takeModel c outcome).1 (call.takeModel c outcome).2 ∧
      (call.takeModel c outcome).2.makes = 0 := by
  cases course with
  | making needs none =>
    rename_i request
    cases making
    cases outcome with
    | error message =>
      exact ⟨⟨rfl, .failed needs message, .inl rfl, rfl, rfl, rfl⟩, rfl⟩
    | ok model =>
      let taken : Call := ⟨request, .making round, [.ok model], 0⟩
      let later : Classifier := { c with made := some model }
      have goes : Call.takeModel c ⟨request, .making round, [], 0⟩ (.ok model) =
          taken.goOn later := rfl
      rw [goes]
      refine ⟨?_, makes_goOn later taken⟩
      rw [← goOn_withStage later taken (.queued round)]
      let told : Call := { taken with stage := .queued round }
      have on : Step round later told (told.goOn later).1 (told.goOn later).2 :=
        step_goOn rfl needs (.inr rfl) rfl rfl
      have made : (told.goOn later).1.made = some model := by
        rcases on.made with same | ⟨absent, -⟩
        · exact same
        · cases absent
      have created := on.created
      have successes : 1 + 1 = 1 + (told.goOn later).2.successes := by
        have kept := on.successes
        rw [made] at kept
        exact kept
      refine ⟨on.request, on.course, .inr ⟨none, rfl⟩, ?_, on.runs, ?_⟩
      · simpa [told, taken, later, makes] using created
      · rw [made, none]
        show 1 + 0 = 0 + (told.goOn later).2.successes
        omega
  | _ => cases making

/-- A prediction ends the call. -/
theorem step_takePredictions (course : call.OnCourse round c.made)
    (predicting : call.stage = .predicting) (d : Detector) (outcome : Except String Json) :
    Step round c call c (call.takePredictions d c outcome) ∧
      (call.takePredictions d c outcome).makes = 0 := by
  cases course with
  | predicting asked there found =>
    exact ⟨⟨rfl, .answered asked there found, .inl rfl, rfl, rfl, rfl⟩, rfl⟩
  | _ => cases predicting

/-- A call that needs no model ends without one. -/
theorem OnCourse.of_free (course : call.OnCourse round made)
    (free : call.request.needsModel = false) :
    call.attempts = [] ∧ call.runs = 0 ∧ call.stage = .done (.ok none) := by
  cases course with
  | blank _ => exact ⟨rfl, rfl, rfl⟩
  | queued needs => simp [needs] at free
  | making needs _ => simp [needs] at free
  | failed needs _ => simp [needs] at free
  | prepared _ _ => cases free
  | predicting asked _ _ => simp [Request.needsModel, asked] at free
  | answered asked _ _ => simp [Request.needsModel, asked] at free
  | without asked _ _ => simp [Request.needsModel, asked] at free

/-- A call that needs the model and has ended failed to have it made, or it knew of the model. -/
theorem OnCourse.of_needs (course : call.OnCourse round made)
    (needs : call.request.needsModel = true) (done : call.stage.isDone = true) :
    call.Failed ∨ ∃ model, made = some model ∧ Found model call.attempts ∧
      call.runs = if call.request.runsModel && model.isSome then 1 else 0 := by
  cases course with
  | blank free => simp [free] at needs
  | queued _ => cases done
  | making _ _ => cases done
  | predicting _ _ _ => cases done
  | failed _ message => exact .inl ⟨message, rfl, rfl, rfl⟩
  | @answered code model attempts answer asked there found =>
    exact .inr ⟨some model, there, found, by simp [Request.runsModel, asked]⟩
  | @prepared model attempts there found =>
    exact .inr ⟨model, there, found, by simp [Request.runsModel]⟩
  | without asked there found => exact .inr ⟨none, there, found, by simp⟩

/-- What a call was given is the model that there is now. -/
theorem OnCourse.made_of_ok (course : call.OnCourse round made) {model : Option Model}
    (given : .ok model ∈ call.attempts) : made = some model := by
  have of_found {known : Option Model} {attempts : List ModelSource}
      (found : Found known attempts) (given : .ok model ∈ attempts) : known = model := by
    rcases found with none | one
    · simp [none] at given
    · rw [one, List.mem_singleton] at given
      exact (Except.ok.inj given).symm
  cases course with
  | blank _ => cases given
  | queued _ => cases given
  | making _ _ => cases given
  | failed _ _ => simp at given
  | predicting _ there found => rw [there, of_found found given]
  | answered _ there found => rw [there, of_found found given]
  | prepared there found => rw [there, of_found found given]
  | without _ there found => rw [there, of_found found given]

theorem OnCourse.failed_of_error (course : call.OnCourse round made) {message : String}
    (refused : .error message ∈ call.attempts) : call.Failed := by
  have not_found {known : Option Model} {attempts : List ModelSource}
      (found : Found known attempts) : .error message ∉ attempts := by
    rcases found with none | one
    · simp [none]
    · simp [one]
  cases course with
  | blank _ => cases refused
  | queued _ => cases refused
  | making _ _ => cases refused
  | failed _ other => exact ⟨other, rfl, rfl, rfl⟩
  | predicting _ _ found => exact absurd refused (not_found found)
  | answered _ _ found => exact absurd refused (not_found found)
  | prepared _ found => exact absurd refused (not_found found)
  | without _ _ found => exact absurd refused (not_found found)

/-- What has ended stays as it is. -/
theorem advance?_of_isDone {call : Call} (done : call.stage.isDone = true)
    (b : BusyClassifier) (awaited : Awaited) : b.advance? awaited call = none := by
  unfold BusyClassifier.advance?
  split
  · next waits => simp [waits, Stage.isDone] at done
  · next waits => simp [waits, Stage.isDone] at done
  · next waits => simp [waits, Stage.isDone] at done
  · rfl

end Call

/-! ### The account of a stretch -/

/-- A figure of calls, added up. -/
def totalOf (figure : Call → Nat) (calls : List Call) : Nat := (calls.map figure).sum

@[simp] theorem totalOf_nil (figure : Call → Nat) : totalOf figure [] = 0 := rfl

@[simp] theorem totalOf_cons (figure : Call → Nat) (call : Call) (rest : List Call) :
    totalOf figure (call :: rest) = figure call + totalOf figure rest := by
  simp [totalOf]

@[simp] theorem totalOf_append (figure : Call → Nat) (front behind : List Call) :
    totalOf figure (front ++ behind) = totalOf figure front + totalOf figure behind := by
  simp [totalOf]

theorem totalOf_congr {figure other : Call → Nat} {calls : List Call}
    (same : ∀ call ∈ calls, figure call = other call) :
    totalOf figure calls = totalOf other calls := by
  rw [totalOf, totalOf, List.map_congr_left same]

/-- A figure that is one or nothing counts calls. -/
theorem totalOf_ite (counted : Call → Bool) (calls : List Call) :
    totalOf (fun call => if counted call then 1 else 0) calls = calls.countP counted := by
  induction calls with
  | nil => rfl
  | cons call rest ih =>
    rw [totalOf_cons, ih, List.countP_cons]
    omega

/-- A figure that no call has adds up to nothing. -/
theorem totalOf_eq_zero {figure : Call → Nat} {calls : List Call} :
    totalOf figure calls = 0 ↔ ∀ call ∈ calls, figure call = 0 := by
  induction calls with
  | nil => simp
  | cons call rest ih => simp [ih]

namespace BusyClassifier

variable {start b b' : BusyClassifier} {calls : List Call}

/-- The calls since a moment without model and without calls under way, and what they did to the
classifier. -/
structure Account (start b : BusyClassifier) (calls : List Call) : Prop where
  appended : b.calls = start.calls ++ calls
  round : b.round = start.round
  course : ∀ call ∈ calls, call.OnCourse b.round b.classifier.made
  created : b.classifier.created = start.classifier.created +
    totalOf (·.attempts.length) calls + totalOf Call.makes calls
  runs : b.classifier.runs = start.classifier.runs + totalOf (·.runs) calls
  successes : b.classifier.made.isSome.toNat = totalOf Call.successes calls
  single : totalOf Call.makes calls ≤ 1

theorem account_start (none : start.classifier.made = none) : Account start start [] where
  appended := (List.append_nil _).symm
  round := rfl
  course := by simp
  created := rfl
  runs := rfl
  successes := by rw [none]; rfl
  single := Nat.zero_le 1

/-- Other calls are not disturbed by a step of one. -/
theorem course_of_step {c c' : Classifier} {call call' other : Call}
    (step : Call.Step b.round c call c' call') (course : other.OnCourse b.round c.made)
    (idle : call.makes = 1 → other.makes = 0) : other.OnCourse b.round c'.made := by
  rcases step.made with same | ⟨none, makes⟩
  · rw [same]
    exact course
  · rw [none] at course
    cases c'.made with
    | none => exact course
    | some model => exact course.of_made (idle makes) model

/-- One more call. -/
theorem Account.append (account : Account start b calls) {fresh call : Call} {c : Classifier}
    (step : Call.Step b.round b.classifier fresh c call) (new : fresh.attempts = [])
    (unrun : fresh.runs = 0) (idle : fresh.makes = 0) (stays : call.makes = 0) :
    Account start { b with classifier := c, calls := b.calls ++ [call] } (calls ++ [call]) where
  appended := by
    show b.calls ++ [call] = _
    rw [account.appended, List.append_assoc]
  round := account.round
  course := by
    intro other mem
    rcases List.mem_append.mp mem with old | last
    · exact course_of_step step (account.course other old) (by rw [idle]; simp)
    · rw [List.mem_singleton.mp last]
      exact step.course
  created := by
    have created := step.created
    have total := account.created
    simp only [new, idle, stays, List.length_nil] at created
    simp only [totalOf_append, totalOf_cons, totalOf_nil, stays]
    omega
  runs := by
    have runs := step.runs
    have total := account.runs
    simp only [totalOf_append, totalOf_cons, totalOf_nil]
    omega
  successes := by
    have successes := step.successes
    have total := account.successes
    have none : fresh.successes = 0 := by
      rw [Call.successes, new]
      rfl
    simp only [totalOf_append, totalOf_cons, totalOf_nil]
    omega
  single := by
    simpa [stays] using account.single

/-- One call goes on. -/
theorem Account.replace {front behind : List Call} {call call' : Call} {c : Classifier}
    (account : Account start b (front ++ call :: behind))
    (step : Call.Step b.round b.classifier call c call')
    (stays : call'.makes = 0 ∨ totalOf Call.makes (front ++ call :: behind) = 0) :
    Account start { b with classifier := c, calls := start.calls ++ (front ++ call' :: behind) }
      (front ++ call' :: behind) where
  appended := rfl
  round := account.round
  course := by
    intro other mem
    have single := account.single
    simp only [totalOf_append, totalOf_cons] at single
    have kept (there : other ∈ front ∨ other ∈ behind) : other.OnCourse b.round c.made := by
      have old : other ∈ front ++ call :: behind := by
        rcases there with left | right <;> simp [*]
      refine course_of_step step (account.course other old) ?_
      -- If it is the call itself that has the model made, no other one does.
      intro makes
      have frontIdle : totalOf Call.makes front = 0 := by omega
      have behindIdle : totalOf Call.makes behind = 0 := by omega
      rcases there with left | right
      · exact totalOf_eq_zero.mp frontIdle other left
      · exact totalOf_eq_zero.mp behindIdle other right
    rcases List.mem_append.mp mem with left | here
    · exact kept (.inl left)
    · rcases List.mem_cons.mp here with rfl | right
      · exact step.course
      · exact kept (.inr right)
  created := by
    have created := step.created
    have total := account.created
    simp only [totalOf_append, totalOf_cons] at total ⊢
    omega
  runs := by
    have runs := step.runs
    have total := account.runs
    simp only [totalOf_append, totalOf_cons] at total ⊢
    omega
  successes := by
    have successes := step.successes
    have total := account.successes
    simp only [totalOf_append, totalOf_cons] at total ⊢
    omega
  single := by
    have single := account.single
    have atMostOne : call'.makes ≤ 1 := by
      unfold Call.makes
      split <;> omega
    simp only [totalOf_append, totalOf_cons] at single stays ⊢
    omega

/-- A call of the stretch, in its place. -/
theorem exists_place {old calls : List Call} {index : Nat} {call : Call}
    (found : (old ++ calls)[index]? = some call) (new : call ∉ old) :
    ∃ front behind, calls = front ++ call :: behind ∧
      ∀ call', (old ++ calls).set index call' = old ++ (front ++ call' :: behind) := by
  have behindOld : old.length ≤ index := by
    by_contra within
    rw [List.getElem?_append_left (by omega)] at found
    exact new (List.mem_of_getElem? found)
  rw [List.getElem?_append_right behindOld] at found
  obtain ⟨inside, rfl⟩ := List.getElem?_eq_some_iff.mp found
  refine ⟨calls.take (index - old.length), calls.drop (index - old.length + 1), ?_, ?_⟩
  · simp
  · intro call'
    rw [List.set_append_right _ _ behindOld, List.set_eq_take_append_cons_drop, if_pos inside]

/-- A call goes on with the attempts it knew of, and with the one it was told of, if any. -/
theorem attempts_advance? {awaited : Awaited} {call call' : Call} {c : Classifier}
    (advanced : b.advance? awaited call = some (c, call')) {outcome : ModelSource}
    (attempted : outcome ∈ call'.attempts) :
    outcome ∈ call.attempts ∨ awaited = .model outcome := by
  unfold advance? at advanced
  split at advanced
  · next round _ =>
    split at advanced
    · cases advanced
    · obtain ⟨-, rfl⟩ := Prod.ext_iff.mp (Option.some.inj advanced)
      rw [Call.attempts_takeTurn] at attempted
      exact .inl attempted
  · next told _ _ =>
    obtain ⟨-, rfl⟩ := Prod.ext_iff.mp (Option.some.inj advanced)
    rw [Call.attempts_takeModel] at attempted
    rcases List.mem_append.mp attempted with old | new
    · exact .inl old
    · rw [List.mem_singleton.mp new]
      exact .inr rfl
  · cases advanced
    exact .inl attempted
  · cases advanced

/-- All that a call under way can do when what it has waited for is there. -/
theorem advance?_cases {awaited : Awaited} {call call' : Call} {c : Classifier}
    (advanced : b.advance? awaited call = some (c, call')) (course :
      call.OnCourse b.round b.classifier.made) :
    Call.Step b.round b.classifier call c call' ∧
      (call'.makes = 0 ∨ b.isHeld b.round = false) := by
  unfold advance? at advanced
  split at advanced
  · next round queued =>
    split at advanced
    · cases advanced
    · next free =>
      obtain ⟨rfl, step⟩ := Call.step_takeTurn course queued
      obtain ⟨rfl, rfl⟩ := Prod.ext_iff.mp (Option.some.inj advanced)
      exact ⟨step, .inr (by simpa using free)⟩
  · next outcome round making =>
    obtain ⟨step, stays⟩ := Call.step_takeModel course making outcome
    obtain ⟨rfl, rfl⟩ := Prod.ext_iff.mp (Option.some.inj advanced)
    exact ⟨step, .inl stays⟩
  · next outcome predicting =>
    obtain ⟨step, stays⟩ := Call.step_takePredictions course predicting b.detector outcome
    cases advanced
    exact ⟨step, .inl stays⟩
  · cases advanced

/-- When no call has the turn, none has the model made. -/
theorem Account.makes_eq_zero (account : Account start b calls)
    (free : b.isHeld b.round = false) : totalOf Call.makes calls = 0 := by
  rw [totalOf_eq_zero]
  intro call mem
  have there : call ∈ b.calls := by
    rw [account.appended]
    exact List.mem_append_right _ mem
  have course := account.course call mem
  cases course with
  | making needs unmade =>
    have holds : b.isHeld b.round = true := by
      rw [isHeld, List.any_eq_true]
      exact ⟨_, there, by simp [Stage.holds]⟩
    rw [holds] at free
    cases free
  | _ => rfl

/-- What a move begins. -/
def Move.request? : Move → Option Request
  | .start request => some request
  | _ => none

/-- What a move tells of an attempt to have the model made. -/
def Move.outcome? : Move → Option ModelSource
  | .resume _ (.model outcome) => some outcome
  | _ => none

/-- Every move but a disposal keeps the account. -/
theorem Account.after (account : Account start b calls) (idle : start.isIdle = true) {move : Move}
    (kept : move ≠ .dispose) :
    ∃ later, Account start (b.after move) later ∧
      later.map (·.request) = calls.map (·.request) ++ move.request?.toList ∧
      ∀ call ∈ later, ∀ outcome ∈ call.attempts,
        (∃ old ∈ calls, outcome ∈ old.attempts) ∨ move.outcome? = some outcome := by
  cases move with
  | dispose => exact absurd rfl kept
  | start request =>
    obtain ⟨step, stays⟩ := Call.step_start b.round b.classifier request
    refine ⟨calls ++ [(Call.start b.round b.classifier request).2],
      account.append step rfl rfl rfl stays, ?_, ?_⟩
    · rw [List.map_append, List.map_singleton, step.request]
      rfl
    · intro call mem outcome attempted
      rcases List.mem_append.mp mem with old | new
      · exact .inl ⟨call, old, attempted⟩
      · rw [List.mem_singleton.mp new, Call.attempts_start] at attempted
        cases attempted
  | resume index awaited =>
    unfold BusyClassifier.after
    dsimp only
    split
    · next c call' resumed =>
      obtain ⟨call, found, advanced⟩ := Option.bind_eq_some_iff.mp resumed
      -- What has ended does not go on, so the call is one of the stretch.
      have new : call ∉ start.calls := by
        intro old
        have done := List.all_eq_true.mp idle call old
        rw [Call.advance?_of_isDone done] at advanced
        cases advanced
      rw [account.appended] at found ⊢
      obtain ⟨front, behind, rfl, placed⟩ := exists_place found new
      obtain ⟨step, free⟩ := advance?_cases advanced (account.course call (by simp))
      rw [placed]
      refine ⟨_, account.replace step (free.imp id account.makes_eq_zero), ?_, ?_⟩
      · simp [Move.request?, step.request]
      · intro other mem outcome attempted
        simp only [List.mem_append, List.mem_cons] at mem
        rcases mem with left | rfl | right
        · exact .inl ⟨other, by simp [left], attempted⟩
        · rcases attempts_advance? advanced attempted with old | rfl
          · exact .inl ⟨call, by simp, old⟩
          · exact .inr rfl
        · exact .inl ⟨other, by simp [right], attempted⟩
    · refine ⟨calls, account, by simp [Move.request?], ?_⟩
      intro call mem outcome attempted
      exact .inl ⟨call, mem, attempted⟩

/-- A stretch without a disposal keeps the account. -/
theorem Account.run (account : Account start b calls) (idle : start.isIdle = true)
    {moves : List Move} (kept : ∀ move ∈ moves, move ≠ .dispose) :
    ∃ later, Account start (b.run moves) later ∧
      later.map (·.request) = calls.map (·.request) ++ moves.filterMap Move.request? ∧
      ∀ call ∈ later, ∀ outcome ∈ call.attempts,
        (∃ old ∈ calls, outcome ∈ old.attempts) ∨ outcome ∈ moves.filterMap Move.outcome? := by
  induction moves generalizing b calls with
  | nil =>
    refine ⟨calls, account, by simp, ?_⟩
    intro call mem outcome attempted
    exact .inl ⟨call, mem, attempted⟩
  | cons move rest ih =>
    obtain ⟨next, accountNext, requests, told⟩ :=
      account.after idle (kept move List.mem_cons_self)
    obtain ⟨later, accountLater, requestsLater, toldLater⟩ :=
      ih accountNext fun other mem => kept other (List.mem_cons_of_mem _ mem)
    refine ⟨later, accountLater, ?_, ?_⟩
    · rw [requestsLater, requests, List.filterMap_cons]
      cases move.request? <;> simp
    · intro call mem outcome attempted
      rcases toldLater call mem outcome attempted with ⟨between, there, before⟩ | after
      · rcases told between there outcome before with old | now
        · exact .inl old
        · exact .inr (List.mem_filterMap.mpr ⟨move, List.mem_cons_self, now⟩)
      · obtain ⟨other, memRest, same⟩ := List.mem_filterMap.mp after
        exact .inr (List.mem_filterMap.mpr ⟨other, List.mem_cons_of_mem _ memRest, same⟩)

end BusyClassifier

end SnippetDetect
