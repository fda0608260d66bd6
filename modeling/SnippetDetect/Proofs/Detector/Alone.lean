import SnippetDetect.Proofs.Detector.Stretch

/-!
Calls to a detector by a model that do not overlap.

Each of them is what the detector does by itself: it answers the same, and leaves the same detector
(`run_alone_prepare`, `run_alone_detect`), also for several snippets in turn (`run_aloneEach`).
-/

namespace SnippetDetect

open SnippetDetect.Text

/-- Where there is a model by then, it is run once. -/
theorem Classifier.classify_of_model {c : Classifier} {model : Model} {code : Snippet}
    (there : c.prepare.2.made = some (some model)) :
    c.classify code = ((model code).toOption.bind c.prepare.2.best?,
      { c.prepare.2 with runs := c.prepare.2.runs + 1 }) := by
  have prepared : c.prepare.1 = .ok () := by
    obtain ⟨source, mapping, languages, made, created, runs⟩ := c
    cases made with
    | none => cases source with
      | error message => cases there
      | ok model => rfl
    | some model => rfl
  unfold classify
  simp only [prepared, there]
  cases model code <;> rfl

namespace BusyClassifier

/-- What the model answers for a snippet, if it comes to that. -/
def predictionsFor (c : Classifier) (code : Snippet) : Except String Json :=
  match c.prepare.2.made with
  | some (some model) => model code
  | _ => .ok .null

/-- A request that is dealt with from its beginning to its end. -/
def alone (b : BusyClassifier) (request : Request) : List Move :=
  let index := b.calls.length
  let predictions := match request with
    | .prepare => .ok .null
    | .detect code => predictionsFor b.classifier code
  [.start request, .resume index .turn, .resume index (.model b.classifier.source),
    .resume index (.predictions predictions)]

section Alone

variable {d : Detector} {c : Classifier} {round : Nat} {old : List Call} {call : Call}

/-- To resume the last call is to replace it. -/
theorem resume_last {awaited : Awaited} {advanced : Classifier × Call}
    (there : advance? ⟨d, c, round, old ++ [call]⟩ awaited call = some advanced) :
    after ⟨d, c, round, old ++ [call]⟩ (.resume old.length awaited) =
      ⟨d, advanced.1, round, old ++ [advanced.2]⟩ := by
  have found : (old ++ [call])[old.length]? = some call := by simp
  have placed : (old ++ [call]).set old.length advanced.2 = old ++ [advanced.2] := by
    rw [List.set_append_right _ _ (Nat.le_refl _), Nat.sub_self]
    rfl
  simp only [after, found, Option.bind_some, there, placed]

/-- A last call that waits for something else stays as it is. -/
theorem resume_last_other {awaited : Awaited}
    (other : advance? ⟨d, c, round, old ++ [call]⟩ awaited call = none) :
    after ⟨d, c, round, old ++ [call]⟩ (.resume old.length awaited) =
      ⟨d, c, round, old ++ [call]⟩ := by
  have found : (old ++ [call])[old.length]? = some call := by simp
  simp only [after, found, Option.bind_some, other]

/-- A last call gets its turn when no call before has it. -/
theorem resume_turn (free : old.any (·.stage.holds round) = false)
    (queued : call.stage = .queued round) :
    after ⟨d, c, round, old ++ [call]⟩ (.resume old.length .turn) =
      ⟨d, (call.takeTurn round c).1, round, old ++ [(call.takeTurn round c).2]⟩ := by
  apply resume_last
  have unheld : isHeld ⟨d, c, round, old ++ [call]⟩ round = false := by
    rw [isHeld, List.any_append, free]
    simp [queued, Stage.holds]
  simp [advance?, queued, unheld]

theorem resume_model {other : Nat} (making : call.stage = .making other) (outcome : ModelSource) :
    after ⟨d, c, round, old ++ [call]⟩ (.resume old.length (.model outcome)) =
      ⟨d, (call.takeModel c outcome).1, round, old ++ [(call.takeModel c outcome).2]⟩ :=
  resume_last (by simp [advance?, making])

theorem resume_predictions (predicting : call.stage = .predicting)
    (outcome : Except String Json) :
    after ⟨d, c, round, old ++ [call]⟩ (.resume old.length (.predictions outcome)) =
      ⟨d, c, round, old ++ [call.takePredictions d c outcome]⟩ := by
  have there : advance? ⟨d, c, round, old ++ [call]⟩ (.predictions outcome) call =
      some (c, call.takePredictions d c outcome) := by
    simp [advance?, predicting]
  exact resume_last there

theorem resume_done (done : call.stage.isDone = true) (awaited : Awaited) :
    after ⟨d, c, round, old ++ [call]⟩ (.resume old.length awaited) =
      ⟨d, c, round, old ++ [call]⟩ :=
  resume_last_other (Call.advance?_of_isDone done _ awaited)

end Alone

/-- A snippet that is not blank is put to the model. -/
theorem detect_current (b : BusyClassifier) {code : Snippet} (asked : code.isBlank = false) :
    b.current.detect code =
      (.ok ((b.classifier.classify code).1.bind fun (language, score) =>
          b.detector.answer? language score),
        { b.detector with strategy := .classifier (b.classifier.classify code).2 }) := by
  simp only [current, Detector.detect, asked]
  rfl

/-- To detect with no other call in between is what the detector does by itself. -/
theorem run_alone_detect (b : BusyClassifier) (free : b.isHeld b.round = false) (code : Snippet) :
    ∃ call, (b.run (b.alone (.detect code))).calls = b.calls ++ [call] ∧
      call.stage = .done (b.current.detect code).1 ∧
      (b.run (b.alone (.detect code))).current = (b.current.detect code).2 := by
  obtain ⟨d, ⟨source, mapping, languages, made, created, runs⟩, round, old⟩ := b
  have steps : ∀ {b : BusyClassifier} {first second third fourth : Move},
      b.run [first, second, third, fourth] =
        (((b.after first).after second).after third).after fourth := rfl
  cases asked : code.isBlank with
  | true =>
    -- A blank snippet is answered at once, and there is nothing left to wait for.
    have starts (c : Classifier) : after ⟨d, c, round, old⟩ (.start (.detect code)) =
        ⟨d, c, round, old ++ [⟨.detect code, .done (.ok none), [], 0⟩]⟩ := by
      simp [after, Call.start, Request.needsModel, asked]
    rw [alone, steps, starts, resume_done rfl, resume_done rfl, resume_done rfl]
    have blank (d : Detector) (c : Classifier) :
        ({ d with strategy := .classifier c } : Detector).detect code =
          (.ok none, { d with strategy := .classifier c }) := by
      simp [Detector.detect, asked]
    exact ⟨_, rfl, by rw [current, blank], by rw [current, current, blank]⟩
  | false =>
    have starts (c : Classifier) : after ⟨d, c, round, old⟩ (.start (.detect code)) =
        ⟨d, (Call.start round c (.detect code)).1, round,
          old ++ [(Call.start round c (.detect code)).2]⟩ := rfl
    have needs : (Request.detect code).needsModel = true := by simp [Request.needsModel, asked]
    rw [detect_current _ asked, alone, steps, starts, Call.start, if_pos needs]
    cases made with
    | none =>
      rw [resume_turn free rfl, resume_model rfl]
      cases source with
      | error message =>
        rw [resume_done rfl]
        exact ⟨_, rfl, rfl, rfl⟩
      | ok model =>
        cases model with
        | none =>
          rw [resume_done rfl]
          exact ⟨_, rfl, rfl, rfl⟩
        | some model =>
          rw [resume_predictions rfl, Classifier.classify_of_model rfl]
          exact ⟨_, rfl, rfl, rfl⟩
    | some model =>
      cases model with
      | none =>
        rw [resume_done rfl, resume_done rfl, resume_done rfl]
        exact ⟨_, rfl, rfl, rfl⟩
      | some model =>
        rw [resume_last_other rfl, resume_last_other rfl, resume_predictions rfl,
          Classifier.classify_of_model rfl]
        exact ⟨_, rfl, rfl, rfl⟩

/-- To have the model made with no other call in between is what the classifier does by itself. -/
theorem run_alone_prepare (b : BusyClassifier) (free : b.isHeld b.round = false) :
    ∃ call, (b.run (b.alone .prepare)).calls = b.calls ++ [call] ∧
      call.stage = .done ((b.classifier.prepare.1.map fun _ => none).mapError .failed) ∧
      (b.run (b.alone .prepare)).classifier = b.classifier.prepare.2 := by
  obtain ⟨d, ⟨source, mapping, languages, made, created, runs⟩, round, old⟩ := b
  have steps : ∀ {b : BusyClassifier} {first second third fourth : Move},
      b.run [first, second, third, fourth] =
        (((b.after first).after second).after third).after fourth := rfl
  have starts (c : Classifier) : after ⟨d, c, round, old⟩ (.start .prepare) =
      ⟨d, (Call.start round c .prepare).1, round, old ++ [(Call.start round c .prepare).2]⟩ := rfl
  have needs : Request.prepare.needsModel = true := rfl
  rw [alone, steps, starts, Call.start, if_pos needs]
  cases made with
  | none =>
    rw [resume_turn free rfl, resume_model rfl]
    cases source with
    | error message =>
      rw [resume_done rfl]
      exact ⟨_, rfl, rfl, rfl⟩
    | ok model =>
      cases model with
      | none =>
        rw [resume_done rfl]
        exact ⟨_, rfl, rfl, rfl⟩
      | some model =>
        rw [resume_done rfl]
        exact ⟨_, rfl, rfl, rfl⟩
  | some model =>
    cases model with
    | none =>
      rw [resume_done rfl, resume_done rfl, resume_done rfl]
      exact ⟨_, rfl, rfl, rfl⟩
    | some model =>
      rw [resume_done rfl, resume_done rfl, resume_done rfl]
      exact ⟨_, rfl, rfl, rfl⟩

/-- A snippet that was dealt with leaves the turn to whoever comes next. -/
theorem isHeld_of_append_done {b b' : BusyClassifier} {call : Call}
    {outcome : Except Fault (Option Detection)} (free : b.isHeld b.round = false)
    (calls : b'.calls = b.calls ++ [call]) (done : call.stage = .done outcome)
    (round : b'.round = b.round) : b'.isHeld b'.round = false := by
  have still : b.calls.any (·.stage.holds b.round) = false := free
  rw [isHeld, calls, round, List.any_append, still]
  simp [done, Stage.holds]

/-- Without a disposal there is no new round. -/
theorem round_run (b : BusyClassifier) {moves : List Move}
    (kept : ∀ move ∈ moves, move ≠ .dispose) : (b.run moves).round = b.round := by
  induction moves generalizing b with
  | nil => rfl
  | cons move rest ih =>
    have one : (b.after move).round = b.round := by
      cases move with
      | start request => rfl
      | resume index awaited =>
        simp only [after]
        split <;> rfl
      | dispose => exact absurd rfl (kept .dispose List.mem_cons_self)
    rw [← one]
    exact ih (b.after move) fun other mem => kept other (List.mem_cons_of_mem _ mem)

/-- Several snippets, each dealt with before the next. -/
def aloneEach (b : BusyClassifier) : List Snippet → List Move
  | [] => []
  | code :: rest =>
      b.alone (.detect code) ++ (b.run (b.alone (.detect code))).aloneEach rest

/-- Snippets one after another are those of the detector itself. -/
theorem run_aloneEach (b : BusyClassifier) (free : b.isHeld b.round = false)
    (codes : List Snippet) :
    ∃ calls, (b.run (b.aloneEach codes)).calls = b.calls ++ calls ∧
      calls.map (·.stage) = (b.current.detectEach codes).1.map .done ∧
      (b.run (b.aloneEach codes)).current = (b.current.detectEach codes).2 := by
  induction codes generalizing b with
  | nil => exact ⟨[], (List.append_nil _).symm, rfl, rfl⟩
  | cons code rest ih =>
    obtain ⟨call, calls, done, current⟩ := run_alone_detect b free code
    have round : (b.run (b.alone (.detect code))).round = b.round :=
      round_run b (by simp [alone])
    have freed := isHeld_of_append_done free calls done round
    obtain ⟨later, callsLater, doneLater, currentLater⟩ := ih _ freed
    rw [aloneEach, run_append]
    refine ⟨call :: later, ?_, ?_, ?_⟩
    · rw [callsLater, calls, List.append_assoc]
      rfl
    · rw [List.map_cons, doneLater, done, current]
      rfl
    · rw [currentLater, current]
      rfl

end BusyClassifier

end SnippetDetect
