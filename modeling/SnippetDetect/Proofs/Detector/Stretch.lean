import SnippetDetect.Proofs.Detector.Lifecycle

/-!
How often a model is made and run.

When all calls of a stretch have ended, its account says how many models were asked for and how
often they were run, however the calls overlapped (`Account.of_given`, `Account.of_refused`). In a
run that disposes of the model between calls only, this holds of the stretch behind every
disposal (`calls_of_run`). That all calls can end is `exists_advance`.
-/

namespace SnippetDetect

namespace BusyClassifier

variable {b b' : BusyClassifier} {calls : List Call}

/-! ### The end of a stretch -/

section End

variable (account : Account b b' calls) (idle : b'.isIdle = true)

include account

/-- A model that there is was given to some call. -/
theorem Account.exists_success (there : b'.classifier.made.isSome = true) :
    ∃ call ∈ calls, ∃ model, .ok model ∈ call.attempts := by
  have some : totalOf Call.successes calls ≠ 0 := by
    rw [← account.successes, there]
    exact one_ne_zero
  rw [ne_eq, totalOf_eq_zero] at some
  push Not at some
  obtain ⟨call, mem, succeeded⟩ := some
  obtain ⟨outcome, attempted, ok⟩ := List.countP_pos_iff.mp (Nat.pos_of_ne_zero succeeded)
  cases outcome with
  | error message => cases ok
  | ok model => exact ⟨call, mem, model, attempted⟩

/-- The detector is ready when a call was given a model, also while calls are under way. -/
theorem Account.isReady_iff :
    b'.classifier.isReady = true ↔ ∃ call ∈ calls, ∃ model, .ok (some model) ∈ call.attempts := by
  have ready : b'.classifier.isReady = true ↔ ∃ model, b'.classifier.made = some (some model) := by
    unfold Classifier.isReady
    split <;> simp_all
  rw [ready]
  constructor
  · rintro ⟨model, there⟩
    obtain ⟨call, mem, given, attempted⟩ := account.exists_success (by rw [there]; rfl)
    have same := (account.course call mem).made_of_ok attempted
    rw [there, Option.some.injEq] at same
    exact ⟨call, mem, model, same ▸ attempted⟩
  · rintro ⟨call, mem, model, attempted⟩
    exact ⟨model, (account.course call mem).made_of_ok attempted⟩

include idle

theorem Account.isDone {call : Call} (mem : call ∈ calls) : call.stage.isDone = true := by
  apply List.all_eq_true.mp idle
  rw [account.appended]
  exact List.mem_append_right _ mem

/-- No call has the model made any more, so what came of each attempt is known. -/
theorem Account.created_of_idle :
    b'.classifier.created = b.classifier.created + totalOf (·.attempts.length) calls := by
  have none : totalOf Call.makes calls = 0 := by
    rw [totalOf_eq_zero]
    intro call mem
    have done := account.isDone idle mem
    unfold Call.makes
    split
    · next making => simp [making, Stage.isDone] at done
    · rfl
  rw [account.created, none, Nat.add_zero]

/-- A call that did not fail to have the model made knew of it. -/
theorem Account.served {call : Call} (mem : call ∈ calls)
    (needs : call.request.needsModel = true) (unfailed : ¬ call.Failed) :
    b'.classifier.made.isSome = true ∧
      call.runs = if call.request.runsModel && b'.classifier.isReady then 1 else 0 := by
  rcases (account.course call mem).of_needs needs (account.isDone idle mem) with
    failed | ⟨model, there, -, runs⟩
  · exact absurd failed unfailed
  · refine ⟨by rw [there]; rfl, ?_⟩
    rw [runs, Classifier.isReady, there]
    cases model <;> rfl

/-- Where no attempt failed, one model was asked for if any call needed it, and it was run once for
every snippet. -/
theorem Account.of_given (given : ∀ call ∈ calls, ∀ outcome ∈ call.attempts, outcome.isOk = true) :
    b'.classifier.created = b.classifier.created +
        (if calls.any (·.request.needsModel) then 1 else 0) ∧
      (∀ call ∈ calls,
        call.runs = if call.request.runsModel && b'.classifier.isReady then 1 else 0) ∧
      (b'.classifier.isReady = true ↔ calls.any (·.request.needsModel) = true ∧
        ∀ call ∈ calls, .ok none ∉ call.attempts) := by
  have unfailed : ∀ call ∈ calls, ¬ call.Failed := by
    rintro call mem ⟨message, attempts, -⟩
    have ok := given call mem (.error message) (by simp [attempts])
    cases ok
  have needed : calls.any (·.request.needsModel) = b'.classifier.made.isSome := by
    rw [Bool.eq_iff_iff, List.any_eq_true]
    constructor
    · rintro ⟨call, mem, needs⟩
      exact (account.served idle mem needs (unfailed call mem)).1
    · intro there
      obtain ⟨call, mem, model, attempted⟩ := account.exists_success there
      refine ⟨call, mem, ?_⟩
      by_contra free
      have none := ((account.course call mem).of_free (by simpa using free)).1
      simp [none] at attempted
  have attempts : totalOf (·.attempts.length) calls = totalOf Call.successes calls := by
    apply totalOf_congr
    intro call mem
    exact (List.countP_eq_length.mpr (given call mem)).symm
  refine ⟨?_, ?_, ?_⟩
  · rw [account.created_of_idle idle, attempts, ← account.successes, needed]
    cases b'.classifier.made.isSome <;> rfl
  · intro call mem
    by_cases needs : call.request.needsModel = true
    · exact (account.served idle mem needs (unfailed call mem)).2
    · have free : call.request.needsModel = false := by simpa using needs
      rw [((account.course call mem).of_free free).2.1, Request.runsModel_of_free free]
      rfl
  · rw [needed, account.isReady_iff]
    constructor
    · rintro ⟨call, mem, model, attempted⟩
      have there := (account.course call mem).made_of_ok attempted
      refine ⟨by rw [there]; rfl, ?_⟩
      intro other memOther none
      have absent := (account.course other memOther).made_of_ok none
      rw [there] at absent
      cases absent
    · rintro ⟨there, present⟩
      obtain ⟨call, mem, model, attempted⟩ := account.exists_success there
      cases model with
      | none => exact absurd attempted (present call mem)
      | some model => exact ⟨call, mem, model, attempted⟩

/-- Where every attempt failed, each call that needed the model made one. -/
theorem Account.of_refused
    (refused : ∀ call ∈ calls, ∀ outcome ∈ call.attempts, outcome.isOk = false) :
    b'.classifier.created =
        b.classifier.created + calls.countP (·.request.needsModel) ∧
      b'.classifier.runs = b.classifier.runs ∧ b'.classifier.isReady = false ∧
      ∀ call ∈ calls, call.request.needsModel = true → call.Failed := by
  have absent : b'.classifier.made = none := by
    rw [← Option.not_isSome_iff_eq_none]
    intro there
    obtain ⟨call, mem, model, attempted⟩ := account.exists_success there
    cases refused call mem _ attempted
  have failed : ∀ call ∈ calls, call.request.needsModel = true → call.Failed := by
    intro call mem needs
    by_contra unfailed
    have there := (account.served idle mem needs unfailed).1
    rw [absent] at there
    cases there
  have figures : ∀ call ∈ calls, call.runs = 0 ∧
      call.attempts.length = if call.request.needsModel then 1 else 0 := by
    intro call mem
    by_cases needs : call.request.needsModel = true
    · obtain ⟨message, attempts, runs, -⟩ := failed call mem needs
      simp [attempts, runs, needs]
    · have free : call.request.needsModel = false := by simpa using needs
      obtain ⟨attempts, runs, -⟩ := (account.course call mem).of_free free
      simp [attempts, runs, free]
  refine ⟨?_, ?_, ?_, failed⟩
  · rw [account.created_of_idle idle, totalOf_congr fun call mem => (figures call mem).2,
      totalOf_ite]
  · rw [account.runs, totalOf_eq_zero.mpr fun call mem => (figures call mem).1]
    rfl
  · rw [Classifier.isReady, absent]

end End

/-- What the calls of a stretch came to when all of them have ended. -/
structure Settled (b b' : BusyClassifier) (requests : List Request)
    (outcomes : List ModelSource) (calls : List Call) : Prop where
  appended : b'.calls = b.calls ++ calls
  asked : calls.map (·.request) = requests
  /-- What came of an attempt is something that was told. -/
  told : ∀ call ∈ calls, ∀ outcome ∈ call.attempts, outcome ∈ outcomes
  /-- The model source was asked as often as the calls say. -/
  created : b'.classifier.created =
    b.classifier.created + totalOf (·.attempts.length) calls
  /-- So was the model. -/
  runs : b'.classifier.runs = b.classifier.runs + totalOf (·.runs) calls
  /-- What can be answered without a model is. -/
  free : ∀ call ∈ calls, call.request.needsModel = false →
    call.attempts = [] ∧ call.runs = 0 ∧ call.stage = .done (.ok none)
  /-- The source gives at most one answer, and is not asked for another. -/
  single : totalOf Call.successes calls ≤ 1
  /-- Where an attempt failed, the call says so. -/
  failed : ∀ call ∈ calls, ∀ message, .error message ∈ call.attempts → call.Failed
  /-- A call that needs the model asks the source in vain and says so, or there is an answer, and
  the model is run for a snippet if there is one. -/
  served : ∀ call ∈ calls, call.request.needsModel = true → call.Failed ∨
    (totalOf Call.successes calls = 1 ∧
      call.runs = if call.request.runsModel && b'.classifier.isReady then 1 else 0)
  /-- The detector is ready when a call was given a model. -/
  ready : b'.classifier.isReady = true ↔
    ∃ call ∈ calls, ∃ model, .ok (some model) ∈ call.attempts
  /-- A source that never failed was asked once, by whoever needed it first. -/
  given : (∀ call ∈ calls, ∀ outcome ∈ call.attempts, outcome.isOk = true) →
    b'.classifier.created =
        b.classifier.created + (if requests.any (·.needsModel) then 1 else 0) ∧
      b'.classifier.runs = b.classifier.runs +
        (if b'.classifier.isReady then requests.countP (·.runsModel) else 0) ∧
      (∀ call ∈ calls,
        call.runs = if call.request.runsModel && b'.classifier.isReady then 1 else 0) ∧
      (b'.classifier.isReady = true ↔ requests.any (·.needsModel) = true ∧
        ∀ call ∈ calls, .ok none ∉ call.attempts)
  /-- A source that always failed was asked by each call that needed it. -/
  refused : (∀ call ∈ calls, ∀ outcome ∈ call.attempts, outcome.isOk = false) →
    b'.classifier.created = b.classifier.created + requests.countP (·.needsModel) ∧
      b'.classifier.runs = b.classifier.runs ∧ b'.classifier.isReady = false ∧
      ∀ call ∈ calls, call.request.needsModel = true → call.Failed

/-- The account, at the end of a stretch. -/
theorem Account.settled (account : Account b b' calls) (idle : b'.isIdle = true)
    {outcomes : List ModelSource}
    (told : ∀ call ∈ calls, ∀ outcome ∈ call.attempts, outcome ∈ outcomes) :
    Settled b b' (calls.map (·.request)) outcomes calls where
  appended := account.appended
  asked := rfl
  told := told
  created := account.created_of_idle idle
  runs := account.runs
  free call mem := (account.course call mem).of_free
  single := by
    rw [← account.successes]
    exact Bool.toNat_le _
  failed call mem _ := (account.course call mem).failed_of_error
  served := by
    intro call mem needs
    by_cases failed : call.Failed
    · exact .inl failed
    · obtain ⟨there, runs⟩ := account.served idle mem needs failed
      refine .inr ⟨?_, runs⟩
      rw [← account.successes, there]
      rfl
  ready := account.isReady_iff
  given := by
    intro given
    obtain ⟨created, runs, ready⟩ := account.of_given idle given
    rw [List.any_map, List.countP_map]
    refine ⟨created, ?_, runs, ready⟩
    rw [account.runs, totalOf_congr runs, totalOf_ite]
    cases b'.classifier.isReady
    · simp
    · simp [Function.comp_def]
  refused := by
    intro refused
    rw [List.countP_map]
    exact account.of_refused idle refused

/-! ### Runs -/

/-- A run that disposes of the model only while no call is under way. -/
def Calm (b : BusyClassifier) : List Move → Prop
  | [] => True
  | move :: rest => (move = .dispose → b.isIdle = true) ∧ (b.after move).Calm rest

theorem run_append (b : BusyClassifier) (before stretch : List Move) :
    b.run (before ++ stretch) = (b.run before).run stretch := List.foldl_append

theorem Calm.append {before after : List Move} (calm : b.Calm (before ++ after)) :
    (b.run before).Calm after := by
  induction before generalizing b with
  | nil => exact calm
  | cons move rest ih => exact ih calm.2

/-- Right after a disposal there is no model, and no call is under way. -/
theorem Calm.disposed {earlier : List Move} (calm : b.Calm (earlier ++ [.dispose])) :
    (b.run (earlier ++ [.dispose])).classifier.made = none ∧
      (b.run (earlier ++ [.dispose])).isIdle = true := by
  have idle := calm.append.1 rfl
  rw [run_append]
  exact ⟨rfl, idle⟩

/-- Some call that is under way can always go on: who waits for a turn waits for one that waits for
the model. -/
theorem exists_advance (busy : b.isIdle = false) :
    ∃ call ∈ b.calls, ∃ awaited, (b.advance? awaited call).isSome = true := by
  obtain ⟨call, mem, waits⟩ := List.all_eq_false.mp busy
  cases stage : call.stage with
  | done outcome => simp [stage, Stage.isDone] at waits
  | predicting =>
    exact ⟨call, mem, .predictions (.ok .null), by simp [advance?, stage]⟩
  | making round =>
    exact ⟨call, mem, .model (.ok none), by simp [advance?, stage]⟩
  | queued round =>
    cases held : b.isHeld round with
    | false => exact ⟨call, mem, .turn, by simp [advance?, stage, held]⟩
    | true =>
      obtain ⟨holder, memHolder, holds⟩ := List.any_eq_true.mp held
      cases making : holder.stage with
      | making other =>
        exact ⟨holder, memHolder, .model (.ok none), by simp [advance?, making]⟩
      | _ => simp [making, Stage.holds] at holds

/-- In a stretch of a run that has ended for all of its calls, the model source and the model are
asked as often as the calls need it, in whatever order the calls go on. A stretch begins with the
run, or behind a disposal. -/
theorem calls_of_run (unused : b.classifier.made = none) (quiet : b.isIdle = true)
    {before stretch : List Move}
    (begins : before = [] ∨ ∃ earlier, before = earlier ++ [.dispose])
    (calm : b.Calm before) (undisposed : ∀ move ∈ stretch, move ≠ .dispose)
    (ended : (b.run (before ++ stretch)).isIdle = true) :
    ∃ calls, Settled (b.run before) (b.run (before ++ stretch))
      (stretch.filterMap Move.request?) (stretch.filterMap Move.outcome?) calls := by
  have fresh : (b.run before).classifier.made = none ∧ (b.run before).isIdle = true := by
    rcases begins with rfl | ⟨earlier, rfl⟩
    · exact ⟨unused, quiet⟩
    · exact calm.disposed
  obtain ⟨calls, account, requests, told⟩ := (account_start fresh.1).run fresh.2 undisposed
  rw [← run_append] at account
  rw [List.map_nil, List.nil_append] at requests
  rw [← requests]
  refine ⟨calls, account.settled ended ?_⟩
  intro call mem outcome attempted
  rcases told call mem outcome attempted with ⟨old, none, -⟩ | there
  · cases none
  · exact there

/-- A first attempt that fails, and after a disposal three snippets at once, one of them blank. -/
theorem calls_of_run_batch :
    let c : Classifier := { source := .ok (some fun _ => .ok .null), mapping := [], languages := [] }
    let d : Detector :=
      { name := "m", displayName := "", description := "", gate := Binary64.half,
        strategy := .classifier c }
    let b : BusyClassifier := { detector := d, classifier := c }
    let before : List Move := [.start .prepare, .resume 0 .turn,
      .resume 0 (.model (.error "no disk")), .dispose]
    let stretch : List Move := [.start (.detect "x = 1"), .start (.detect " "),
      .start (.detect "y = 2"), .resume 1 .turn, .resume 3 .turn,
      .resume 1 (.model c.source), .resume 3 .turn,
      .resume 3 (.predictions (.error "too long")), .resume 1 (.predictions (.ok .null))]
    b.Calm before ∧ (b.run (before ++ stretch)).isIdle = true ∧
      (b.run before).classifier.created = 1 ∧
      (b.run (before ++ stretch)).classifier.created = 2 ∧
      (b.run (before ++ stretch)).classifier.runs = 2 ∧
      ∃ calls, Settled (b.run before) (b.run (before ++ stretch))
        [.detect "x = 1", .detect " ", .detect "y = 2"] [c.source] calls := by
  intro c d b before stretch
  have calm : b.Calm before := by
    refine ⟨nofun, nofun, nofun, ?_, trivial⟩
    intro _
    decide
  have ended : (b.run (before ++ stretch)).isIdle = true := by decide
  have undisposed : ∀ move ∈ stretch, move ≠ .dispose := by simp [stretch]
  refine ⟨calm, ended, by decide, by decide, by decide, ?_⟩
  exact calls_of_run rfl rfl (.inr ⟨before.dropLast, rfl⟩) calm undisposed ended

end BusyClassifier

end SnippetDetect
