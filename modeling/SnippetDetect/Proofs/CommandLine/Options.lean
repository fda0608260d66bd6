import SnippetDetect.CommandLine.Run
import SnippetDetect.Proofs.CommandLine.Setting
import SnippetDetect.Proofs.Engine.Default

/-!
The environment or the options.

A variable has the engine made under its value, and an option writes the value over the
configuration afterwards. Either way it is the bundled detectors under the same set-up
(`makeEngine_set`, `makeEngine_give`), so a detection ends the same but for two cases
(`variable_or_option`). The empty text is an order of nothing in the environment, and no order at all
among the options. And what the options ask for is refused when it leaves no detector enabled, but an
engine that is made so is not (`run_of_runsMute`).
-/

namespace SnippetDetect

open SnippetDetect.Settings (items)

namespace CommandLine

/-! ### The engine of a request -/

/-- The set-up that the settings ask for. -/
def setupOf (s : Settings) : Setup := ⟨s.order, s.threshold, s.allowed⟩

/-- The set-up when a request is written over it. -/
def requested (r : DetectRequest) (w : Setup) : Setup where
  order := ((r.order.filter (!·.isEmpty)).map items).getD w.order
  threshold := (r.threshold.map .float).getD w.threshold
  allowed := (r.languages.map items).getD w.allowed

theorem overrides_eq (r : DetectRequest) :
    overrides r = Changes.membersOf ((r.order.filter (!·.isEmpty)).map items)
      (r.threshold.map .float) (r.languages.map items) := by
  unfold overrides Changes.membersOf
  simp only [Option.map_map]
  rfl

theorem overrides_eq_nil_iff {r : DetectRequest} :
    overrides r = [] ↔
      r.order.filter (!·.isEmpty) = none ∧ r.threshold = none ∧ r.languages = none := by
  simp [overrides]

/-- A request for nothing leaves the set-up as it is. -/
theorem requested_of_overrides {r : DetectRequest} (nothing : overrides r = []) (w : Setup) :
    requested r w = w := by
  obtain ⟨order, threshold, languages⟩ := overrides_eq_nil_iff.mp nothing
  rw [requested, order, threshold, languages]
  rfl

/-- A request fails when it asks for something and no detector is enabled then. -/
theorem override_engine {b : Engine.Bundle} (sound : b.Sound) (r : DetectRequest) (w : Setup) :
    override (b.engine w) (overrides r) =
      if overrides r ≠ [] ∧ (b.engine (requested r w)).registry.order = [] then
        .error (.options Engine.noneEnabled)
      else .ok (b.engine (requested r w)) := by
  by_cases nothing : overrides r = []
  · rw [override, nothing, requested_of_overrides nothing]
    simp
  · have some : (overrides r).isEmpty = false := by simpa using nothing
    have written : (b.engine w).apply (.obj (overrides r)) =
        let e := b.engine (requested r w)
        (⟨e.validate.isValid, e.issues, e.validate.warnings⟩, e) := by
      rw [overrides_eq]
      exact b.apply_engine w sound.fresh ..
    have valid : (b.engine (requested r w)).validate.isValid =
        (b.engine (requested r w)).issues.isEmpty := rfl
    simp only [override, some, written, valid, b.issues_engine]
    by_cases none : (b.engine (requested r w)).registry.order = [] <;>
      simp [nothing, none, Engine.noneEnabled]

/-- A command line without a configuration file gets the bundled detectors under the settings, with
its request written over them. -/
theorem makeEngine_detect {r : DetectRequest} (noFile : r.configFile.filter (!·.isEmpty) = none)
    (s : Surroundings) (settings : Settings) :
    makeEngine s settings (.detect r) =
      ((Engine.bundleOf settings s.lexers s.depth s.files s.clock).mapError .fault >>= fun b =>
        override (b.engine (setupOf settings)) (overrides r)) := by
  have noPath : (Command.detect r).configFile.filter (!·.isEmpty) = none := noFile
  rw [makeEngine, Engine.ofSettings_eq, noPath]
  cases Engine.bundleOf settings s.lexers s.depth s.files s.clock <;> rfl

theorem order_engine_eq_nil_iff {b : Engine.Bundle} {w : Setup} :
    (b.engine w).registry.order = [] ↔ ∀ name ∈ w.order, name ∉ Engine.bundledNames := by
  show (w.order.filter Engine.bundledNames.contains).eraseDups = [] ↔ _
  simp only [List.eq_nil_iff_forall_not_mem, List.mem_eraseDups, List.mem_filter,
    List.contains_iff_mem, not_and]

/-! ### The same request both ways -/

namespace Setting

variable {setting : Setting} {value : String}

theorem bundleOf_set (s : Settings) (lexers : Lexers) (depth : Nat) (fs : Files)
    (clock : Binary64) :
    Engine.bundleOf (setting.set value s) lexers depth fs clock =
      Engine.bundleOf s lexers depth fs clock := by
  cases setting <;> rfl

/-- A request for the value, over settings without it, asks for the same as the request without it
does over settings with it. -/
theorem requested_give (fits : setting.Fits value) (counts : setting = .order → value ≠ "")
    {r : DetectRequest} (absent : setting.isGivenIn r = false) (s : Settings) :
    requested (setting.give value r) (setupOf s) = requested r (setupOf (setting.set value s)) := by
  cases setting with
  | order =>
    have unset : r.order = none := by simpa [isGivenIn] using absent
    have nonempty : value.isEmpty = false := by simpa using counts rfl
    simp [requested, setupOf, give, set, unset, Option.filter_some, nonempty]
  | languages =>
    have unset : r.languages = none := by simpa [isGivenIn] using absent
    simp [requested, setupOf, give, set, unset]
  | threshold =>
    obtain ⟨x, read, -⟩ := fits
    have unset : r.threshold = none := by simpa [isGivenIn] using absent
    simp [requested, setupOf, give, set, unset, read]

theorem overrides_give (fits : setting.Fits value) (counts : setting = .order → value ≠ "")
    (r : DetectRequest) : overrides (setting.give value r) ≠ [] := by
  intro nothing
  obtain ⟨order, threshold, languages⟩ := overrides_eq_nil_iff.mp nothing
  cases setting with
  | order => simp [give, counts rfl] at order
  | languages => simp [give] at languages
  | threshold =>
    obtain ⟨x, read, -⟩ := fits
    simp [give, read] at threshold

/-- The empty order is none. -/
theorem overrides_give_empty {r : DetectRequest} (absent : Setting.order.isGivenIn r = false) :
    overrides (Setting.order.give "" r) = overrides r := by
  have unset : r.order = none := by simpa [isGivenIn] using absent
  simp [overrides, give, unset]

theorem noFile_give {r : DetectRequest} (noFile : r.configFile.filter (!·.isEmpty) = none) :
    (setting.give value r).configFile.filter (!·.isEmpty) = none := by
  cases setting <;> exact noFile

section Made

variable {r : DetectRequest} (noFile : r.configFile.filter (!·.isEmpty) = none) {s : Surroundings}
  {settings : Settings} {b : Engine.Bundle}
  (made : Engine.bundleOf settings s.lexers s.depth s.files s.clock = .ok b)
include noFile made

/-- By the variable, the engine is only refused when the request asks for something else. -/
theorem makeEngine_set :
    let e := b.engine (requested r (setupOf (setting.set value settings)))
    makeEngine s (setting.set value settings) (.detect r) =
      if overrides r ≠ [] ∧ e.registry.order = [] then .error (.options Engine.noneEnabled)
      else .ok e := by
  rw [makeEngine_detect noFile, bundleOf_set, made]
  exact override_engine (Engine.bundleOf_sound made) r _

/-- By the option, it is the same engine, and refused whenever it detects with nothing. -/
theorem makeEngine_give (fits : setting.Fits value) (counts : setting = .order → value ≠ "")
    (absent : setting.isGivenIn r = false) :
    let e := b.engine (requested r (setupOf (setting.set value settings)))
    makeEngine s settings (.detect (setting.give value r)) =
      if e.registry.order = [] then .error (.options Engine.noneEnabled) else .ok e := by
  have refused := override_engine (Engine.bundleOf_sound made) (setting.give value r)
    (setupOf settings)
  rw [requested_give fits counts absent] at refused
  rw [makeEngine_detect (noFile_give noFile), made]
  refine refused.trans ?_
  simp only [ne_eq, overrides_give fits counts r, not_false_eq_true, true_and]

end Made

/-- The engines of the two ways are the same, unless no detector is enabled and the way by the
variable asks for nothing else: then it does not fail. -/
theorem makeEngine_set_or (fits : setting.Fits value) (counts : setting = .order → value ≠ "")
    {r : DetectRequest} (absent : setting.isGivenIn r = false)
    (noFile : r.configFile.filter (!·.isEmpty) = none) (s : Surroundings) (settings : Settings) :
    makeEngine s (setting.set value settings) (.detect r) =
        makeEngine s settings (.detect (setting.give value r)) ∨
      ∃ e, makeEngine s (setting.set value settings) (.detect r) = .ok e ∧
        e.registry.order = [] ∧ overrides r = [] ∧
        (∀ name ∈ (setting.set value settings).order, name ∉ Engine.bundledNames) ∧
        makeEngine s settings (.detect (setting.give value r)) =
          .error (.options Engine.noneEnabled) := by
  cases made : Engine.bundleOf settings s.lexers s.depth s.files s.clock with
  | error fault =>
    left
    rw [makeEngine_detect noFile, makeEngine_detect (noFile_give noFile), bundleOf_set, made]
    rfl
  | ok b =>
    rw [makeEngine_set noFile made, makeEngine_give noFile made fits counts absent]
    generalize same : requested r (setupOf (setting.set value settings)) = w
    by_cases mute : (b.engine w).registry.order = []
    · by_cases nothing : overrides r = []
      · refine .inr ⟨_, if_neg fun both => both.1 nothing, mute, nothing, ?_, if_pos mute⟩
        rw [← same, requested_of_overrides nothing] at mute
        exact order_engine_eq_nil_iff.mp mute
      · exact .inl (by rw [if_pos ⟨nothing, mute⟩, if_pos mute])
    · exact .inl (by rw [if_neg fun both => mute both.2, if_neg mute])

/-- The value changes neither what is read nor what is looked for in it. -/
theorem runWith_give (s : Surroundings) (e : Engine) (r : DetectRequest) :
    (Command.detect (setting.give value r)).runWith s e = (Command.detect r).runWith s e := by
  cases setting <;> rfl

theorem isOutOfRange_give (fits : setting.Fits value) {r : DetectRequest}
    (absent : setting.isGivenIn r = false) :
    (Command.detect (setting.give value r)).isOutOfRange = (Command.detect r).isOutOfRange := by
  cases setting with
  | order | languages => rfl
  | threshold =>
    obtain ⟨x, read, range⟩ := fits
    have unset : r.threshold = none := by simpa [isGivenIn] using absent
    simp [Command.isOutOfRange, give, read, range, unset]

end Setting

/-- The surroundings with one more variable. -/
def Surroundings.having (s : Surroundings) (name value : String) : Surroundings :=
  { s with environment := (name, value) :: s.environment }

/-- The command line asks for a detection and for none of the settings, and the environment orders
only detectors that the default engine does not have. The engine is made all the same. -/
structure RunsMute (s : Surroundings) (args : List String) (settings : Settings)
    (r : DetectRequest) (e : Engine) : Prop where
  told : Settings.ofEnvironment s.environment = .ok settings
  asked : Command.read args = .ok (.detect r)
  nothing : overrides r = []
  foreign : ∀ name ∈ settings.order, name ∉ Engine.bundledNames
  made : makeEngine s settings (.detect r) = .ok e
  mute : e.registry.order = []

/-- What is printed when the options leave no detector enabled. -/
def noneEnabledPrintout : Printout where
  status := 1
  errors := ["Error: Orchestrator configuration is invalid; No detectors are enabled"]

section Ways

variable {setting : Setting} {value : String} {s : Surroundings}

/-- A command line that can be read is carried out under the settings of the environment. -/
theorem run_of_read {args : List String} {c : Command} (read : Command.read args = .ok c) :
    run s args =
      match Settings.ofEnvironment s.environment with
      | .error fault => .misuse (some ("Invalid environment configuration: " ++ fault.message))
      | .ok settings =>
          if c.isOutOfRange then .misuse (some "--threshold must be between 0 and 100")
          else .printed (c.run s settings) := by
  unfold run
  cases Settings.ofEnvironment s.environment <;> simp only [read]

/-- A detection that asks for no threshold asks for none out of range. -/
theorem isOutOfRange_of_overrides {r : DetectRequest} (nothing : overrides r = []) :
    (Command.detect r).isOutOfRange = false := by
  rw [Command.isOutOfRange, (overrides_eq_nil_iff.mp nothing).2.1]
  rfl

/-- With no engine there is only the error line. -/
theorem run_of_refused {args : List String} {r : DetectRequest} {settings : Settings}
    (read : Command.read args = .ok (.detect r))
    (told : Settings.ofEnvironment s.environment = .ok settings)
    (inRange : (Command.detect r).isOutOfRange = false)
    (refused : makeEngine s settings (.detect r) = .error (.options Engine.noneEnabled)) :
    run s args = .printed noneEnabledPrintout := by
  rw [run_of_read read, told]
  dsimp only
  rw [inRange, Command.run, refused]
  rfl

/-- The same engine gives the same printout. -/
theorem run_detect_congr {r : DetectRequest} {settings : Settings}
    (same : makeEngine s (setting.set value settings) (.detect r) =
      makeEngine s settings (.detect (setting.give value r))) :
    (Command.detect r).run (s.having setting.variableName value) (setting.set value settings) =
      (Command.detect (setting.give value r)).run s settings := by
  have madeAlike : makeEngine (s.having setting.variableName value) (setting.set value settings)
      (.detect r) = makeEngine s settings (.detect (setting.give value r)) := same
  have runAlike (e : Engine) :
      (Command.detect r).runWith (s.having setting.variableName value) e =
        (Command.detect (setting.give value r)).runWith s e := by
    rw [Setting.runWith_give]
    rfl
  rw [Command.run, Command.run, madeAlike]
  simp only [runAlike]

/-- A value that counts is the same by the variable and by the option, unless the variable leaves no
detector enabled: that ends only the way by the option. -/
theorem run_having (fits : setting.Fits value)
    (unset : s.environment.lookup setting.variableName = none)
    (counts : setting = .order → value ≠ "") {args others : List String}
    (given : setting.Gives value args others)
    (noFile : ∀ r, Command.read args = .ok (.detect r) → r.configFile.filter (!·.isEmpty) = none) :
    run (s.having setting.variableName value) args = run s others ∨
      (∃ settings r e, RunsMute (s.having setting.variableName value) args settings r e) ∧
        run s others = .printed noneEnabledPrintout := by
  cases given with
  | @stopped stop first second =>
    left
    rw [run, run, first, second]
    cases stop <;> rfl
  | @asked r first absent second =>
    have told : Settings.ofEnvironment (s.having setting.variableName value).environment =
        (Settings.ofEnvironment s.environment).map (setting.set value) :=
      setting.ofEnvironment_cons fits unset
    cases unchanged : Settings.ofEnvironment s.environment with
    | error fault =>
      left
      rw [run_of_read first, run_of_read second, told, unchanged]
      rfl
    | ok settings =>
      rw [unchanged] at told
      obtain same | ⟨e, made, mute, nothing, foreign, refused⟩ :=
        Setting.makeEngine_set_or fits counts absent (noFile r first) s settings
      · left
        rw [run_of_read first, run_of_read second, told, unchanged]
        dsimp only [Except.map]
        rw [Setting.isOutOfRange_give fits absent, run_detect_congr same]
      · have inRange := (Setting.isOutOfRange_give fits absent).trans
          (isOutOfRange_of_overrides nothing)
        exact .inr ⟨⟨_, r, e, told, first, nothing, foreign, made, mute⟩,
          run_of_refused second unchanged inRange refused⟩

/-- A text is looked at without an error. -/
theorem exists_runDetect (e : Engine) (code : String) (r : DetectRequest) :
    ∃ printout, runDetect e code r = .ok printout ∧ printout.errors = [] := by
  unfold runDetect
  split
  · exact ⟨_, rfl, rfl⟩
  · exact ⟨_, rfl, rfl⟩
  · obtain ⟨answer, detected⟩ := e.exists_detect_text code e.cache.isSome
    rw [detected]
    exact ⟨_, rfl, rfl⟩

/-- With no detector enabled, a detection goes on like any other. -/
theorem run_of_runsMute {args : List String} {settings : Settings} {r : DetectRequest} {e : Engine}
    (muted : RunsMute s args settings r e) {code : String}
    (source : readSource s r.file = .ok code) :
    ∃ printout, runDetect e code r = .ok printout ∧ run s args = .printed printout ∧
      printout.errors = [] := by
  obtain ⟨printout, detected, unharmed⟩ := exists_runDetect e code r
  have given : (Command.detect r).runWith s e = .ok printout := by
    rw [Command.runWith, source]
    exact detected
  have carriedOut : (Command.detect r).run s settings = printout := by
    simp only [Command.run, muted.made, bind, Except.bind, given]
  refine ⟨printout, detected, ?_, unharmed⟩
  rw [run_of_read muted.asked, muted.told]
  dsimp only
  rw [isOutOfRange_of_overrides muted.nothing, carriedOut]
  rfl

/-- With the empty order, a detection is the one without it. -/
theorem run_give_empty {args others : List String} (given : Setting.order.Gives "" args others) :
    run s others = run s args := by
  cases given with
  | @stopped stop first second =>
    rw [run, run, first, second]
  | @asked r first absent second =>
    have madeAlike (settings : Settings) :
        makeEngine s settings (.detect (Setting.order.give "" r)) =
          makeEngine s settings (.detect r) := by
      have unasked : (Command.detect (Setting.order.give "" r)).overrides =
          (Command.detect r).overrides := Setting.overrides_give_empty absent
      rw [makeEngine, makeEngine, unasked]
      rfl
    have runAlike (settings : Settings) :
        (Command.detect (Setting.order.give "" r)).run s settings =
          (Command.detect r).run s settings := by
      rw [Command.run, Command.run, madeAlike]
      rfl
    rw [run_of_read first, run_of_read second]
    simp only [runAlike]
    rfl

end Ways

/-- Let a variable be unset. A detection ends the same with the variable and with the option in its
place, unless the value is an empty order, which does not count among the options, or the settings of
the environment leave no detector enabled and only the option writes over them, which it then must
not. -/
theorem variable_or_option {setting : Setting} {value : String} (fits : setting.Fits value)
    {s : Surroundings} (unset : s.environment.lookup setting.variableName = none) :
    (∀ args, setting.AbsentFrom args →
      setting.Gives value ("detect" :: args)
        ("detect" :: optionWord setting.optionName value :: args)) ∧
    ∀ args others, setting.Gives value args others →
      (∀ r, Command.read args = .ok (.detect r) → r.configFile.filter (!·.isEmpty) = none) →
        run (s.having setting.variableName value) args = run s others ∨
        setting = .order ∧ value = "" ∧ run s others = run s args ∨
        (∃ settings r e, RunsMute (s.having setting.variableName value) args settings r e) ∧
          run s others = .printed noneEnabledPrintout := by
  refine ⟨fun args absent => Setting.gives_optionWord fits absent, ?_⟩
  intro args others given noFile
  by_cases empty : setting = .order ∧ value = ""
  · obtain ⟨rfl, rfl⟩ := empty
    exact .inr (.inl ⟨rfl, rfl, run_give_empty given⟩)
  · have counts : setting = .order → value ≠ "" := fun isOrder isEmpty => empty ⟨isOrder, isEmpty⟩
    obtain same | muted := run_having fits unset counts given noFile
    · exact .inl same
    · exact .inr (.inr muted)

/-! ### One way and the other -/

/-- Nothing but a snippet of one letter on the standard input. -/
def bare : Surroundings where
  environment := []
  files := ⟨[], []⟩
  input := ['x'.toNat]
  lexers := .absent
  depth := 0
  clock := Binary64.zero

theorem read_nil : detectGrammar.read [] = ⟨[], true⟩ := by
  show detectGrammar.readWords _ [] = _
  rw [Grammar.readWords]
  rfl

theorem absentFrom_nil (setting : Setting) : setting.AbsentFrom [] := by
  rw [Setting.AbsentFrom, read_nil]
  nofun

theorem read_detect_nil : Command.read ["detect"] = .ok (.detect {}) := by
  rw [read_detect, read_nil]
  rfl

/-- Without variables the settings are the usual ones. -/
theorem ofEnvironment_nil : ∃ settings, Settings.ofEnvironment [] = .ok settings ∧
    settings.order = Engine.defaultOrder ∧ settings.languagesFolder = none ∧
    1 ≤ settings.cacheSize := by
  have inRange : (!Engine.defaultThreshold.within 0 100) = false := by decide +kernel
  have level : LogLevel.ofName? (Text.upper "WARNING") = some .warning := by decide +kernel
  refine ⟨⟨Engine.defaultThreshold, Engine.defaultOrder, Engine.defaultAllowed, true, 1000, 3600,
    none, .warning⟩, ?_, rfl, rfl, by decide⟩
  show Settings.ofWishes {} = _
  unfold Settings.ofWishes
  simp only [inRange, level]
  rfl

theorem fits_threshold : Setting.threshold.Fits "92.5" := by
  have inRange :
      ((Number.readFloat? "92.5").any fun x => (Number.float x).within 0 100) = true := by
    decide +kernel
  rwa [Option.any_eq_true] at inRange

theorem variable_or_option_threshold :
    run (bare.having "FENCE_LANG_CONFIDENCE_THRESHOLD" "92.5") ["detect"] =
      run bare ["detect", "--threshold=92.5"] := by
  obtain ⟨words, ways⟩ := variable_or_option fits_threshold (s := bare) rfl
  obtain same | ⟨other, -⟩ | ⟨⟨settings, r, e, muted⟩, -⟩ :=
    ways _ _ (words [] (absentFrom_nil _)) fun r read => by
      rw [read_detect_nil] at read
      cases read
      rfl
  · exact same
  · cases other
  · obtain ⟨usual, toldUsual, order, -⟩ := ofEnvironment_nil
    have told := muted.told.symm.trans (Setting.ofEnvironment_cons fits_threshold rfl)
    rw [show bare.environment = [] from rfl, toldUsual] at told
    cases told
    exact absurd List.mem_cons_self (muted.foreign "pygments" (order ▸ by decide))

/-- An order of strangers is refused only as an option. -/
theorem variable_ne_option_order :
    run (bare.having "FENCE_LANG_DETECTION_ORDER" "magika") ["detect"] ≠
      run bare ["detect", "--order=magika"] := by
  obtain ⟨usual, told, -, noFolder, room⟩ := ofEnvironment_nil
  obtain ⟨b, bundle⟩ := Engine.exists_bundleOf noFolder room bare.lexers bare.depth bare.files
    bare.clock
  have fits : Setting.order.Fits "magika" := trivial
  have toldToo : Settings.ofEnvironment [("FENCE_LANG_DETECTION_ORDER", "magika")] =
      (Settings.ofEnvironment []).map (Setting.order.set "magika") :=
    Setting.ofEnvironment_cons fits rfl
  rw [told] at toldToo
  have given : Setting.order.Gives "magika" ["detect"] ["detect", "--order=magika"] :=
    Setting.gives_optionWord fits (absentFrom_nil _)
  have second : Command.read ["detect", "--order=magika"] =
      .ok (.detect (Setting.order.give "magika" {})) := by
    cases given with
    | stopped first _ => cases read_detect_nil.symm.trans first
    | asked first _ second =>
      cases read_detect_nil.symm.trans first
      exact second
  have counts : Setting.order = .order → "magika" ≠ "" := fun _ => by decide
  have foreign : ∀ name ∈ items "magika", name ∉ Engine.bundledNames := by decide
  have mute :
      (b.engine (requested {} (setupOf (Setting.order.set "magika" usual)))).registry.order = [] := by
    rw [requested_of_overrides rfl, order_engine_eq_nil_iff]
    exact foreign
  have made : makeEngine bare (Setting.order.set "magika" usual) (.detect {}) = .ok _ :=
    (Setting.makeEngine_set rfl bundle).trans (if_neg fun both => both.1 rfl)
  have refused : makeEngine bare usual (.detect (Setting.order.give "magika" {})) =
      .error (.options Engine.noneEnabled) :=
    (Setting.makeEngine_give rfl bundle fits counts rfl).trans (if_pos mute)
  have muted : RunsMute (bare.having "FENCE_LANG_DETECTION_ORDER" "magika") ["detect"]
      (Setting.order.set "magika" usual) {} _ :=
    ⟨toldToo, read_detect_nil, rfl, foreign, made, mute⟩
  have source : readSource (bare.having "FENCE_LANG_DETECTION_ORDER" "magika") none = .ok "x" := rfl
  obtain ⟨printout, -, printed, unharmed⟩ := run_of_runsMute muted source
  rw [printed, run_of_refused second told rfl refused]
  intro same
  injection same with same
  rw [same] at unharmed
  cases unharmed

end CommandLine

end SnippetDetect
