import SnippetDetect.CommandLine.Command
import SnippetDetect.Proofs.CommandLine.Reading
import SnippetDetect.Proofs.Number.Gates
import SnippetDetect.Settings.Environment

/-!
Settings with two names.

The order, the languages and the threshold have a variable in the environment and an option of
`detect`. The option with its value right behind `detect` gives the request that value and changes
nothing else (`gives_optionWord`), whatever the other words are as long as they do not give the
setting too. The variable does the same to the settings (`ofEnvironment_cons`).
-/

namespace SnippetDetect

open SnippetDetect.Settings (items)

namespace CommandLine

/-- A setting that a variable or an option of `detect` can give. -/
inductive Setting where
  | order
  | languages
  | threshold

namespace Setting

def variableName : Setting → String
  | .order => "FENCE_LANG_DETECTION_ORDER"
  | .languages => "FENCE_LANG_PATTERN_LANGUAGES"
  | .threshold => "FENCE_LANG_CONFIDENCE_THRESHOLD"

def optionName : Setting → String
  | .order => "--order"
  | .languages => "--languages"
  | .threshold => "--threshold"

def part : Setting → DetectPart
  | .order => .order
  | .languages => .languages
  | .threshold => .threshold

/-- The values in question: any order, any list of languages, and the thresholds in range. -/
def Fits : Setting → String → Prop
  | .order, _ => True
  | .languages, _ => True
  | .threshold, value =>
      ∃ x, Number.readFloat? value = some x ∧ (Number.float x).within 0 100 = true

/-- The request with the value. -/
def give (value : String) (r : DetectRequest) : Setting → DetectRequest
  | .order => { r with order := some value }
  | .languages => { r with languages := some value }
  | .threshold => { r with threshold := Number.readFloat? value }

def isGivenIn (r : DetectRequest) : Setting → Bool
  | .order => r.order.isSome
  | .languages => r.languages.isSome
  | .threshold => r.threshold.isSome

/-- The settings with the value. -/
def set (value : String) (s : Settings) : Setting → Settings
  | .order => { s with order := items value }
  | .languages => { s with allowed := items value }
  | .threshold => { s with threshold := (Number.readFloat? value).elim s.threshold .float }

/-- The second command line asks for a detection as the first one does, and gives the value as well,
which the first one does not; or neither can be read, for the same reason. -/
inductive Gives (setting : Setting) (value : String) (args others : List String) : Prop
  | stopped {stop : Stop} (first : Command.read args = .error stop)
      (second : Command.read others = .error stop)
  | asked {r : DetectRequest} (first : Command.read args = .ok (.detect r))
      (absent : setting.isGivenIn r = false)
      (second : Command.read others = .ok (.detect (setting.give value r)))

/-! ### Reading -/

/-- Words in which the option does not stand. -/
def AbsentFrom (setting : Setting) (args : List String) : Prop :=
  ∀ use ∈ (detectGrammar.read args).uses, use.part ≠ setting.part

variable {setting : Setting} {value : String}

/-- All other parts of a request are taken as if the value was not there. -/
theorem take_give {use : Use DetectPart} (other : use.part ≠ setting.part) (r : DetectRequest) :
    (setting.give value r).take use = (r.take use).map (setting.give value) := by
  obtain ⟨part, values⟩ := use
  have asked (protocol : Protocol) :
      (setting.give value r).ask protocol = (r.ask protocol).map (setting.give value) := by
    have same : (setting.give value r).protocol = r.protocol := by cases setting <;> rfl
    unfold DetectRequest.ask
    rw [same]
    split
    · cases setting <;> rfl
    · rfl
  cases part with
  | all => exact asked .all
  | analyze => exact asked .analysis
  | threshold =>
    cases setting with
    | threshold => exact absurd rfl other
    | order | languages =>
      simp only [DetectRequest.take]
      cases values.head?.bind Number.readFloat? <;> rfl
  | order =>
    cases setting with
    | order => exact absurd rfl other
    | languages | threshold => rfl
  | languages =>
    cases setting with
    | languages => exact absurd rfl other
    | order | threshold => rfl
  | help | file | config | json => cases setting <;> rfl

/-- No other part gives the value. -/
theorem isGivenIn_take {use : Use DetectPart} (other : use.part ≠ setting.part)
    {r next : DetectRequest} (taken : r.take use = .ok next) :
    setting.isGivenIn next = setting.isGivenIn r := by
  obtain ⟨part, values⟩ := use
  have asked {protocol : Protocol} (taken : r.ask protocol = .ok next) :
      setting.isGivenIn next = setting.isGivenIn r := by
    unfold DetectRequest.ask at taken
    split at taken <;> cases taken
    cases setting <;> rfl
  cases part with
  | all => exact asked taken
  | analyze => exact asked taken
  | threshold =>
    simp only [DetectRequest.take] at taken
    split at taken <;> cases taken
    cases setting with
    | threshold => exact absurd rfl other
    | order | languages => rfl
  | help => cases taken
  | order =>
    cases taken
    cases setting with
    | order => exact absurd rfl other
    | languages | threshold => rfl
  | languages =>
    cases taken
    cases setting with
    | languages => exact absurd rfl other
    | order | threshold => rfl
  | file | config | json =>
    cases taken
    cases setting <;> rfl

/-- Right behind `detect`, the option gives its value. -/
theorem gives_optionWord (fits : setting.Fits value) {args : List String}
    (absent : setting.AbsentFrom args) :
    setting.Gives value ("detect" :: args)
      ("detect" :: optionWord setting.optionName value :: args) := by
  have long : IsLongName setting.optionName := by cases setting <;> decide
  have named : detectGrammar.names.lookup setting.optionName = some setting.part := by
    cases setting <;> rfl
  have takes : detectGrammar.takesValue setting.part = true := by cases setting <;> rfl
  have foreign :
      ∀ n ∈ mainGrammar.names, setting.optionName.toList.isPrefixOf n.1.toList = false := by
    cases setting <;> decide
  have first : DetectRequest.take {} ⟨setting.part, [value]⟩ = .ok (setting.give value {}) := by
    cases setting with
    | order | languages => rfl
    | threshold =>
      obtain ⟨x, read, -⟩ := fits
      simp only [DetectRequest.take, part, give, List.head?_cons, Option.bind_some, read]
  have without := read_detect args
  have given := read_detect_optionWord long named takes foreign first args
  rw [Reading.interpret_map fun use mem r => take_give (absent use mem) r] at given
  by_cases known : (mainGrammar.words? args).isSome
  · rw [if_pos known] at without given
    cases interpreted : (detectGrammar.read args).interpret DetectRequest.take {} with
    | error stop =>
      rw [interpreted] at without given
      exact .stopped without given
    | ok r =>
      rw [interpreted] at without given
      have lacks : setting.isGivenIn r = false := by
        refine Reading.interpret_keeps (fun r => setting.isGivenIn r = false) ?_ ?_ interpreted
        · intro use mem state next before taken
          rw [isGivenIn_take (absent use mem) taken, before]
        · cases setting <;> rfl
      exact .asked without lacks given
  · rw [if_neg known] at without given
    exact .stopped without given

/-! ### The environment -/

/-- The wishes with the value. -/
def wish (value : String) (w : Settings.Wishes) : Setting → Settings.Wishes
  | .order => { w with order := items value }
  | .languages => { w with allowed := items value }
  | .threshold => { w with threshold := (Number.readFloat? value).elim w.threshold .float }

theorem given?_of_fits (fits : threshold.Fits value) (environment : Environment) :
    Settings.given? ((threshold.variableName, value) :: environment) threshold.variableName =
      some value := by
  have some : value.isEmpty = false := by
    obtain ⟨x, read, -⟩ := fits
    cases empty : value.isEmpty with
    | false => rfl
    | true =>
      rw [String.isEmpty_iff] at empty
      subst empty
      cases read
  rw [Settings.given?, List.lookup_cons_self, Option.filter_some, some]
  rfl

theorem wishes_cons (fits : setting.Fits value) {environment : Environment}
    (unset : environment.lookup setting.variableName = none) :
    Settings.wishes ((setting.variableName, value) :: environment) =
      (Settings.wishes environment).map (setting.wish value) := by
  unfold Settings.wishes
  cases setting with
  | threshold =>
    have given := given?_of_fits fits environment
    obtain ⟨x, read, -⟩ := fits
    have absent : Settings.given? environment "FENCE_LANG_CONFIDENCE_THRESHOLD" = none :=
      congrArg (Option.filter _) unset
    rw [show Settings.given? _ "FENCE_LANG_CONFIDENCE_THRESHOLD" = _ from given, absent]
    simp only [Settings.given?, Settings.listed?, List.lookup_cons, variableName, String.reduceBEq,
      Option.mapM_some, Option.mapM_none, Settings.readThreshold, read, bind_map_ok, wish,
      Option.elim_some]
    rfl
  | order | languages =>
    simp only [Settings.given?, Settings.listed?, List.lookup_cons, variableName, String.reduceBEq,
      bind_map_ok]
    rfl

theorem ofWishes_wish {w : Settings.Wishes}
    (range : (setting.wish value w).threshold.within 0 100 = w.threshold.within 0 100) :
    Settings.ofWishes (setting.wish value w) = (Settings.ofWishes w).map (setting.set value) := by
  unfold Settings.ofWishes
  have counts : (setting.wish value w).cacheSize = w.cacheSize ∧
      (setting.wish value w).cacheAge = w.cacheAge ∧
      (setting.wish value w).logLevel = w.logLevel := by
    cases setting <;> exact ⟨rfl, rfl, rfl⟩
  obtain ⟨size, age, level⟩ := counts
  rw [range, size, age, level]
  by_cases outside : (!w.threshold.within 0 100) = true
  · rw [if_pos outside, if_pos outside]
    rfl
  by_cases small : w.cacheSize < 1
  · rw [if_neg outside, if_pos small, if_neg outside, if_pos small]
    rfl
  by_cases negative : w.cacheAge < 0
  · rw [if_neg outside, if_neg small, if_pos negative, if_neg outside, if_neg small,
      if_pos negative]
    rfl
  rw [if_neg outside, if_neg small, if_neg negative, if_neg outside, if_neg small, if_neg negative]
  cases LogLevel.ofName? (Text.upper w.logLevel) with
  | none => rfl
  | some logLevel => cases setting <;> rfl

theorem threshold_of_wishes {environment : Environment} {w : Settings.Wishes}
    (unset : environment.lookup threshold.variableName = none)
    (wished : Settings.wishes environment = .ok w) : w.threshold = Engine.defaultThreshold := by
  have absent : Settings.given? environment "FENCE_LANG_CONFIDENCE_THRESHOLD" = none :=
    congrArg (Option.filter _) unset
  obtain ⟨value, read, wished⟩ := bind_eq_ok_iff.mp wished
  obtain ⟨size, -, wished⟩ := bind_eq_ok_iff.mp wished
  obtain ⟨age, -, wished⟩ := bind_eq_ok_iff.mp wished
  rw [absent] at read
  cases read
  cases wished
  rfl

/-- With the variable, the settings are the same but for its value. -/
theorem ofEnvironment_cons (fits : setting.Fits value) {environment : Environment}
    (unset : environment.lookup setting.variableName = none) :
    Settings.ofEnvironment ((setting.variableName, value) :: environment) =
      (Settings.ofEnvironment environment).map (setting.set value) := by
  unfold Settings.ofEnvironment
  rw [wishes_cons fits unset, map_bind_ok, bind_map_ok]
  refine bind_congr_ok fun w wished => ofWishes_wish ?_
  cases setting with
  | threshold =>
    obtain ⟨x, read, range⟩ := fits
    rw [wish, read, Option.elim_some, range, threshold_of_wishes unset wished]
    decide +kernel
  | order | languages => rfl

end Setting

end CommandLine

end SnippetDetect
