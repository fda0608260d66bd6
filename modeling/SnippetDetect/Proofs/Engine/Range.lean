import SnippetDetect.Proofs.Engine.Reachable
import SnippetDetect.Proofs.Registry.Order

/-!
The threshold stays from 0 to 100, and every gate from 0 to 1.

An engine is written through its own actions, but its threshold, its registry and its detectors can
be written directly as well, with any number (`Access`). Every such write keeps the engine in range
(`InRange.access`), also one that is refused: a number is clamped before it is kept, and one that is
too large to be clamped is not kept at all. Of what makes a configuration valid only one thing is
left open, whether some detector is enabled (`range_of_run`).
-/

namespace SnippetDetect

/-! ### Detectors -/

namespace Detector

/-- A write to a detector. -/
inductive Write where
  | gate (value : Number)
  | threshold (value : Number)
  | allowed (languages : List String)
  | payload (members : Members)

/-- The detector after a write; a number that is refused changes nothing. -/
def after (d : Detector) : Write → Detector
  | .gate value => (d.setGate value).toOption.getD d
  | .threshold value => (d.setThreshold value).toOption.getD d
  | .allowed languages => d.setAllowed languages
  | .payload members => (d.configure members).2

/-- A detector as its constructors, its own writes and detection leave it. -/
inductive Built : Detector → Prop
  | ofLanguages {languages : List Language} {gate : Number} {allowed : List String} {d : Detector}
      (made : ofLanguages languages gate allowed = .ok d) : Built d
  | ofLexers {lexers : Lexers} {gate : Number} {d : Detector}
      (made : ofLexers lexers gate = .ok d) : Built d
  | ofClassifier {source : ModelSource} {mapping : List (String × String)}
      {languages : Option (List String)} {gate : Number} {d : Detector}
      (made : ofClassifier (Classifier.create source mapping languages) gate = .ok d) : Built d
  | ofCustom {name displayName description : String} {gate : Number} {custom : Custom}
      {d : Detector} (made : ofCustom name displayName description gate custom = .ok d) : Built d
  | after {d : Detector} (built : Built d) (w : Write) : Built (d.after w)
  | detect {d : Detector} (built : Built d) (code : Snippet) : Built (d.detect code).2

variable {d : Detector}

theorem after_name (d : Detector) (w : Write) : (d.after w).name = d.name := by
  cases w with
  | gate value =>
    simp only [after, setGate]
    cases gateOf value <;> rfl
  | threshold value =>
    simp only [after, setThreshold]
    cases gateOfThreshold value <;> rfl
  | allowed languages => exact setAllowed_name d languages
  | payload members => exact configure_name d members

theorem WellFormed.after (wellFormed : d.WellFormed) (w : Write) : (d.after w).WellFormed := by
  cases w with
  | gate value =>
    simp only [Detector.after, setGate]
    cases read : gateOf value with
    | error fault => exact wellFormed
    | ok gate => exact wellFormed_withGate wellFormed (isGate_of_gateOf read)
  | threshold value =>
    simp only [Detector.after, setThreshold]
    cases read : gateOfThreshold value with
    | error fault => exact wellFormed
    | ok gate => exact wellFormed_withGate wellFormed (isGate_of_gateOfThreshold read)
  | allowed languages => exact wellFormed_setAllowed wellFormed languages
  | payload members => exact wellFormed_configure wellFormed members

theorem Built.wellFormed (built : d.Built) : d.WellFormed := by
  induction built with
  | ofLanguages made => exact wellFormed_ofLanguages made
  | ofLexers made => exact wellFormed_ofLexers made
  | ofClassifier made =>
    refine wellFormed_ofClassifier (fun model same => ?_) made
    cases same
  | ofCustom made => exact wellFormed_ofCustom made
  | after _ w ih => exact ih.after w
  | detect _ code ih => exact wellFormed_detect ih code

end Detector

/-! ### Registries -/

/-- A write to a registry that brings no detector, or one that was built. -/
def Registry.Write.Built : Registry.Write → Prop
  | .register d => d.Built
  | _ => True

theorem Registry.WellFormed.after {r : Registry} (wellFormed : r.WellFormed) {w : Write}
    (built : w.Built) : (r.after w).WellFormed := by
  cases w with
  | register d => exact wellFormed.register built.wellFormed
  | unregister name => exact wellFormed.unregister name
  | setOrder names => exact wellFormed.setOrder names
  | enable name => exact wellFormed.enable name
  | disable name => exact wellFormed.disable name
  | setEnabled name enabled => exact wellFormed.setEnabled name enabled

/-- To push one gate to all detectors changes all of them or none. -/
theorem Registry.WellFormed.setGates {r : Registry} (wellFormed : r.WellFormed) {value : Number}
    {pushed : Registry} (made : r.setGates value = .ok pushed) : pushed.WellFormed := by
  unfold Registry.setGates at made
  split at made
  · cases made
    exact wellFormed
  · cases read : gateOf value with
    | error fault => simp [read, Except.map] at made
    | ok gate =>
      obtain rfl : r.mapDetectors (fun d => { d with gate }) = pushed := by
        simpa [read, Except.map] using made
      exact wellFormed.mapDetectors (f := fun d => { d with gate }) (fun _ => rfl) fun _ part =>
        Detector.wellFormed_withGate part (isGate_of_gateOf read)

namespace Engine

/-! ### Engines in range -/

/-- An engine whose threshold and whose gates are clamped, and whose order names registered
detectors. -/
structure InRange (e : Engine) : Prop where
  registry : e.registry.WellFormed
  threshold : clampThreshold e.threshold = e.threshold

namespace InRange

variable {e : Engine}

theorem withRegistry (inRange : e.InRange) {registry : Registry}
    (wellFormed : registry.WellFormed) : ({ e with registry } : Engine).InRange :=
  ⟨wellFormed, inRange.threshold⟩

theorem clearCache (inRange : e.InRange) : e.clearCache.InRange :=
  ⟨inRange.registry, inRange.threshold⟩

theorem setOrder (inRange : e.InRange) (names : List String) : (e.setOrder names).InRange :=
  inRange.withRegistry (inRange.registry.setOrder names)

theorem setThreshold (inRange : e.InRange) (value : Number) : (e.setThreshold value).InRange :=
  ⟨inRange.registry, clampThreshold_idempotent value⟩

theorem setAllowed (inRange : e.InRange) (languages : List String) :
    (e.setAllowed languages).InRange :=
  ⟨((Unfinished.refl inRange.registry).setAllowed languages).registry, inRange.threshold⟩

theorem pushThreshold (inRange : e.InRange) (value : Number) : (e.pushThreshold value).InRange := by
  refine ⟨((Unfinished.refl inRange.registry).pushThreshold value).registry, ?_⟩
  obtain ⟨gate, -, pushed⟩ := pushThreshold_eq e value
  rw [pushed]
  exact clampThreshold_idempotent value

/-- A registered detector may be replaced by one that is well formed. -/
theorem put (inRange : e.InRange) {name : String} {d changed : Detector}
    (found : e.registry.get? name = some d) (same : changed.name = d.name)
    (part : changed.WellFormed) :
    ({ e with registry := e.registry.put changed } : Engine).InRange := by
  refine inRange.withRegistry (inRange.registry.put ?_ part)
  rw [same, inRange.registry.name_of_get? found]
  exact Registry.isRegistered_of_get? found

theorem overrideThreshold (inRange : e.InRange) (name : String) (value : Number) :
    (e.overrideThreshold name value).InRange := by
  cases found : e.registry.get? name with
  | none =>
    rw [overrideThreshold_of_none found]
    exact inRange
  | some d =>
    obtain ⟨gate, made, overridden⟩ := overrideThreshold_eq found value
    rw [overridden]
    exact inRange.put found rfl (Detector.wellFormed_withGate (inRange.registry.of_get? found)
      (isGate_of_gateOfThreshold made))

theorem overrideThresholds (inRange : e.InRange) (thresholds : List (String × Number)) :
    (thresholds.foldl (fun e (name, value) => e.overrideThreshold name value) e).InRange := by
  induction thresholds generalizing e with
  | nil => exact inRange
  | cons entry rest ih => exact ih (inRange.overrideThreshold entry.1 entry.2)

theorem applyPayload (inRange : e.InRange) (name : String) (payload : Members) :
    (e.applyPayload name payload).2.InRange := by
  rcases e.configurable_or_other name with ⟨d, found, configurable⟩ | other
  · obtain ⟨routed, there, -, after⟩ := applyPayload_of_configurable found configurable payload
    have route : (e.routeAllowed d payload).2.InRange := by
      rw [routeAllowed_snd]
      cases routedList? d payload with
      | none => exact inRange
      | some languages => exact inRange.setAllowed languages
    rw [after]
    exact route.put there (Detector.configure_name routed _)
      (Detector.wellFormed_configure (route.registry.of_get? there) _)
  · rw [applyPayload_of_other other]
    exact inRange

theorem applyPayloads (inRange : e.InRange) (payloads : List (String × Members)) :
    (e.applyPayloads payloads).2.InRange := by
  induction payloads generalizing e with
  | nil => exact inRange
  | cons entry rest ih => exact ih (inRange.applyPayload entry.1 entry.2)

theorem restorePayload (inRange : e.InRange) (name : String) (payload : Members) :
    (e.restorePayload name payload).InRange := by
  unfold Engine.restorePayload
  split
  · exact inRange
  · next d found =>
    exact inRange.put found (Detector.configure_name d payload)
      (Detector.wellFormed_configure (inRange.registry.of_get? found) payload)

theorem restoreGate (inRange : e.InRange) (name : String) (gate : Binary64) :
    (e.restoreGate name gate).InRange := by
  unfold Engine.restoreGate
  split
  · exact inRange
  · next d found =>
    split
    · next changed made =>
      have written : d.after (.gate (.float gate)) = changed := by
        rw [Detector.after, made]
        rfl
      rw [← written]
      exact inRange.put found (Detector.after_name d _) ((inRange.registry.of_get? found).after _)
    · exact inRange

/-- What is put back is clamped as well, whatever was there before. -/
theorem restore (inRange : e.InRange) (before : Engine) : (e.restore before).InRange := by
  unfold Engine.restore
  refine List.foldlRecOn _ _ ?_ fun e restored d _ => restored.restoreGate d.name d.gate
  apply setAllowed
  apply setThreshold
  apply setOrder
  refine List.foldlRecOn _ _ inRange fun e restored d _ => ?_
  split
  · exact restored.restorePayload _ _
  · exact restored

theorem configure (inRange : e.InRange) (config : Json) : (e.configure config).2.InRange := by
  have begun (c : Changes) : (e.begin c).InRange :=
    begin_preserves inRange c setOrder pushThreshold setAllowed
  rcases configure_cases e config with ⟨_, _, shape⟩ | ⟨c, _, _, accepted⟩ | ⟨c, _, _, undone⟩
  · rw [shape]
    exact inRange
  · rw [accepted]
    exact (((begun c).applyPayloads c.payloads).overrideThresholds c.thresholds).clearCache
  · rw [undone]
    exact ((begun c).applyPayloads c.payloads).restore e

theorem configureDetector (inRange : e.InRange) (name : String) (payload : Json) :
    (e.configureDetector name payload).2.InRange := by
  rcases configureDetector_cases e name payload with
    ⟨_, _, kept⟩ | ⟨members, _, _, accepted⟩ | ⟨members, _, _, _, undone⟩
  · rw [kept]
    exact inRange
  · rw [accepted]
    exact (inRange.applyPayload name members).clearCache
  · rw [undone]
    exact (inRange.applyPayload name members).restore e

theorem register (inRange : e.InRange) {d : Detector} (part : d.WellFormed) :
    (e.register d).InRange := by
  have registered := inRange.withRegistry
    (inRange.registry.register (Detector.wellFormed_setAllowed part e.allowed))
  unfold Engine.register
  dsimp only
  split
  · exact (registered.overrideThreshold d.name e.threshold).clearCache
  · exact registered.clearCache

theorem unregister (inRange : e.InRange) (name : String) : (e.unregister name).2.InRange := by
  have removed := inRange.withRegistry (inRange.registry.unregister name)
  rw [unregister_snd]
  split
  · exact removed.clearCache
  · exact removed

theorem reset (inRange : e.InRange) : e.reset.InRange := by
  have defaults := ((inRange.setOrder defaultOrder).pushThreshold defaultThreshold).setAllowed
    defaultAllowed
  exact (defaults.withRegistry (defaults.registry.enableAll _)).clearCache

/-! ### Detection -/

theorem detectFresh (inRange : e.InRange) (code : Snippet) : (e.detectFresh code).2.InRange := by
  unfold Engine.detectFresh
  split
  · exact inRange
  · exact inRange.withRegistry (Registry.firstAccepted_snd _ code _ inRange.registry).1

theorem detectAll (inRange : e.InRange) (code : Snippet) : (e.detectAll code).2.InRange := by
  unfold Engine.detectAll
  split
  · exact inRange
  · exact inRange.withRegistry (Registry.askEach_all code inRange.registry).1

theorem detectWith (inRange : e.InRange) (code : Snippet) (name : String) :
    (e.detectWith code name).2.InRange := by
  unfold Engine.detectWith
  split
  · exact inRange
  · next d found =>
    split
    · exact inRange
    · have here := inRange.registry.get?_name found
      exact inRange.withRegistry (inRange.registry.ask here code)

theorem lookUp (inRange : e.InRange) (key : String) : (e.lookUp key).2.InRange := by
  unfold Engine.lookUp
  split
  · exact inRange
  · exact ⟨inRange.registry, inRange.threshold⟩

theorem store (inRange : e.InRange) (key : String) (answer : Option Detection) :
    (e.store key answer).InRange := by
  cases answer with
  | none => exact inRange
  | some d => exact ⟨inRange.registry, inRange.threshold⟩

theorem detectUnder (inRange : e.InRange) (code : Snippet) (key : Option String) :
    (e.detectUnder code key).2.InRange := by
  cases key with
  | none => exact inRange.detectFresh code
  | some key =>
    have looked := inRange.lookUp key
    simp only [Engine.detectUnder]
    split
    · next found => rwa [found] at looked
    · next missed =>
      rw [missed] at looked
      exact (looked.detectFresh code).store key _

theorem detect (inRange : e.InRange) (code : Snippet) (useCache : Bool) :
    (e.detect code useCache).2.InRange := by
  unfold Engine.detect
  split
  · exact inRange
  · exact inRange.detectUnder code _

/-! ### Runs -/

theorem after (inRange : e.InRange) {action : Action}
    (built : ∀ d, action = .register d → d.Built) : (e.after action).InRange := by
  cases action with
  | register d => exact inRange.register (built d rfl).wellFormed
  | unregister name => exact inRange.unregister name
  | detect code useCache => exact inRange.detect code _
  | detectAll code => exact inRange.detectAll code
  | detectWith code name => exact inRange.detectWith code name
  | analyze code threshold alternatives fallbacks => exact (inRange.detectFresh code).detectAll code
  | configure config => exact inRange.configure config
  | apply config =>
    show (e.apply config).2.InRange
    rw [apply_snd]
    exact inRange.configure config
  | importText depth text =>
    show (e.importText depth text).2.InRange
    cases read : Json.parse depth text with
    | ok config =>
      rw [importText_of_ok e read]
      exact inRange.configure config
    | error fault =>
      rw [importText_of_error e read]
      exact inRange
  | changeThreshold value => exact (inRange.pushThreshold value).clearCache
  | changeDetectorThreshold name value =>
    simp only [Engine.after, changeDetectorThreshold]
    split
    · exact (inRange.overrideThreshold name value).clearCache
    · exact inRange
  | changeOrder names => exact (inRange.setOrder names).clearCache
  | changeEnabled name enabled =>
    exact (inRange.withRegistry (inRange.registry.setEnabled name enabled)).clearCache
  | changeAllowed languages => exact (inRange.setAllowed languages).clearCache
  | configureDetector name payload => exact inRange.configureDetector name payload
  | reset => exact inRange.reset
  | advance seconds =>
    simp only [Engine.after, advance]
    cases seconds.toBinary64 with
    | error fault => exact inRange
    | ok x => exact ⟨inRange.registry, inRange.threshold⟩

end InRange

/-- What can be done to an engine as a whole, and to its parts directly. -/
inductive Access where
  | action (action : Action)
  /-- Set the threshold, past the gates and the cache. -/
  | threshold (value : Number)
  /-- Set the allow-list, past the cache. -/
  | allowed (languages : List String)
  | registry (w : Registry.Write)
  /-- Push one gate to all detectors. -/
  | gates (value : Number)
  /-- Write to the detector under a name, if there is one. -/
  | detector (name : String) (w : Detector.Write)

/-- An access that brings no detector, or one that was built. -/
def Access.Built : Access → Prop
  | .action (.register d) => d.Built
  | .registry w => w.Built
  | _ => True

/-- The engine after an access, also when it is refused. -/
def access (e : Engine) : Access → Engine
  | .action action => e.after action
  | .threshold value => e.setThreshold value
  | .allowed languages => e.setAllowed languages
  | .registry w => { e with registry := e.registry.after w }
  | .gates value => { e with registry := (e.registry.setGates value).toOption.getD e.registry }
  | .detector name w =>
      match e.registry.get? name with
      | none => e
      | some d => { e with registry := e.registry.put (d.after w) }

/-- Every access keeps an engine in range. -/
theorem InRange.access {e : Engine} (inRange : e.InRange) {a : Access} (built : a.Built) :
    (e.access a).InRange := by
  cases a with
  | action action =>
    apply inRange.after
    rintro d rfl
    exact built
  | threshold value => exact inRange.setThreshold value
  | allowed languages => exact inRange.setAllowed languages
  | registry w => exact inRange.withRegistry (inRange.registry.after built)
  | gates value =>
    apply inRange.withRegistry
    cases pushed : e.registry.setGates value with
    | error fault => exact inRange.registry
    | ok registry => exact inRange.registry.setGates pushed
  | detector name w =>
    simp only [Engine.access]
    split
    · exact inRange
    · next d found =>
      exact inRange.put found (Detector.after_name d w) ((inRange.registry.of_get? found).after w)

theorem inRange_create {o : Options} {clock : Binary64} {e : Engine}
    (made : create o clock = .ok e) : e.InRange :=
  ⟨(consistent_create made).registry, (consistent_create made).threshold⟩

theorem InRange.foldl_access {e : Engine} (inRange : e.InRange) {accesses : List Access}
    (built : ∀ a ∈ accesses, a.Built) : (accesses.foldl Engine.access e).InRange := by
  induction accesses generalizing e with
  | nil => exact inRange
  | cons a rest ih =>
    exact ih (inRange.access (built a List.mem_cons_self)) fun other mem =>
      built other (List.mem_cons_of_mem _ mem)

/-! ### Validity -/

/-- An engine in range can detect as soon as a detector is enabled. -/
theorem InRange.isValid_iff {e : Engine} (inRange : e.InRange) :
    e.validate.isValid = true ↔ ∃ d ∈ e.registry.all, e.registry.isEnabled d.name = true := by
  constructor
  · intro valid
    cases order : e.registry.order with
    | nil => simp [Validation.isValid, validate, issues, order] at valid
    | cons name rest =>
      have mem : name ∈ e.registry.order := by
        rw [order]
        exact List.mem_cons_self
      obtain ⟨d, found⟩ := Option.isSome_iff_exists.mp (inRange.registry.known name mem)
      have here : d.name = name := inRange.registry.name_of_get? found
      refine ⟨d, inRange.registry.mem_all_iff.mpr (here.symm ▸ found), ?_⟩
      rw [Registry.isEnabled, here, List.contains_iff_mem]
      exact mem
  · rintro ⟨d, mem, enabled⟩
    have detectors : e.registry.detectors ≠ [] := by
      rintro none
      rw [Registry.all, none] at mem
      cases mem
    have order : e.registry.order ≠ [] := by
      rintro none
      rw [Registry.isEnabled, none] at enabled
      cases enabled
    have threshold : e.threshold.within 0 100 = true := by
      rw [← inRange.threshold]
      exact within_clampThreshold e.threshold
    simp [Validation.isValid, validate, issues, canDetect, Registry.isValid, Registry.size,
      threshold, detectors, order]

/-- Whatever numbers an engine, its registry and its detectors are made of and written with, and
whether a write is refused or not: the threshold is from 0 to 100 and every gate from 0 to 1, none
of them not-a-number, and the configuration is valid exactly when some detector is enabled. -/
theorem range_of_run {o : Options} {clock : Binary64} {e : Engine} (made : create o clock = .ok e)
    {accesses : List Access} (built : ∀ a ∈ accesses, a.Built) :
    let later := accesses.foldl access e
    later.threshold.within 0 100 = true ∧ later.threshold ≠ .float .nan ∧
      (∀ d, d ∈ later.registry.all ∨ d.Built →
        (Number.float d.gate).within 0 1 = true ∧ d.gate ≠ .nan) ∧
      (later.validate.isValid = true ↔
        ∃ d ∈ later.registry.all, later.registry.isEnabled d.name = true) := by
  intro later
  have inRange : later.InRange := (inRange_create made).foldl_access built
  have threshold : later.threshold.within 0 100 = true := by
    rw [← inRange.threshold]
    exact within_clampThreshold later.threshold
  refine ⟨threshold, Number.ne_nan_of_within threshold, ?_, inRange.isValid_iff⟩
  intro d known
  have wellFormed : d.WellFormed := by
    rcases known with registered | built
    · exact inRange.registry.of_get? (inRange.registry.mem_all_iff.mp registered)
    · exact built.wellFormed
  have gate := within_of_isGate wellFormed.gate
  exact ⟨gate, fun nan => Number.ne_nan_of_within gate (congrArg Number.float nan)⟩

/-- A detector that was made with not-a-number for its gate. -/
def unruly : Detector where
  name := "pygments"
  displayName := "Pygments Lexer Detector"
  description := "Language detection using the lexer analysers of the Pygments syntax highlighter"
  gate := Binary64.max Binary64.zero (Binary64.min Binary64.one .nan)
  strategy := .lexers .absent

/-- Writes of numbers that are no threshold and no gate; the fourth and the sixth are refused. -/
def extremes : List Access :=
  [.action (.register unruly), .threshold (.float .nan), .gates (.float (.infinity true)),
    .gates (.int (10 ^ 400)), .detector "pygments" (.gate (.float .nan)),
    .detector "pygments" (.threshold (.int (10 ^ 400))),
    .action (.changeThreshold (.int (-(10 ^ 400)))), .threshold (.float (.infinity false))]

theorem range_of_run_extremes :
    ∃ e, create { threshold := .float .nan } Binary64.zero = .ok e ∧
      (extremes.foldl access e).threshold = 100 ∧
      (extremes.foldl access e).registry.all.map Detector.gate = [Binary64.zero] ∧
      (extremes.foldl access e).threshold.within 0 100 = true ∧
      (extremes.foldl access e).validate.isValid = true := by
  have built : ∀ a ∈ extremes, a.Built := by
    intro a mem
    simp only [extremes, List.mem_cons, List.not_mem_nil, or_false] at mem
    rcases mem with rfl | rfl | rfl | rfl | rfl | rfl | rfl | rfl
    · have made : Detector.ofLexers .absent (.float .nan) = .ok unruly := rfl
      exact .ofLexers made
    all_goals trivial
  have made : create { threshold := .float .nan } Binary64.zero =
      .ok { blank with threshold := clampThreshold (.float .nan) } := rfl
  obtain ⟨threshold, -, -, valid⟩ := range_of_run made built
  refine ⟨_, made, by decide +kernel, by decide +kernel, threshold, valid.mpr ?_⟩
  have enabled : ((extremes.foldl access
      { blank with threshold := clampThreshold (.float .nan) }).registry.all.any fun d =>
        (extremes.foldl access
          { blank with threshold := clampThreshold (.float .nan) }).registry.isEnabled d.name) =
      true := by
    decide +kernel
  exact List.any_eq_true.mp enabled

end Engine

end SnippetDetect
