import SnippetDetect.Proofs.Engine.Reachable

/-!
Detectors at the global threshold.

A detector that is registered under a new name gets the global threshold for its gate, and so does
every registered detector when the global threshold is written. It keeps it until it gets a gate of
its own (`Overrides`) or is replaced. `Inherits` says of a session that it left the detector under
a name at the global threshold. Then its gate is a hundredth of the threshold
(`gate_of_inherits`), also when writes were refused on the way.
-/

namespace SnippetDetect

/-! ### Accepted writes -/

/-- The configuration that an action hands over. -/
def Action.config? : Action → Option Json
  | .configure config | .apply config => some config
  | .importText depth text => (Json.parse depth text).toOption
  | _ => none

/-- Whether a payload has a number for the gate of its detector. -/
def hasGate (payload : Members) : Bool :=
  ((valueOf? payload "min_confidence").bind Json.number?).isSome

/-- Whether changes give the detector under a name a gate of its own. -/
def Changes.Overrides (c : Changes) (name : String) : Prop :=
  (∃ payload, (name, payload) ∈ c.payloads ∧ hasGate payload = true) ∨
    ∃ value, (name, value) ∈ c.thresholds

namespace Engine

/-- What a configuration changes, if it is accepted. -/
def accepted? (e : Engine) (config : Json) : Option Changes :=
  match Changes.ofJson config, (e.configure config).1 with
  | .ok c, .ok () => some c
  | _, _ => none

/-- What an action changes by the configuration that it hands over, if it is accepted. -/
def written? (e : Engine) (action : Action) : Option Changes :=
  action.config?.bind e.accepted?

/-- The action writes the global threshold. -/
def WritesThreshold (e : Engine) : Action → Prop
  | .changeThreshold _ | .reset => True
  | action => ∃ c, e.written? action = some c ∧ c.threshold.isSome = true

/-- The action gives the detector under a name a gate of its own: by a threshold or a payload for
it, or with a detector that replaces it. -/
def Overrides (e : Engine) (name : String) : Action → Prop
  | .register d => d.name = name ∧ e.registry.isRegistered name = true
  | .changeDetectorThreshold other _ => other = name
  | .configureDetector other payload =>
      other = name ∧ (e.configureDetector name payload).1.toOption = some true ∧
        ∃ members, membersOf payload = .ok members ∧ hasGate members = true
  | action => ∃ c, e.written? action = some c ∧ c.Overrides name

/-- After a session the detector under a name has not got a gate of its own since it was registered
under a new name or since the global threshold was last written. Writes that were refused do not
count. -/
inductive Inherits (start : Engine) (name : String) : List Action → Prop
  | registered {earlier : List Action} {d : Detector} (here : d.name = name)
      (new : (start.run earlier).registry.isRegistered name = false) :
      Inherits start name (earlier ++ [.register d])
  | written {earlier : List Action} {action : Action}
      (writes : (start.run earlier).WritesThreshold action)
      (plain : ¬ (start.run earlier).Overrides name action) :
      Inherits start name (earlier ++ [action])
  | kept {earlier : List Action} {action : Action} (before : Inherits start name earlier)
      (plain : ¬ (start.run earlier).Overrides name action) :
      Inherits start name (earlier ++ [action])

theorem run_concat (start : Engine) (earlier : List Action) (action : Action) :
    start.run (earlier ++ [action]) = (start.run earlier).after action := by
  rw [run, List.foldl_append]
  rfl

/-- A configuration that is handed over is accepted and settled, or changes nothing but memory. -/
theorem configure_outcome {e : Engine} (consistent : e.Consistent) (config : Json) :
    (∃ c, e.accepted? config = some c ∧ (e.configure config).2 = e.settle c) ∨
      e.accepted? config = none ∧ e.SameDetectors (e.configure config).2 := by
  rcases configure_cases e config with
    ⟨faults, shape, refused⟩ | ⟨c, shape, _, accepted⟩ | ⟨c, shape, _, undone⟩
  · right
    rw [accepted?, shape, refused]
    exact ⟨rfl, .refl consistent⟩
  · left
    refine ⟨c, ?_, ?_⟩
    · rw [accepted?, shape, accepted]
    · rw [accepted]
  · right
    have kept := (configure_refused consistent undone).1
    rw [accepted?, shape, undone]
    exact ⟨rfl, kept⟩

theorem membersOf_of_payloadFor? {e : Engine} {name : String} {payload : Json} {members : Members}
    (reaches : e.payloadFor? name payload = some members) : membersOf payload = .ok members := by
  unfold payloadFor? at reaches
  split at reaches
  · cases reaches
  · split at reaches
    · cases read : membersOf payload with
      | error fault => simp [read, Except.toOption] at reaches
      | ok other => simpa [read, Except.toOption] using reaches
    · cases reaches

theorem after_of_config? {e : Engine} {action : Action} {config : Json}
    (handed : action.config? = some config) : e.after action = (e.configure config).2 := by
  cases action with
  | configure other =>
    cases handed
    rfl
  | apply other =>
    cases handed
    exact apply_snd e config
  | importText depth text =>
    cases read : Json.parse depth text with
    | error fault => simp [Action.config?, read, Except.toOption] at handed
    | ok other =>
      obtain rfl : other = config := by simpa [Action.config?, read, Except.toOption] using handed
      exact importText_of_ok e read
  | _ => cases handed

/-! ### Gates that stay -/

/-- The gate of the detector under a name and the global threshold are kept. -/
structure KeepsGate (name : String) (e other : Engine) : Prop where
  gate : (other.registry.get? name).map Detector.gate = (e.registry.get? name).map Detector.gate
  threshold : other.threshold = e.threshold

namespace KeepsGate

variable {name : String} {e middle other : Engine}

theorem refl (name : String) (e : Engine) : KeepsGate name e e := ⟨rfl, rfl⟩

theorem trans (first : KeepsGate name e middle) (second : KeepsGate name middle other) :
    KeepsGate name e other :=
  ⟨second.gate.trans first.gate, second.threshold.trans first.threshold⟩

/-- Gates are not part of the memory. -/
theorem of_same (same : e.SameDetectors other) (name : String) : KeepsGate name e other where
  gate := by
    have gates (r : Registry) : (r.memoryless.get? name).map Detector.gate =
        (r.get? name).map Detector.gate := by
      rw [Registry.get?_memoryless, Option.map_map]
      rfl
    rw [← gates, same.memoryless, gates]
  threshold := same.threshold

theorem setOrder (e : Engine) (names : List String) : KeepsGate name e (e.setOrder names) :=
  ⟨rfl, rfl⟩

theorem clearCache (e : Engine) : KeepsGate name e e.clearCache := ⟨rfl, rfl⟩

theorem withDetectors {registry : Registry} (same : registry.detectors = e.registry.detectors) :
    KeepsGate name e { e with registry } where
  gate := by rw [Registry.get?, same, ← Registry.get?]
  threshold := rfl

theorem setAllowed (e : Engine) (languages : List String) :
    KeepsGate name e (e.setAllowed languages) where
  gate := by
    rw [get?_setAllowed, Option.map_map]
    congr 1
    funext d
    exact Detector.setAllowed_gate d _
  threshold := rfl

/-- A detector may be put in its place when it has another name or the gate that is there. -/
theorem put {d : Detector}
    (same : d.name = name → (e.registry.get? name).map Detector.gate = some d.gate) :
    KeepsGate name e { e with registry := e.registry.put d } where
  gate := by
    show ((e.registry.put d).get? name).map Detector.gate = _
    rw [Registry.get?_put]
    split
    · next here => rw [Option.map_some, same here.symm]
    · rfl
  threshold := rfl

theorem overrideThreshold (orderly : e.registry.Orderly) {target : String}
    (differ : target ≠ name) (value : Number) :
    KeepsGate name e (e.overrideThreshold target value) := by
  cases found : e.registry.get? target with
  | none =>
    rw [overrideThreshold_of_none found]
    exact refl name e
  | some d =>
    obtain ⟨gate, -, overridden⟩ := overrideThreshold_eq found value
    rw [overridden]
    apply put
    intro here
    exact absurd ((orderly.name_of_get? found).symm.trans here) differ

theorem overrideThresholds (consistent : e.Consistent) {thresholds : List (String × Number)}
    (others : ∀ value, (name, value) ∉ thresholds) :
    KeepsGate name e
      (thresholds.foldl (fun e (name, value) => e.overrideThreshold name value) e) := by
  induction thresholds generalizing e with
  | nil => exact refl name e
  | cons entry rest ih =>
    have differ : entry.1 ≠ name := by
      rintro rfl
      exact others entry.2 List.mem_cons_self
    have first := overrideThreshold consistent.registry.orderly differ entry.2
    have later := ih (consistent.overrideThreshold entry.1 entry.2) fun value mem =>
      others value (List.mem_cons_of_mem _ mem)
    exact first.trans later

theorem route (e : Engine) (d : Detector) (payload : Members) :
    KeepsGate name e (e.routeAllowed d payload).2 := by
  rw [routeAllowed_snd]
  cases routedList? d payload with
  | none => exact refl name e
  | some languages => exact setAllowed e languages

/-- A payload for another detector, or without a gate, leaves the gate as it is. -/
theorem applyPayload (consistent : e.Consistent) {target : String} {payload : Members}
    (plain : target = name → hasGate payload = false) :
    KeepsGate name e (e.applyPayload target payload).2 := by
  rcases e.configurable_or_other target with ⟨d, found, configurable⟩ | other
  · obtain ⟨routed, there, unlisted, applied⟩ :=
      applyPayload_of_configurable found configurable payload
    have called : routed.name = target := (consistent.route d payload).registry.name_of_get? there
    rw [applied]
    refine (route e d payload).trans (put ?_)
    intro here
    rw [Detector.configure_name, called] at here
    -- What is left of the payload has no gate either.
    have none : routed.payloadGate? (e.routeAllowed d payload).1 = none := by
      apply Detector.payloadGate?_of_no_number
      rw [valueOf?_routeAllowed, if_neg (by simp)]
      exact Option.isSome_eq_false_iff.mp (plain here) |> Option.isNone_iff_eq_none.mp
    rw [← here, there, Option.map_some, Detector.configure_gate unlisted, none, Option.getD_none]
  · rw [applyPayload_of_other other]
    exact refl name e

theorem applyPayloads (consistent : e.Consistent) {payloads : List (String × Members)}
    (plain : ∀ payload, (name, payload) ∈ payloads → hasGate payload = false) :
    KeepsGate name e (e.applyPayloads payloads).2 := by
  induction payloads generalizing e with
  | nil => exact refl name e
  | cons entry rest ih =>
    have first : KeepsGate name e (e.applyPayload entry.1 entry.2).2 := by
      apply applyPayload consistent
      rintro rfl
      exact plain entry.2 List.mem_cons_self
    have later := ih (consistent.applyPayload entry.1 entry.2) fun payload mem =>
      plain payload (List.mem_cons_of_mem _ mem)
    exact first.trans later

/-- To register a detector under another name. -/
theorem register (consistent : e.Consistent) {d : Detector} (differ : d.name ≠ name) :
    KeepsGate name e (e.register d) := by
  have registered : KeepsGate name e
      { e with registry := e.registry.register (d.setAllowed e.allowed) } := by
    refine ⟨?_, rfl⟩
    rw [Registry.get?_register, Detector.setAllowed_name, if_neg (Ne.symm differ)]
  have orderly := consistent.registry.orderly.register (d.setAllowed e.allowed)
  unfold Engine.register
  dsimp only
  split
  · exact (registered.trans (overrideThreshold orderly differ e.threshold)).trans (clearCache _)
  · exact registered.trans (clearCache _)

/-- To forget a detector under another name. -/
theorem unregister (e : Engine) {target : String} (differ : target ≠ name) :
    KeepsGate name e (e.unregister target).2 := by
  have removed : KeepsGate name e { e with registry := (e.registry.unregister target).2 } := by
    refine ⟨?_, rfl⟩
    rw [Registry.get?_unregister, if_neg (Ne.symm differ)]
  rw [unregister_snd]
  split
  · exact removed.trans (clearCache _)
  · exact removed

end KeepsGate

/-! ### Gates at the global threshold -/

/-- The detector under a name, if there is one, has a hundredth of the global threshold for its
gate. -/
def AtThreshold (e : Engine) (name : String) : Prop :=
  ∀ d, e.registry.get? name = some d → e.threshold.hundredth = .ok d.gate

section AtThreshold

variable {e other : Engine} {name : String}

theorem AtThreshold.of_keeps (at_threshold : e.AtThreshold name)
    (keeps : KeepsGate name e other) : other.AtThreshold name := by
  intro d found
  have gate := keeps.gate
  rw [found, Option.map_some] at gate
  obtain ⟨old, there, same⟩ := Option.map_eq_some_iff.mp gate.symm
  rw [keeps.threshold, ← same]
  exact at_threshold old there

/-- A name that is forgotten has no detector whose gate could differ. -/
theorem atThreshold_unregister (e : Engine) (name : String) :
    (e.unregister name).2.AtThreshold name := by
  have absent : (e.unregister name).2.registry.get? name = none := by
    have erased := Registry.get?_unregister e.registry name name
    rw [if_pos rfl] at erased
    rw [unregister_snd]
    split <;> exact erased
  intro d found
  rw [absent] at found
  cases found

/-- The global threshold reaches every detector. -/
theorem atThreshold_pushThreshold (e : Engine) (value : Number) (name : String) :
    (e.pushThreshold value).AtThreshold name := by
  obtain ⟨gate, made, pushed⟩ := pushThreshold_eq e value
  rw [pushed]
  intro d found
  rw [Registry.get?_mapDetectors] at found
  obtain ⟨old, -, rfl⟩ := Option.map_eq_some_iff.mp found
  exact hundredth_clampThreshold made

theorem atThreshold_reset (e : Engine) (name : String) : e.reset.AtThreshold name := by
  have pushed := atThreshold_pushThreshold (e.setOrder defaultOrder) defaultThreshold name
  have listed := pushed.of_keeps (.setAllowed _ defaultAllowed)
  exact listed.of_keeps (.trans (.withDetectors (Registry.detectors_enableAll _ _)) (.clearCache _))

/-- The global threshold reaches a detector that is registered under a new name. -/
theorem atThreshold_register (consistent : e.Consistent) {d : Detector}
    (new : e.registry.isRegistered d.name = false) : (e.register d).AtThreshold d.name := by
  have there : (e.registry.register (d.setAllowed e.allowed)).get? d.name =
      some (d.setAllowed e.allowed) := by
    rw [Registry.get?_register, Detector.setAllowed_name, if_pos rfl]
  obtain ⟨gate, made, overridden⟩ := overrideThreshold_eq
    (e := { e with registry := e.registry.register (d.setAllowed e.allowed) }) there e.threshold
  have after : e.register d = ({ e with
      registry := (e.registry.register (d.setAllowed e.allowed)).put
        { d.setAllowed e.allowed with gate } } : Engine).clearCache := by
    rw [← overridden, Engine.register, new]
    rfl
  rw [after]
  intro found there
  obtain rfl : { d.setAllowed e.allowed with gate } = found := by
    have put := (Registry.get?_put _ { d.setAllowed e.allowed with gate } d.name).symm.trans there
    rw [show ({ d.setAllowed e.allowed with gate } : Detector).name = d.name from
      Detector.setAllowed_name d e.allowed, if_pos rfl] at put
    exact Option.some.inj put
  have hundredth := hundredth_clampThreshold made
  rw [consistent.threshold] at hundredth
  exact hundredth

/-- After the first three parts of a write a gate is at the threshold when the threshold is written
or when it was there before. -/
theorem atThreshold_begin {c : Changes}
    (either : c.threshold.isSome = true ∨ e.AtThreshold name) : (e.begin c).AtThreshold name := by
  have ordered : KeepsGate name e (c.order.elim e e.setOrder) := by
    cases c.order with
    | none => exact .refl name e
    | some names => exact .setOrder e names
  have pushed : (c.threshold.elim (c.order.elim e e.setOrder)
      (c.order.elim e e.setOrder).pushThreshold).AtThreshold name := by
    cases written : c.threshold with
    | none =>
      rw [written] at either
      exact (either.resolve_left (by simp)).of_keeps ordered
    | some value => exact atThreshold_pushThreshold _ value name
  unfold Engine.begin
  cases c.allowed with
  | none => exact pushed
  | some languages => exact pushed.of_keeps (.setAllowed _ languages)

theorem atThreshold_settle (consistent : e.Consistent) {c : Changes}
    (either : c.threshold.isSome = true ∨ e.AtThreshold name) (plain : ¬ c.Overrides name) :
    (e.settle c).AtThreshold name := by
  have begun := consistent.begin c
  have payloads : KeepsGate name (e.begin c) ((e.begin c).applyPayloads c.payloads).2 := by
    apply KeepsGate.applyPayloads begun
    intro payload mem
    rw [← Bool.not_eq_true]
    intro gate
    exact plain (.inl ⟨payload, mem, gate⟩)
  have others : ∀ value, (name, value) ∉ c.thresholds := by
    intro value mem
    exact plain (.inr ⟨value, mem⟩)
  have thresholds := KeepsGate.overrideThresholds (begun.applyPayloads c.payloads) others
  exact (atThreshold_begin either).of_keeps (payloads.trans (thresholds.trans (.clearCache _)))

/-- What an action hands over brings a gate to the threshold, or leaves it there. -/
theorem atThreshold_written (consistent : e.Consistent) {action : Action} {config : Json}
    (handed : action.config? = some config)
    (either : (∃ c, e.written? action = some c ∧ c.threshold.isSome = true) ∨ e.AtThreshold name)
    (plain : ¬ ∃ c, e.written? action = some c ∧ c.Overrides name) :
    (e.after action).AtThreshold name := by
  have written : e.written? action = e.accepted? config := by
    rw [written?, handed, Option.bind_some]
  rw [written] at either plain
  rw [after_of_config? handed]
  rcases configure_outcome consistent config with ⟨c, accepted, settled⟩ | ⟨refused, same⟩
  · rw [settled]
    apply atThreshold_settle consistent
    · rcases either with ⟨other, same, writes⟩ | before
      · rw [accepted] at same
        cases same
        exact .inl writes
      · exact .inr before
    · intro overrides
      exact plain ⟨c, accepted, overrides⟩
  · rcases either with ⟨other, accepted, -⟩ | before
    · rw [refused] at accepted
      cases accepted
    · exact before.of_keeps (.of_same same name)

theorem atThreshold_configureDetector (consistent : e.Consistent) (before : e.AtThreshold name)
    {target : String} {payload : Json}
    (plain : ¬ e.Overrides name (.configureDetector target payload)) :
    (e.configureDetector target payload).2.AtThreshold name := by
  rcases configureDetector_cases e target payload with
    ⟨_, _, kept⟩ | ⟨members, reaches, _, accepted⟩ | ⟨members, _, _, _, undone⟩
  · rw [kept]
    exact before
  · rw [accepted]
    refine before.of_keeps (.trans (.applyPayload consistent ?_) (.clearCache _))
    rintro rfl
    rw [← Bool.not_eq_true]
    intro gate
    refine plain ⟨rfl, ?_, members, ?_, gate⟩
    · rw [accepted]
      rfl
    · exact membersOf_of_payloadFor? reaches
  · rw [undone]
    exact before.of_keeps (.of_same (configureDetector_refused consistent undone).1 name)

/-! ### Sessions -/

/-- A gate stays at the threshold unless an action overrides it. -/
theorem AtThreshold.after (before : e.AtThreshold name) (consistent : e.Consistent)
    {action : Action} (plain : ¬ e.Overrides name action) : (e.after action).AtThreshold name := by
  cases action with
  | register d =>
    by_cases here : d.name = name
    · have new : e.registry.isRegistered d.name = false := by
        rw [← Bool.not_eq_true, here]
        intro registered
        exact plain ⟨here, registered⟩
      rw [← here]
      exact atThreshold_register consistent new
    · exact before.of_keeps (.register consistent here)
  | unregister target =>
    by_cases here : target = name
    · rw [here]
      exact atThreshold_unregister e name
    · exact before.of_keeps (.unregister e here)
  | detect code useCache => exact before.of_keeps (.of_same (sameDetectors_detect consistent code _) name)
  | detectAll code => exact before.of_keeps (.of_same (sameDetectors_detectAll consistent code) name)
  | detectWith code target =>
    exact before.of_keeps (.of_same (sameDetectors_detectWith consistent code target) name)
  | analyze code threshold alternatives fallbacks =>
    exact before.of_keeps
      (.of_same (sameDetectors_analyze consistent code threshold alternatives fallbacks) name)
  | configure config => exact atThreshold_written consistent rfl (.inr before) plain
  | apply config => exact atThreshold_written consistent rfl (.inr before) plain
  | importText depth text =>
    cases read : Json.parse depth text with
    | ok config =>
      have handed : (Action.importText depth text).config? = some config := by
        rw [Action.config?, read]
        rfl
      exact atThreshold_written consistent handed (.inr before) plain
    | error fault =>
      rw [show e.after (.importText depth text) = e from importText_of_error e read]
      exact before
  | changeThreshold value => exact atThreshold_pushThreshold e value name
  | changeDetectorThreshold target value =>
    show (e.changeDetectorThreshold target value).2.AtThreshold name
    unfold changeDetectorThreshold
    split
    · exact before.of_keeps
        (.trans (.overrideThreshold consistent.registry.orderly plain value) (.clearCache _))
    · exact before
  | changeOrder names => exact before.of_keeps (.trans (.setOrder e names) (.clearCache _))
  | changeEnabled target enabled =>
    exact before.of_keeps
      (.trans (.withDetectors (Registry.detectors_setEnabled _ _ _)) (.clearCache _))
  | changeAllowed languages =>
    exact before.of_keeps (.trans (.setAllowed e languages) (.clearCache _))
  | configureDetector target payload => exact atThreshold_configureDetector consistent before plain
  | reset => exact atThreshold_reset e name
  | advance seconds =>
    simp only [Engine.after, advance]
    cases seconds.toBinary64 <;> exact before

/-- An action that writes the global threshold brings to it every gate that it does not override. -/
theorem atThreshold_of_writes (consistent : e.Consistent) {action : Action}
    (writes : e.WritesThreshold action) (plain : ¬ e.Overrides name action) :
    (e.after action).AtThreshold name := by
  cases action with
  | configure config => exact atThreshold_written consistent rfl (.inl writes) plain
  | apply config => exact atThreshold_written consistent rfl (.inl writes) plain
  | importText depth text =>
    cases read : Json.parse depth text with
    | ok config =>
      have handed : (Action.importText depth text).config? = some config := by
        rw [Action.config?, read]
        rfl
      exact atThreshold_written consistent handed (.inl writes) plain
    | error fault =>
      obtain ⟨c, written, -⟩ := writes
      rw [written?, Action.config?, read] at written
      cases written
  | changeThreshold value => exact atThreshold_pushThreshold e value name
  | reset => exact atThreshold_reset e name
  | _ =>
    obtain ⟨c, written, -⟩ := writes
    cases written

/-- In a session that left the detector under a name at the global threshold, its gate is at the
threshold. -/
theorem atThreshold_of_inherits {o : Options} {clock : Binary64} {start : Engine}
    (made : create o clock = .ok start) {actions : List Action} (inherits : Inherits start name actions)
    (wellFormed : ∀ action ∈ actions, action.WellFormed) : (start.run actions).AtThreshold name := by
  have consistent {earlier : List Action} {action : Action}
      (all : ∀ other ∈ earlier ++ [action], other.WellFormed) : (start.run earlier).Consistent := by
    refine ((Reachable.create made).run ?_).consistent
    intro other mem
    exact all other (List.mem_append_left _ mem)
  induction inherits with
  | registered here new =>
    rw [run_concat, ← here]
    exact atThreshold_register (consistent wellFormed) (here ▸ new)
  | written writes plain =>
    rw [run_concat]
    exact atThreshold_of_writes (consistent wellFormed) writes plain
  | kept before plain ih =>
    rw [run_concat]
    refine (ih ?_).after (consistent wellFormed) plain
    intro other mem
    exact wellFormed other (List.mem_append_left _ mem)

end AtThreshold

/-- A registered detector that has not got a gate of its own since it was registered under a new
name, or since the global threshold was last written, has a hundredth of the global threshold for
its gate. -/
theorem gate_of_inherits {o : Options} {clock : Binary64} {start : Engine}
    (made : create o clock = .ok start) {actions : List Action}
    (wellFormed : ∀ action ∈ actions, action.WellFormed) {name : String}
    (inherits : Inherits start name actions) {d : Detector}
    (registered : (start.run actions).registry.get? name = some d) :
    (start.run actions).threshold.hundredth = .ok d.gate :=
  atThreshold_of_inherits made inherits wellFormed d registered

/-! ### A threshold that was overridden -/

/-- A configuration with a global threshold and with a threshold for one detector. -/
def lowered : Json :=
  .obj [("confidence_threshold", .num (.float (Binary64.ofRatio false 25 2))),
    ("detector_thresholds", .obj [("ml-model", .num 40)])]

/-- A configuration that a detector refuses because its gate fits no number. -/
def tooLarge : Json :=
  .obj [("confidence_threshold", .num 1),
    ("detector_configs", .obj [("ml-model", .obj [("min_confidence", .num (.int (10 ^ 400)))])])]

/-- One detector gets a threshold of its own, before the global one is written. -/
def overridden : List Action :=
  plainDetectors.map .register ++ [.changeDetectorThreshold "pygments" 5]

theorem accepted_lowered : (blank.run overridden).accepted? lowered = some
    { threshold := some (.float (Binary64.ofRatio false 25 2)), thresholds := [("ml-model", 40)] } := by
  have accepted : ((blank.run overridden).configure lowered).1.isOk = true := by decide
  have shape : Changes.ofJson lowered = .ok
      { threshold := some (.float (Binary64.ofRatio false 25 2)), thresholds := [("ml-model", 40)] } :=
    rfl
  rw [accepted?, shape]
  cases answer : ((blank.run overridden).configure lowered).1 with
  | ok _ => rfl
  | error faults =>
    rw [answer] at accepted
    cases accepted

theorem refused_tooLarge :
    (blank.run (overridden ++ [.apply lowered])).accepted? tooLarge = none := by
  have refused : ((blank.run (overridden ++ [.apply lowered])).accepted? tooLarge).isNone = true := by
    decide +kernel
  exact Option.isNone_iff_eq_none.mp refused

theorem inherits_overridden :
    Inherits blank "pygments" (overridden ++ [.apply lowered] ++ [.apply tooLarge]) := by
  apply Inherits.kept
  · apply Inherits.written
    · exact ⟨_, accepted_lowered, rfl⟩
    · rintro ⟨c, written, overrides⟩
      obtain rfl := Option.some.inj (accepted_lowered.symm.trans written)
      rcases overrides with ⟨payload, mem, -⟩ | ⟨value, mem⟩
      · cases mem
      · simp at mem
  · rintro ⟨c, written, -⟩
    cases refused_tooLarge.symm.trans written

theorem gate_of_inherits_overridden :
    ∃ d, (blank.run (overridden ++ [.apply lowered] ++ [.apply tooLarge])).registry.get? "pygments" =
        some d ∧ d.gate = Binary64.ofRatio false 1 8 := by
  have wellFormed : ∀ action ∈ overridden ++ [.apply lowered] ++ [.apply tooLarge],
      action.WellFormed := by
    intro action mem
    simp only [overridden, List.mem_append, List.mem_map, List.mem_singleton] at mem
    rcases mem with ((⟨d, known, rfl⟩ | rfl) | rfl) | rfl
    · exact (bundled_of_mem_plainDetectors known).1
    · trivial
    · trivial
    · trivial
  have there : ((blank.run (overridden ++ [.apply lowered] ++ [.apply tooLarge])).registry.get?
      "pygments").isSome = true := by
    decide +kernel
  have threshold : (blank.run (overridden ++ [.apply lowered] ++ [.apply tooLarge])).threshold =
      .float (Binary64.ofRatio false 25 2) := by
    decide +kernel
  have part : (Number.float (Binary64.ofRatio false 25 2)).hundredth =
      .ok (Binary64.ofRatio false 1 8) := by
    decide +kernel
  obtain ⟨d, registered⟩ := Option.isSome_iff_exists.mp there
  have gate := gate_of_inherits create_default wellFormed inherits_overridden registered
  rw [threshold, part] at gate
  exact ⟨d, registered, (Except.ok.inj gate).symm⟩

end Engine

end SnippetDetect
