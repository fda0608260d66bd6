import SnippetDetect.Proofs.Engine.Reachable

/-!
The parts of a configuration that count.

A configuration is read under five names, and a payload under two. Names that are not registered
and payloads for detectors that take none do not count. So a write does the same when all of
that is left out (`write_relevant`), and when other members are there in addition
(`configure_congr`).
-/

namespace SnippetDetect

/-! ### The members that are read -/

namespace Changes

/-- The names under which a configuration is read. -/
def partNames : List String :=
  ["detection_order", "confidence_threshold", "enabled_pattern_languages", "detector_configs",
    "detector_thresholds"]

/-- What is under other names is not read. -/
theorem ofJson_congr {members other : Members}
    (agree : ∀ name ∈ partNames, valueOf? other name = valueOf? members name) :
    ofJson (.obj other) = ofJson (.obj members) := by
  simp only [partNames, List.forall_mem_cons] at agree
  obtain ⟨order, threshold, allowed, payloads, thresholds, -⟩ := agree
  simp only [ofJson, field, perDetector, order, threshold, allowed, payloads, thresholds]

end Changes

/-- The names under which detectors read a payload. -/
def payloadNames : List String := ["enabled_languages", "min_confidence"]

/-- A payload without the members that no detector reads. -/
def readPayload (payload : Members) : Members :=
  payload.filter fun entry => payloadNames.contains entry.1

theorem valueOf?_readPayload (payload : Members) {name : String} (read : name ∈ payloadNames) :
    valueOf? (readPayload payload) name = valueOf? payload name := by
  induction payload with
  | nil => rfl
  | cons entry rest ih =>
    rw [readPayload, List.filter_cons, valueOf?_cons]
    by_cases known : payloadNames.contains entry.1 = true
    · rw [if_pos known, valueOf?_cons, ← ih]
      rfl
    · have other : name ≠ entry.1 := by
        rintro rfl
        exact known (List.contains_iff_mem.mpr read)
      rw [if_neg known, if_neg other]
      exact ih

/-- Bundled detectors read a payload under two names. -/
theorem Detector.configure_agree {d : Detector} (bundled : d.IsBundled) {payload other : Members}
    (agree : ∀ name ∈ payloadNames, valueOf? other name = valueOf? payload name) :
    d.configure other = d.configure payload := by
  simp only [payloadNames, List.forall_mem_cons] at agree
  obtain ⟨languages, confidence, -⟩ := agree
  have gate (d : Detector) : d.configureGate other = d.configureGate payload := by
    rw [configureGate, configureGate, confidence]
  have allowed : payloadAllowed other = payloadAllowed payload := by
    rw [payloadAllowed, payloadAllowed, languages]
  cases strategy : d.strategy with
  | fingerprints f => simp only [configure, strategy, allowed, gate]
  | lexers ls => simp only [configure, strategy]
  | classifier c => simp only [configure, strategy, gate]
  | custom c => exact absurd strategy (bundled c)

namespace Engine

/-- Whether a name is that of a detector that takes payloads. -/
def takesPayload (e : Engine) (name : String) : Bool :=
  (e.registry.get? name).any Detector.isConfigurable

/-- The part of a configuration that counts for an engine. -/
def relevant (e : Engine) (c : Changes) : Changes where
  order := c.order.map (·.filter e.registry.isRegistered)
  threshold := c.threshold
  allowed := c.allowed
  payloads := mapEntries readPayload (c.payloads.filter fun entry => e.takesPayload entry.1)
  thresholds := c.thresholds.filter fun entry => e.registry.isRegistered entry.1

theorem applyPayload_agree {e : Engine} {name : String} {payload other : Members}
    (bundled : ∀ d, e.registry.get? name = some d → d.IsBundled)
    (agree : ∀ name ∈ payloadNames, valueOf? other name = valueOf? payload name) :
    e.applyPayload name other = e.applyPayload name payload := by
  rcases e.configurable_or_other name with ⟨d, found, configurable⟩ | other
  · have route : (e.routeAllowed d other).2 = (e.routeAllowed d payload).2 := by
      rw [routeAllowed_snd, routeAllowed_snd, routedList?, routedList?,
        agree "enabled_languages" (by simp [payloadNames])]
    have left : ∀ name ∈ payloadNames, valueOf? (e.routeAllowed d other).1 name =
        valueOf? (e.routeAllowed d payload).1 name := by
      intro name read
      rw [valueOf?_routeAllowed, valueOf?_routeAllowed, agree name read]
    have handed (d' : Detector) (there : (e.routeAllowed d payload).2.registry.get? name = some d') :
        d'.IsBundled := by
      rw [get?_route, found, Option.map_some, Option.some.injEq] at there
      rw [← there]
      cases routedList? d payload with
      | none => exact bundled d found
      | some languages => exact (bundled d found).setAllowed _
    simp only [applyPayload, found, configurable, if_true, route]
    cases there : (e.routeAllowed d payload).2.registry.get? name with
    | none => rw [Option.getD_none, Detector.configure_agree (bundled d found) left]
    | some d' => rw [Option.getD_some, Detector.configure_agree (handed d' there) left]
  · rw [applyPayload_of_other other, applyPayload_of_other other]

section Unfinished

variable {before e : Engine}

theorem Unfinished.isRegistered (unfinished : Unfinished before e) (name : String) :
    e.registry.isRegistered name = before.registry.isRegistered name :=
  Registry.isRegistered_congr unfinished.names name

theorem Unfinished.takesPayload (unfinished : Unfinished before e) (name : String) :
    e.takesPayload name = before.takesPayload name := by
  have bare := congrArg (Option.any Detector.isConfigurable)
    (Registry.get?_bare unfinished.bare name)
  simpa [Engine.takesPayload, Option.any_map, Function.comp_def] using bare

theorem Unfinished.isBundled (unfinished : Unfinished before e)
    (bundled : ∀ name d, before.registry.get? name = some d → d.IsBundled) {name : String}
    {d : Detector} (found : e.registry.get? name = some d) : d.IsBundled := by
  have bare := Registry.get?_bare unfinished.bare name
  rw [found, Option.map_some] at bare
  obtain ⟨old, there, same⟩ := Option.map_eq_some_iff.mp bare.symm
  rw [← Detector.isBundled_bare, ← same, Detector.isBundled_bare]
  exact bundled name old there

theorem applyPayload_of_not_takesPayload {name : String} (other : e.takesPayload name = false)
    (payload : Members) : e.applyPayload name payload = (none, e) := by
  apply applyPayload_of_other
  intro d found
  rwa [takesPayload, found, Option.any_some] at other

/-- Of the payloads, only those for detectors that take them count, and of these only what is
read. -/
theorem applyPayloads_relevant (unfinished : Unfinished before e)
    (bundled : ∀ name d, before.registry.get? name = some d → d.IsBundled)
    (payloads : List (String × Members)) :
    e.applyPayloads (mapEntries readPayload
      (payloads.filter fun entry => before.takesPayload entry.1)) = e.applyPayloads payloads := by
  induction payloads generalizing e with
  | nil => rfl
  | cons entry rest ih =>
    rw [List.filter_cons, applyPayloads_cons e entry]
    by_cases takes : before.takesPayload entry.1 = true
    · have single : e.applyPayload entry.1 (readPayload entry.2) =
          e.applyPayload entry.1 entry.2 :=
        applyPayload_agree (fun d found => unfinished.isBundled bundled found)
          fun name read => valueOf?_readPayload entry.2 read
      rw [if_pos takes, mapEntries, List.map_cons, applyPayloads_cons, single,
        ← ih (unfinished.applyPayload _ _)]
      rfl
    · have skip : e.applyPayload entry.1 entry.2 = (none, e) := by
        apply applyPayload_of_not_takesPayload
        rw [unfinished.takesPayload]
        exact Bool.eq_false_iff.mpr takes
      rw [if_neg takes, skip, ih unfinished]
      rfl

theorem overrideThresholds_relevant (unfinished : Unfinished before e)
    (thresholds : List (String × Number)) :
    (thresholds.filter fun entry => before.registry.isRegistered entry.1).foldl
        (fun e (name, value) => e.overrideThreshold name value) e =
      thresholds.foldl (fun e (name, value) => e.overrideThreshold name value) e := by
  induction thresholds generalizing e with
  | nil => rfl
  | cons entry rest ih =>
    rw [List.filter_cons, List.foldl_cons]
    by_cases known : before.registry.isRegistered entry.1 = true
    · rw [if_pos known, List.foldl_cons, ih (unfinished.overrideThreshold _ _)]
    · have skip : e.overrideThreshold entry.1 entry.2 = e := by
        apply overrideThreshold_of_none
        rw [← unfinished.isRegistered] at known
        exact Option.not_isSome_iff_eq_none.mp known
      rw [if_neg known, ih unfinished]
      exact congrArg (rest.foldl fun e (name, value) => e.overrideThreshold name value) skip.symm

end Unfinished

/-! ### Whole configurations -/

/-- A write does the same when the names that are not registered, the payloads for detectors that
take none and the members that are not read are left out. -/
theorem write_relevant {e : Engine} (consistent : e.Consistent)
    (bundled : ∀ name d, e.registry.get? name = some d → d.IsBundled) (c : Changes) :
    e.write (e.relevant c) = e.write c := by
  have begun : e.begin (e.relevant c) = e.begin c := by
    have ordered : (e.relevant c).order.elim e e.setOrder = c.order.elim e e.setOrder := by
      cases order : c.order with
      | none => simp [relevant, order]
      | some names =>
        simp only [relevant, order, Option.map_some, Option.elim_some, Engine.setOrder,
          Registry.setOrder_filter]
    unfold Engine.begin
    rw [ordered]
    rfl
  have start := (Unfinished.refl consistent.registry).begin c
  have applied : (e.begin c).applyPayloads (e.relevant c).payloads =
      (e.begin c).applyPayloads c.payloads := applyPayloads_relevant start bundled c.payloads
  have overridden := overrideThresholds_relevant (start.applyPayloads c.payloads) c.thresholds
  rw [write_eq, write_eq, begun, applied]
  revert overridden
  rcases (e.begin c).applyPayloads c.payloads with ⟨faults, changed⟩
  intro overridden
  cases faults with
  | nil => exact congrArg (fun e : Engine => (Except.ok (), e.clearCache)) overridden
  | cons fault rest => rfl

theorem configure_agree (e : Engine) {members other : Members}
    (agree : ∀ name ∈ Changes.partNames, valueOf? other name = valueOf? members name) :
    e.configure (.obj other) = e.configure (.obj members) := by
  rw [configure, configure, Changes.ofJson_congr agree]

end Engine

end SnippetDetect
