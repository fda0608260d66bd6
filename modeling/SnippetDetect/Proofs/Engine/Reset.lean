import SnippetDetect.Proofs.Engine.Range

/-!
Going back to the defaults.

A reset sets a short order, then enables the other detectors one by one, and pushes the default
threshold and the default allow-list over whatever a session made of them. In one step, it dresses
every detector in the defaults and orders them by name and registration (`reset_eq`). What it leaves
depends on nothing that it changes, so a second reset changes nothing (`reset_reset`).
-/

namespace SnippetDetect

/-! ### The order -/

namespace Registry

/-- The default names that are registered, then the other ones in the order of registration. -/
def defaultOrder (r : Registry) : List String :=
  Engine.defaultOrder.filter r.isRegistered ++
    r.names.filter fun name => !Engine.defaultOrder.contains name

theorem order_foldl_enable (r : Registry) (names : List String) :
    (names.foldl enable r).order = names.foldl (fun order name =>
      if r.isRegistered name && !order.contains name then order ++ [name] else order) r.order := by
  induction names generalizing r with
  | nil => rfl
  | cons name rest ih =>
    have detectors : (r.enable name).detectors = r.detectors := detectors_setEnabled r name true
    have registered : (r.enable name).isRegistered = r.isRegistered := by
      funext other
      rw [isRegistered, get?, detectors]
      rfl
    have order : (r.enable name).order =
        if r.isRegistered name && !r.order.contains name then r.order ++ [name] else r.order := by
      unfold enable
      rw [isEnabled]
      split <;> rfl
    rw [List.foldl_cons, List.foldl_cons, ih, registered, order]

/-- To enable all detectors puts those that have no place last. -/
theorem order_enableAll {r : Registry} (distinct : r.names.Nodup) :
    (r.names.foldl enable r).order =
      r.order ++ r.names.filter fun name => !r.order.contains name := by
  have all : r.names.filter r.isRegistered = r.names :=
    List.filter_eq_self.mpr fun _ mem => isRegistered_iff.mpr mem
  rw [order_foldl_enable, foldl_firstOccurrences, all, eraseDups_of_nodup (distinct.filter _)]

/-- When the order is that of the default names that are registered, the names that are missing are
the others. -/
theorem enableAll_eq {r : Registry} (distinct : r.names.Nodup)
    (short : r.order = Engine.defaultOrder.filter r.isRegistered) :
    r.names.foldl enable r = { r with order := r.defaultOrder } := by
  have order : (r.names.foldl enable r).order = r.defaultOrder := by
    rw [order_enableAll distinct, short, defaultOrder]
    congr 1
    apply List.filter_congr
    intro name mem
    simp [List.mem_filter, isRegistered_iff.mpr mem]
  exact congrArg₂ Registry.mk (detectors_enableAll r r.names) order

theorem setOrder_default (r : Registry) :
    (r.setOrder Engine.defaultOrder).order = Engine.defaultOrder.filter r.isRegistered := by
  have distinct : Engine.defaultOrder.Nodup := by decide
  rw [setOrder_order, eraseDups_of_nodup (distinct.filter _)]

/-- The default order has every registered name in one place. -/
theorem defaultOrder_perm {r : Registry} (distinct : r.names.Nodup) :
    r.defaultOrder.Perm r.names := by
  have short : Engine.defaultOrder.Nodup := by decide
  have ordered : r.defaultOrder.Nodup := by
    refine List.nodup_append.mpr ⟨short.filter _, distinct.filter _, ?_⟩
    rintro name first _ second rfl
    simp [(List.mem_filter.mp first).1] at second
  rw [List.perm_ext_iff_of_nodup ordered distinct]
  intro name
  rw [defaultOrder, List.mem_append, List.mem_filter, List.mem_filter, isRegistered_iff]
  by_cases default : name ∈ Engine.defaultOrder <;> simp [default]

theorem defaultOrder_congr {r other : Registry} (names : r.names = other.names) :
    r.defaultOrder = other.defaultOrder := by
  have registered : r.isRegistered = other.isRegistered := funext (isRegistered_congr names)
  rw [defaultOrder, defaultOrder, registered, names]

end Registry

/-! ### Detectors -/

/-- A detector is dressed as it was dressed last. -/
theorem Detector.dress_dress (d : Detector) (earlier later : List String) (first last : Binary64) :
    (d.dress earlier first).dress later last = d.dress later last := by
  rw [Detector.dress, setAllowed_dress]
  rfl

/-- A detector that has an allow-list has the default one once it was handed. -/
theorem Detector.allowed?_setAllowed_default {d : Detector} (selectable : d.isSelectable = true) :
    (d.setAllowed Engine.defaultAllowed).allowed? = some Engine.defaultAllowed := by
  have fingerprints : Fingerprints.normalAllowed Engine.defaultAllowed = Engine.defaultAllowed := by
    decide
  have custom : Engine.defaultAllowed.map Text.lower = Engine.defaultAllowed := by decide
  rcases d with ⟨name, displayName, description, gate, strategy⟩
  cases strategy with
  | fingerprints f => exact congrArg some fingerprints
  | lexers ls => cases selectable
  | classifier c => cases selectable
  | custom c =>
    rcases c with ⟨kind, languages, answer, capability, calls⟩
    cases capability with
    | none => cases selectable
    | configurable payloads => cases selectable
    | selectable payloads allowed => exact congrArg some custom

/-- The threshold that is told of a detector with the default gate. -/
theorem Detector.threshold_of_default {d : Detector}
    (gate : gateOfThreshold Engine.defaultThreshold = .ok d.gate) : d.threshold = 70 := by
  have told : ((gateOfThreshold Engine.defaultThreshold).map fun gate =>
      (confidenceOf (.float (gate.mul (Binary64.ofNat 100)))).toOption).toOption =
        some (some 70) := by
    decide +kernel
  rw [gate] at told
  rw [threshold, scoreGate]
  cases read : confidenceOf (.float (d.gate.mul (Binary64.ofNat 100))) with
  | ok n => simpa [read, Except.map, Except.toOption] using told
  | error fault => simp [read, Except.map, Except.toOption] at told

theorem Cache.clear_clear (c : Cache) : c.clear.clear = c.clear := by
  simp [Cache.clear]

namespace Engine

/-! ### The defaults -/

/-- A reset in one step: every detector gets the default gate and the default allow-list. -/
theorem reset_eq {e : Engine} (distinct : e.registry.names.Nodup) :
    ∃ gate, gateOfThreshold defaultThreshold = .ok gate ∧
      e.reset = {
        registry := Registry.mapDetectors ⟨e.registry.detectors, e.registry.defaultOrder⟩
          (·.dress defaultAllowed gate)
        threshold := defaultThreshold
        allowed := defaultAllowed
        cache := e.cache.map Cache.clear
        clock := e.clock } := by
  have threshold : clampThreshold defaultThreshold = defaultThreshold := by decide +kernel
  have allowed : normalLanguages defaultAllowed = defaultAllowed := by decide
  obtain ⟨gate, made, pushed⟩ := pushThreshold_eq (e.setOrder defaultOrder) defaultThreshold
  rw [threshold] at made pushed
  refine ⟨gate, made, ?_⟩
  have dressed :
      ((e.registry.setOrder defaultOrder).mapDetectors fun d => { d with gate }).mapDetectors
        (·.setAllowed defaultAllowed) =
        (e.registry.setOrder defaultOrder).mapDetectors (·.dress defaultAllowed gate) := by
    rw [Registry.mapDetectors_mapDetectors]
    exact congrArg _ (funext fun d => Detector.setAllowed_withGate d gate _)
  have names : ((e.registry.setOrder defaultOrder).mapDetectors
      (·.dress defaultAllowed gate)).names = e.registry.names := Registry.names_mapDetectors _ _
  have short : ((e.registry.setOrder defaultOrder).mapDetectors
      (·.dress defaultAllowed gate)).order = defaultOrder.filter
        ((e.registry.setOrder defaultOrder).mapDetectors
          (·.dress defaultAllowed gate)).isRegistered := by
    rw [funext (Registry.isRegistered_congr names)]
    exact Registry.setOrder_default e.registry
  have enabled := Registry.enableAll_eq (names ▸ distinct) short
  rw [Registry.defaultOrder_congr names] at enabled
  rw [reset, pushed, setAllowed, allowed]
  simp only [setOrder, dressed, enabled]
  rfl

/-- A second reset changes nothing. -/
theorem reset_reset {e : Engine} (distinct : e.registry.names.Nodup) : e.reset.reset = e.reset := by
  obtain ⟨gate, made, reset⟩ := reset_eq distinct
  have names : e.reset.registry.names = e.registry.names := by
    rw [reset]
    exact Registry.names_mapDetectors _ _
  obtain ⟨gate', made', again⟩ := reset_eq (names ▸ distinct : e.reset.registry.names.Nodup)
  obtain rfl : gate = gate' := by
    rw [made] at made'
    exact Except.ok.inj made'
  have dressed (d : Detector) :
      (d.dress defaultAllowed gate).dress defaultAllowed gate = d.dress defaultAllowed gate :=
    Detector.dress_dress d ..
  have cleared : (e.cache.map Cache.clear).map Cache.clear = e.cache.map Cache.clear := by
    rw [Option.map_map]
    exact congrArg (Option.map · e.cache) (funext Cache.clear_clear)
  rw [again, Registry.defaultOrder_congr names, reset, cleared]
  congr 1
  show (Registry.mapDetectors ⟨e.registry.detectors, e.registry.defaultOrder⟩
    (·.dress defaultAllowed gate)).mapDetectors (·.dress defaultAllowed gate) = _
  rw [Registry.mapDetectors_mapDetectors]
  exact congrArg _ (funext dressed)

/-- Whatever a session made of the order, the thresholds and the allow-lists, a reset leads back to
the defaults. The order names every registered detector once, the default names first and the
others in the order of registration. The threshold and that of every detector are the default one,
every detector that has an allow-list has the default one, the cache is empty, and a second reset
changes nothing. -/
theorem reset_of_run {o : Options} {clock : Binary64} {e : Engine} (made : create o clock = .ok e)
    {accesses : List Access} (built : ∀ a ∈ accesses, a.Built) :
    let before := accesses.foldl access e
    let after := before.reset
    after.registry.names = before.registry.names ∧
      after.registry.order.Perm before.registry.names ∧
      after.registry.order = defaultOrder.filter before.registry.isRegistered ++
        before.registry.names.filter (fun name => !defaultOrder.contains name) ∧
      after.threshold = defaultThreshold ∧
      (∀ d ∈ after.registry.all,
        gateOfThreshold defaultThreshold = .ok d.gate ∧ d.threshold = 70) ∧
      after.allowed = defaultAllowed ∧
      (∀ d ∈ after.registry.all, d.isSelectable = true → d.allowed? = some defaultAllowed) ∧
      (∀ c, after.cache = some c → c.entries = []) ∧
      after.reset = after := by
  intro before after
  have inRange : before.InRange := (inRange_create made).foldl_access built
  have distinct := inRange.registry.distinct
  obtain ⟨gate, isDefault, isAfter⟩ : ∃ gate, gateOfThreshold defaultThreshold = .ok gate ∧
      after = _ := reset_eq distinct
  have dressed : ∀ d ∈ after.registry.all, ∃ old : Detector,
      d = old.dress defaultAllowed gate := by
    rw [isAfter]
    intro d mem
    obtain ⟨entry, there, rfl⟩ := List.mem_map.mp mem
    obtain ⟨old, -, rfl⟩ := List.mem_map.mp there
    exact ⟨old.2, rfl⟩
  have order : after.registry.order = before.registry.defaultOrder := by
    rw [isAfter]
    rfl
  refine ⟨?_, ?_, order, ?_, ?_, ?_, ?_, ?_, reset_reset distinct⟩
  · rw [isAfter]
    exact Registry.names_mapDetectors _ _
  · rw [order]
    exact Registry.defaultOrder_perm distinct
  · rw [isAfter]
  · intro d mem
    obtain ⟨old, rfl⟩ := dressed d mem
    exact ⟨isDefault, Detector.threshold_of_default isDefault⟩
  · rw [isAfter]
  · intro d mem selectable
    obtain ⟨old, rfl⟩ := dressed d mem
    rw [Detector.isSelectable_dress] at selectable
    exact Detector.allowed?_setAllowed_default selectable
  · rw [isAfter]
    intro c found
    obtain ⟨c, -, rfl⟩ := Option.map_eq_some_iff.mp found
    rfl

/-- A detector of a user, with an allow-list and a gate of its own. -/
def house : Detector where
  name := "house"
  displayName := "House"
  description := "Knows its own"
  gate := Binary64.max Binary64.zero (Binary64.min Binary64.one Binary64.zero)
  strategy := .custom {
    kind := "HouseDetector"
    languages := ["rust"]
    answer := fun _ _ _ => .ok none
    capability := .selectable {} ["go"] }

/-- A session that leaves one detector disabled, the others in an order and with thresholds of their
own, and another allow-list. -/
def rearranged : List Access :=
  [.action (.register unruly), .action (.register house),
    .action (.changeOrder ["house", "pygments"]), .action (.changeThreshold 20),
    .action (.changeDetectorThreshold "house" 5), .registry (.disable "pygments"),
    .action (.changeAllowed ["Rust", "go"])]

theorem reset_of_run_rearranged :
    ∃ e, create {} Binary64.zero = .ok e ∧
      (rearranged.foldl access e).registry.order = ["house"] ∧
      (rearranged.foldl access e).registry.all.map Detector.threshold = [20, 5] ∧
      (rearranged.foldl access e).allowed = ["rust", "go"] ∧
      (rearranged.foldl access e).reset.registry.order = ["pygments", "house"] ∧
      (rearranged.foldl access e).reset.threshold = 70 ∧
      (rearranged.foldl access e).reset.reset = (rearranged.foldl access e).reset := by
  have built : ∀ a ∈ rearranged, a.Built := by
    intro a mem
    simp only [rearranged, List.mem_cons, List.not_mem_nil, or_false] at mem
    rcases mem with rfl | rfl | rfl | rfl | rfl | rfl | rfl
    · have made : Detector.ofLexers .absent (.float .nan) = .ok unruly := rfl
      exact .ofLexers made
    · have made : Detector.ofCustom "house" "House" "Knows its own" (.float Binary64.zero)
          { kind := "HouseDetector", languages := ["rust"], answer := fun _ _ _ => .ok none
            capability := .selectable {} ["go"] } = .ok house := rfl
      exact .ofCustom made
    all_goals trivial
  obtain ⟨-, -, order, threshold, -, -, -, -, again⟩ := reset_of_run create_default built
  have session : (rearranged.foldl access blank).registry.order = ["house"] ∧
      (rearranged.foldl access blank).registry.all.map Detector.threshold = [20, 5] ∧
      (rearranged.foldl access blank).allowed = ["rust", "go"] ∧
      (rearranged.foldl access blank).registry.defaultOrder = ["pygments", "house"] := by
    decide +kernel
  exact ⟨blank, create_default, session.1, session.2.1, session.2.2.1, order.trans session.2.2.2,
    threshold, again⟩

end Engine

end SnippetDetect
