import SnippetDetect.Engine.Detect
import SnippetDetect.Proofs.Detector
import SnippetDetect.Proofs.Entries

/-!
The registry as a table of detectors with an order on some of its names.

* `get?_put`, `get?_mapDetectors`: what a look-up finds after a write.
* `setOrder_order`: an order that is set keeps the first occurrences of registered names.
* `Orderly` and `WellFormed` are what every write keeps, the one about the names only, the other
  about the detectors as well; their lemmas are named after the writes.
* `firstAccepted_fst`: the sequential protocol answers by a search through the order that looks
  at each detector as it was before the first one was asked.
-/

namespace SnippetDetect.Registry

/-! ### Looking up -/

theorem get?_put (r : Registry) (d : Detector) (name : String) :
    (r.put d).get? name = if name = d.name then some d else r.get? name :=
  valueOf?_setEntry d.name name d r.detectors

theorem get?_mapDetectors (r : Registry) (f : Detector → Detector) (name : String) :
    (r.mapDetectors f).get? name = (r.get? name).map f :=
  valueOf?_mapEntries f r.detectors name

@[simp] theorem names_mapDetectors (r : Registry) (f : Detector → Detector) :
    (r.mapDetectors f).names = r.names :=
  entryNames_mapEntries f r.detectors

theorem mapDetectors_mapDetectors (r : Registry) (f g : Detector → Detector) :
    (r.mapDetectors f).mapDetectors g = r.mapDetectors fun d => g (f d) :=
  congrArg (Registry.mk · r.order) (mapEntries_mapEntries g f r.detectors)

theorem isRegistered_iff {r : Registry} {name : String} :
    r.isRegistered name = true ↔ name ∈ r.names := valueOf?_isSome_iff

theorem isRegistered_of_get? {r : Registry} {name : String} {d : Detector}
    (found : r.get? name = some d) : r.isRegistered name = true := by
  rw [isRegistered, found, Option.isSome_some]

theorem names_put {r : Registry} {d : Detector} (registered : r.isRegistered d.name = true) :
    (r.put d).names = r.names :=
  entryNames_setEntry_of_mem (isRegistered_iff.mp registered) d

theorem isRegistered_congr {r other : Registry} (names : r.names = other.names) (name : String) :
    r.isRegistered name = other.isRegistered name := by
  rw [Bool.eq_iff_iff, isRegistered_iff, isRegistered_iff, names]

/-! ### The order -/

/-- Names kept one after the other, each at its first occurrence. -/
theorem foldl_firstOccurrences (keep : String → Bool) (names kept : List String) :
    names.foldl (fun order name =>
        if keep name && !order.contains name then order ++ [name] else order) kept =
      kept ++ ((names.filter keep).filter fun name => !kept.contains name).eraseDups := by
  induction names generalizing kept with
  | nil => simp
  | cons name rest ih =>
    rw [List.foldl_cons, ih]
    by_cases wanted : keep name
    · by_cases there : name ∈ kept
      · simp [wanted, there]
      · have fresh : (keep name && !kept.contains name) = true := by simp [wanted, there]
        have later : (rest.filter keep).filter (fun other => !(kept ++ [name]).contains other) =
            ((rest.filter keep).filter fun other => !kept.contains other).filter
              fun other => !other == name := by
          generalize rest.filter keep = candidates
          rw [List.filter_filter]
          apply List.filter_congr
          intro other _
          by_cases same : other = name <;> simp [same]
        rw [if_pos fresh, later, List.filter_cons_of_pos wanted,
          List.filter_cons_of_pos (by simp [there]), List.eraseDups_cons]
        simp
    · simp [wanted]

theorem setOrder_order (r : Registry) (names : List String) :
    (r.setOrder names).order = (names.filter r.isRegistered).eraseDups := by
  simpa [setOrder] using foldl_firstOccurrences r.isRegistered names []

/-- Names that are not registered do not count. -/
theorem setOrder_filter (r : Registry) (names : List String) :
    r.setOrder (names.filter r.isRegistered) = r.setOrder names := by
  have order : (r.setOrder (names.filter r.isRegistered)).order = (r.setOrder names).order := by
    rw [setOrder_order, setOrder_order, List.filter_filter]
    simp only [Bool.and_self]
  exact congrArg (Registry.mk r.detectors) order

theorem setOrder_nodup (r : Registry) (names : List String) :
    (r.setOrder names).order.Nodup := by
  rw [setOrder_order]
  exact nodup_eraseDups _

theorem mem_setOrder {r : Registry} {names : List String} {name : String} :
    name ∈ (r.setOrder names).order ↔ name ∈ names ∧ r.isRegistered name = true := by
  rw [setOrder_order, List.mem_eraseDups, List.mem_filter]

/-- An order that can stand is set as it is. -/
theorem setOrder_eq_self {r : Registry} {names : List String} (distinct : names.Nodup)
    (known : ∀ name ∈ names, r.isRegistered name = true) : (r.setOrder names).order = names := by
  rw [setOrder_order, List.filter_eq_self.mpr known, eraseDups_of_nodup distinct]

/-! ### Orderly registries -/

/-- A registry as its own writes leave it, whatever the detectors are: every detector stands under
its name, and the order names registered detectors, each once. -/
structure Orderly (r : Registry) : Prop where
  keyed : ∀ entry ∈ r.detectors, entry.2.name = entry.1
  distinct : r.names.Nodup
  ordered : r.order.Nodup
  known : ∀ name ∈ r.order, r.isRegistered name = true

theorem orderly_empty : ({} : Registry).Orderly :=
  ⟨by simp, List.nodup_nil, List.nodup_nil, by simp⟩

theorem names_register (r : Registry) (d : Detector) :
    (r.register d).names = if r.isRegistered d.name then r.names else r.names ++ [d.name] := by
  split
  · next registered => exact names_put registered
  · next fresh =>
    have absent : d.name ∉ entryNames r.detectors := fun mem => fresh (isRegistered_iff.mpr mem)
    show entryNames (setEntry d.name d r.detectors) = _
    rw [setEntry_of_not_mem absent]
    simp [entryNames, names]

theorem get?_register (r : Registry) (d : Detector) (name : String) :
    (r.register d).get? name = if name = d.name then some d else r.get? name :=
  get?_put r d name

section Orderly

variable {r : Registry}

theorem Orderly.name_of_get? (orderly : r.Orderly) {name : String} {d : Detector}
    (found : r.get? name = some d) : d.name = name :=
  orderly.keyed _ (mem_of_valueOf? found)

/-- The detectors are those that a look-up finds. -/
theorem Orderly.mem_all_iff (orderly : r.Orderly) {d : Detector} :
    d ∈ r.all ↔ r.get? d.name = some d := by
  constructor
  · intro mem
    obtain ⟨entry, there, rfl⟩ := List.mem_map.mp mem
    rw [orderly.keyed entry there]
    exact valueOf?_of_mem orderly.distinct there
  · intro found
    exact List.mem_map_of_mem (mem_of_valueOf? found)

theorem Orderly.map_name_all (orderly : r.Orderly) : r.all.map (·.name) = r.names := by
  rw [all, List.map_map]
  exact List.map_congr_left orderly.keyed

theorem Orderly.put (orderly : r.Orderly) {d : Detector}
    (registered : r.isRegistered d.name = true) : (r.put d).Orderly where
  keyed := by
    intro entry mem
    rcases mem_setEntry mem with rfl | old
    · rfl
    · exact orderly.keyed entry old
  distinct := by
    rw [names_put registered]
    exact orderly.distinct
  ordered := orderly.ordered
  known := by
    intro name mem
    rw [isRegistered_congr (names_put registered)]
    exact orderly.known name mem

theorem Orderly.mapDetectors (orderly : r.Orderly) {f : Detector → Detector}
    (name : ∀ d, (f d).name = d.name) : (r.mapDetectors f).Orderly where
  keyed := by
    intro entry mem
    obtain ⟨old, there, rfl⟩ := List.mem_map.mp mem
    exact (name old.2).trans (orderly.keyed old there)
  distinct := by
    rw [names_mapDetectors]
    exact orderly.distinct
  ordered := orderly.ordered
  known := by
    intro other mem
    rw [isRegistered_congr (names_mapDetectors r f)]
    exact orderly.known other mem

theorem Orderly.withOrder (orderly : r.Orderly) {order : List String}
    (distinct : order.Nodup) (known : ∀ name ∈ order, r.isRegistered name = true) :
    ({ r with order } : Registry).Orderly :=
  ⟨orderly.keyed, orderly.distinct, distinct, known⟩

theorem Orderly.setOrder (orderly : r.Orderly) (names : List String) :
    (r.setOrder names).Orderly :=
  orderly.withOrder (setOrder_nodup r names) fun _ mem => (mem_setOrder.mp mem).2

theorem Orderly.enable (orderly : r.Orderly) (name : String) : (r.enable name).Orderly := by
  unfold Registry.enable
  split
  · next fresh =>
    obtain ⟨registered, absent⟩ := Bool.and_eq_true_iff.mp fresh
    have absent : name ∉ r.order := by simpa [isEnabled] using absent
    refine orderly.withOrder ?_ ?_
    · simpa [List.nodup_append] using
        ⟨orderly.ordered, fun other mem same => absent (same ▸ mem)⟩
    · intro other mem
      rcases List.mem_append.mp mem with old | new
      · exact orderly.known other old
      · rw [List.mem_singleton.mp new]
        exact registered
  · exact orderly

theorem Orderly.disable (orderly : r.Orderly) (name : String) : (r.disable name).Orderly :=
  orderly.withOrder (orderly.ordered.filter _) fun other mem =>
    orderly.known other (List.mem_filter.mp mem).1

theorem Orderly.setEnabled (orderly : r.Orderly) (name : String) (enabled : Bool) :
    (r.setEnabled name enabled).Orderly := by
  unfold Registry.setEnabled
  split
  · exact orderly.enable name
  · exact orderly.disable name

/-- To register under a name that is there is to replace the detector. -/
theorem register_of_registered {d : Detector} (registered : r.isRegistered d.name = true) :
    r.register d = r.put d := by
  simp [Registry.register, registered, Registry.put]

theorem Orderly.register (orderly : r.Orderly) (d : Detector) : (r.register d).Orderly := by
  by_cases registered : r.isRegistered d.name
  · rw [register_of_registered registered]
    exact orderly.put registered
  · have outside : d.name ∉ r.order := fun mem => registered (orderly.known _ mem)
    have order : (r.register d).order = r.order ++ [d.name] := by
      simp [Registry.register, registered, isEnabled, outside]
    refine ⟨?_, ?_, ?_, ?_⟩
    · intro entry mem
      rcases mem_setEntry mem with rfl | old
      · rfl
      · exact orderly.keyed entry old
    · rw [names_register, if_neg registered]
      have absent : d.name ∉ r.names := fun mem => registered (isRegistered_iff.mpr mem)
      simpa [List.nodup_append] using
        ⟨orderly.distinct, fun other mem same => absent (same ▸ mem)⟩
    · rw [order]
      simpa [List.nodup_append] using
        ⟨orderly.ordered, fun other mem same => outside (same ▸ mem)⟩
    · intro name mem
      rw [isRegistered, get?_register]
      rw [order, List.mem_append, List.mem_singleton] at mem
      split
      · rfl
      · next other => exact orderly.known name (mem.resolve_right other)

theorem get?_unregister (r : Registry) (name other : String) :
    (r.unregister name).2.get? other = if other = name then none else r.get? other :=
  valueOf?_eraseEntry name other r.detectors

theorem Orderly.unregister (orderly : r.Orderly) (name : String) :
    (r.unregister name).2.Orderly where
  keyed := by
    intro entry mem
    exact orderly.keyed entry (List.mem_filter.mp mem).1
  distinct := by
    show (entryNames (eraseEntry name r.detectors)).Nodup
    rw [entryNames_eraseEntry]
    exact orderly.distinct.filter _
  ordered := orderly.ordered.filter _
  known := by
    intro other mem
    obtain ⟨old, differ⟩ := List.mem_filter.mp mem
    rw [isRegistered, get?_unregister, if_neg (by simpa using differ)]
    exact orderly.known other old

end Orderly

/-! ### Well-formed registries -/

/-- A registry as its own writes leave it: every detector stands under its name, and the order
names registered detectors, each once. -/
structure WellFormed (r : Registry) : Prop where
  keyed : ∀ entry ∈ r.detectors, entry.2.name = entry.1
  distinct : r.names.Nodup
  ordered : r.order.Nodup
  known : ∀ name ∈ r.order, r.isRegistered name = true
  detectors : ∀ entry ∈ r.detectors, entry.2.WellFormed

theorem WellFormed.orderly {r : Registry} (wellFormed : r.WellFormed) : r.Orderly :=
  ⟨wellFormed.keyed, wellFormed.distinct, wellFormed.ordered, wellFormed.known⟩

theorem Orderly.wellFormed {r : Registry} (orderly : r.Orderly)
    (parts : ∀ entry ∈ r.detectors, entry.2.WellFormed) : r.WellFormed :=
  ⟨orderly.keyed, orderly.distinct, orderly.ordered, orderly.known, parts⟩

theorem wellFormed_empty : ({} : Registry).WellFormed := orderly_empty.wellFormed (by simp)

section Writes

variable {r : Registry}

theorem WellFormed.name_of_get? (wellFormed : r.WellFormed) {name : String} {d : Detector}
    (found : r.get? name = some d) : d.name = name :=
  wellFormed.orderly.name_of_get? found

/-- A detector that is found is found under its own name. -/
theorem WellFormed.get?_name (wellFormed : r.WellFormed) {name : String} {d : Detector}
    (found : r.get? name = some d) : r.get? d.name = some d := by
  rw [wellFormed.name_of_get? found, found]

theorem WellFormed.of_get? (wellFormed : r.WellFormed) {name : String} {d : Detector}
    (found : r.get? name = some d) : d.WellFormed :=
  wellFormed.detectors _ (mem_of_valueOf? found)

theorem WellFormed.mem_all_iff (wellFormed : r.WellFormed) {d : Detector} :
    d ∈ r.all ↔ r.get? d.name = some d :=
  wellFormed.orderly.mem_all_iff

theorem WellFormed.map_name_all (wellFormed : r.WellFormed) : r.all.map (·.name) = r.names :=
  wellFormed.orderly.map_name_all

theorem WellFormed.put (wellFormed : r.WellFormed) {d : Detector}
    (registered : r.isRegistered d.name = true) (part : d.WellFormed) :
    (r.put d).WellFormed := by
  refine (wellFormed.orderly.put registered).wellFormed ?_
  intro entry mem
  rcases mem_setEntry mem with rfl | old
  · exact part
  · exact wellFormed.detectors entry old

theorem WellFormed.mapDetectors (wellFormed : r.WellFormed) {f : Detector → Detector}
    (name : ∀ d, (f d).name = d.name) (part : ∀ d, d.WellFormed → (f d).WellFormed) :
    (r.mapDetectors f).WellFormed := by
  refine (wellFormed.orderly.mapDetectors name).wellFormed ?_
  intro entry mem
  obtain ⟨old, there, rfl⟩ := List.mem_map.mp mem
  exact part old.2 (wellFormed.detectors old there)

theorem WellFormed.setOrder (wellFormed : r.WellFormed) (names : List String) :
    (r.setOrder names).WellFormed :=
  (wellFormed.orderly.setOrder names).wellFormed wellFormed.detectors

theorem WellFormed.enable (wellFormed : r.WellFormed) (name : String) :
    (r.enable name).WellFormed := by
  refine (wellFormed.orderly.enable name).wellFormed ?_
  unfold Registry.enable
  split <;> exact wellFormed.detectors

theorem WellFormed.disable (wellFormed : r.WellFormed) (name : String) :
    (r.disable name).WellFormed :=
  (wellFormed.orderly.disable name).wellFormed wellFormed.detectors

theorem WellFormed.setEnabled (wellFormed : r.WellFormed) (name : String) (enabled : Bool) :
    (r.setEnabled name enabled).WellFormed := by
  unfold Registry.setEnabled
  split
  · exact wellFormed.enable name
  · exact wellFormed.disable name

theorem WellFormed.enableAll (wellFormed : r.WellFormed) (names : List String) :
    (names.foldl Registry.enable r).WellFormed := by
  induction names generalizing r with
  | nil => exact wellFormed
  | cons name rest ih => exact ih (wellFormed.enable name)

@[simp] theorem detectors_setEnabled (r : Registry) (name : String) (enabled : Bool) :
    (r.setEnabled name enabled).detectors = r.detectors := by
  cases enabled with
  | false => rfl
  | true =>
    show (if _ then _ else r : Registry).detectors = r.detectors
    split <;> rfl

theorem detectors_enableAll (r : Registry) (names : List String) :
    (names.foldl Registry.enable r).detectors = r.detectors := by
  induction names generalizing r with
  | nil => rfl
  | cons name rest ih => exact (ih (r.enable name)).trans (detectors_setEnabled r name true)

theorem WellFormed.register (wellFormed : r.WellFormed) {d : Detector} (part : d.WellFormed) :
    (r.register d).WellFormed := by
  refine (wellFormed.orderly.register d).wellFormed ?_
  intro entry mem
  rcases mem_setEntry mem with rfl | old
  · exact part
  · exact wellFormed.detectors entry old

theorem WellFormed.unregister (wellFormed : r.WellFormed) (name : String) :
    (r.unregister name).2.WellFormed := by
  refine (wellFormed.orderly.unregister name).wellFormed ?_
  intro entry mem
  exact wellFormed.detectors entry (List.mem_filter.mp mem).1

/-- To forget a detector that is not there changes nothing. -/
theorem WellFormed.unregister_of_absent (wellFormed : r.WellFormed) {name : String}
    (absent : r.isRegistered name = false) : (r.unregister name).2 = r := by
  have outside : name ∉ r.names := by
    rw [← isRegistered_iff, absent]
    exact Bool.false_ne_true
  have detectors : eraseEntry name r.detectors = r.detectors := by
    apply List.filter_eq_self.mpr
    intro entry mem
    have differ : entry.1 ≠ name := fun same => outside (same ▸ List.mem_map_of_mem mem)
    simpa using differ
  have order : r.order.filter (· ≠ name) = r.order := by
    apply List.filter_eq_self.mpr
    intro other mem
    have differ : other ≠ name := by
      rintro rfl
      rw [wellFormed.known other mem] at absent
      cases absent
    simpa using differ
  show Registry.mk (eraseEntry name r.detectors) (r.order.filter (· ≠ name)) = r
  rw [detectors, order]

end Writes

/-! ### Memory -/

/-- The registry with detectors that remember nothing. -/
def memoryless (r : Registry) : Registry := r.mapDetectors Detector.memoryless

theorem get?_memoryless (r : Registry) (name : String) :
    r.memoryless.get? name = (r.get? name).map Detector.memoryless :=
  get?_mapDetectors r Detector.memoryless name

@[simp] theorem names_memoryless (r : Registry) : r.memoryless.names = r.names :=
  names_mapDetectors r Detector.memoryless

theorem isRegistered_memoryless (r : Registry) (name : String) :
    r.memoryless.isRegistered name = r.isRegistered name :=
  isRegistered_congr (names_memoryless r) name

theorem memoryless_put (r : Registry) (d : Detector) :
    (r.put d).memoryless = r.memoryless.put d.memoryless :=
  congrArg (fun detectors => ({ detectors, order := r.order } : Registry))
    (mapEntries_setEntry Detector.memoryless d.name d r.detectors)

/-- Another state of a detector's memory is not seen. -/
theorem memoryless_put_of_same {r : Registry} {d old : Detector} (found : r.get? d.name = some old)
    (same : d.memoryless = old.memoryless) : (r.put d).memoryless = r.memoryless := by
  have kept : setEntry d.name d.memoryless r.memoryless.detectors = r.memoryless.detectors := by
    apply setEntry_eq_self
    have := get?_memoryless r d.name
    rw [found, Option.map_some, ← same] at this
    exact this
  rw [memoryless_put]
  exact congrArg (fun detectors => ({ detectors, order := r.order } : Registry)) kept

/-- To map what commutes with forgetting, forgetting first or last. -/
theorem memoryless_mapDetectors (r : Registry) {f : Detector → Detector}
    (commutes : ∀ d, (f d).memoryless = f d.memoryless) :
    (r.mapDetectors f).memoryless = r.memoryless.mapDetectors f := by
  simp [memoryless, mapDetectors, commutes]

/-! ### Detection -/

section Detection

variable {r : Registry}

/-- The answer of a detector, if it has one. -/
def answerOf (d : Detector) (code : Snippet) : Option Detection :=
  match (d.detect code).1 with
  | .ok answer => answer
  | .error _ => none

theorem ask_fst (r : Registry) (d : Detector) (code : Snippet) :
    (r.ask d code).1 = answerOf d code := rfl

theorem ask_snd (r : Registry) (d : Detector) (code : Snippet) :
    (r.ask d code).2 = r.put (d.detect code).2 := rfl

theorem answerOf_memoryless {d : Detector} (wellFormed : d.WellFormed) (code : Snippet) :
    answerOf d.memoryless code = answerOf d code := by
  rw [answerOf, Detector.detect_memoryless wellFormed, answerOf]

/-- To ask a detector changes nothing but its memory. -/
theorem memoryless_ask {d : Detector} (found : r.get? d.name = some d) (code : Snippet) :
    (r.ask d code).2.memoryless = r.memoryless := by
  have there : r.get? (d.detect code).2.name = some d := by rw [Detector.detect_name, found]
  exact memoryless_put_of_same there (Detector.memoryless_detect d code)

theorem WellFormed.ask (wellFormed : r.WellFormed) {d : Detector}
    (found : r.get? d.name = some d) (code : Snippet) : (r.ask d code).2.WellFormed := by
  rw [ask_snd]
  apply wellFormed.put
  · rw [Detector.detect_name]
    exact isRegistered_of_get? found
  · exact Detector.wellFormed_detect (wellFormed.of_get? found) code

/-- The answer of a registered detector, if it has one that reaches the threshold and that it
accepts. -/
def acceptedFrom (r : Registry) (threshold : Number) (code : Snippet) (name : String) : Option Detection :=
  (r.get? name).bind fun d =>
    (answerOf d code).filter fun answer =>
      !answer.confidence.lt threshold && d.accepts answer.language

theorem acceptedFrom_memoryless (wellFormed : r.WellFormed) (threshold : Number)
    (code : Snippet) (name : String) :
    r.memoryless.acceptedFrom threshold code name = r.acceptedFrom threshold code name := by
  rw [acceptedFrom, get?_memoryless, acceptedFrom]
  cases found : r.get? name with
  | none => rfl
  | some d =>
    simp only [Option.map_some, Option.bind_some,
      answerOf_memoryless (wellFormed.of_get? found), Detector.accepts_memoryless]

/-- Memory does not change which answers are accepted. -/
theorem acceptedFrom_congr {other : Registry} (wellFormed : r.WellFormed)
    (otherWellFormed : other.WellFormed) (same : other.memoryless = r.memoryless)
    (threshold : Number) (code : Snippet) :
    other.acceptedFrom threshold code = r.acceptedFrom threshold code := by
  funext name
  rw [← acceptedFrom_memoryless otherWellFormed, same, acceptedFrom_memoryless wellFormed]

/-- What the sequential protocol answers, as a function of the detectors before it starts. -/
def verdict (r : Registry) (threshold : Number) (code : Snippet) : Option Detection :=
  r.order.findSome? (r.acceptedFrom threshold code)

theorem verdict_memoryless (wellFormed : r.WellFormed) (threshold : Number) (code : Snippet) :
    r.memoryless.verdict threshold code = r.verdict threshold code := by
  have same : r.memoryless.acceptedFrom threshold code = r.acceptedFrom threshold code :=
    funext (acceptedFrom_memoryless wellFormed threshold code)
  rw [verdict, same]
  rfl

theorem firstAccepted_cons (threshold : Number) (code : Snippet) (name : String) (rest : List String)
    (r : Registry) :
    firstAccepted threshold code (name :: rest) r =
      match r.get? name with
      | none => firstAccepted threshold code rest r
      | some d =>
          match r.acceptedFrom threshold code name with
          | some answer => (some answer, (r.ask d code).2)
          | none => firstAccepted threshold code rest (r.ask d code).2 := by
  rw [firstAccepted]
  cases found : r.get? name with
  | none => rfl
  | some d =>
    simp only [acceptedFrom, found, Option.bind_some, ← ask_fst r]
    rcases r.ask d code with ⟨answer, after⟩
    cases answer with
    | none => rfl
    | some answer =>
      by_cases accepted : (!answer.confidence.lt threshold && d.accepts answer.language) = true
      · rw [Option.filter_some, if_pos accepted]
        exact if_pos accepted
      · rw [Option.filter_some, if_neg accepted]
        exact if_neg accepted

/-- The sequential protocol keeps the registry well formed and changes nothing but memory. -/
theorem firstAccepted_snd (threshold : Number) (code : Snippet) (names : List String)
    (wellFormed : r.WellFormed) :
    (firstAccepted threshold code names r).2.WellFormed ∧
      (firstAccepted threshold code names r).2.memoryless = r.memoryless := by
  induction names generalizing r with
  | nil => exact ⟨wellFormed, rfl⟩
  | cons name rest ih =>
    rw [firstAccepted_cons]
    cases found : r.get? name with
    | none => exact ih wellFormed
    | some d =>
      have here := wellFormed.get?_name found
      have asked := wellFormed.ask here code
      have forgot := memoryless_ask here code
      dsimp only
      split
      · exact ⟨asked, forgot⟩
      · have later := ih asked
        exact ⟨later.1, later.2.trans forgot⟩

/-- The detectors asked on the way do not change what the later ones answer. -/
theorem firstAccepted_fst (threshold : Number) (code : Snippet) (names : List String)
    (wellFormed : r.WellFormed) :
    (firstAccepted threshold code names r).1 =
      names.findSome? (r.acceptedFrom threshold code) := by
  induction names generalizing r with
  | nil => rfl
  | cons name rest ih =>
    rw [firstAccepted_cons, List.findSome?_cons]
    cases found : r.get? name with
    | none =>
      have silent : r.acceptedFrom threshold code name = none := by
        rw [acceptedFrom, found, Option.bind_none]
      rw [silent]
      exact ih wellFormed
    | some d =>
      cases r.acceptedFrom threshold code name with
      | some answer => rfl
      | none =>
        have here := wellFormed.get?_name found
        have asked := wellFormed.ask here code
        rw [← acceptedFrom_congr wellFormed asked (memoryless_ask here code)]
        exact ih asked

/-- To ask detectors in turn changes nothing but memory. -/
theorem askEach_snd {ds : List Detector} (code : Snippet) (wellFormed : r.WellFormed)
    (there : ∀ d ∈ ds, (r.get? d.name).map Detector.memoryless = some d.memoryless)
    (parts : ∀ d ∈ ds, d.WellFormed) :
    (askEach code ds r).2.WellFormed ∧ (askEach code ds r).2.memoryless = r.memoryless := by
  induction ds generalizing r with
  | nil => exact ⟨wellFormed, rfl⟩
  | cons d rest ih =>
    obtain ⟨old, found, same⟩ := Option.map_eq_some_iff.mp (there d List.mem_cons_self)
    have asked : (r.ask d code).2.WellFormed := by
      rw [ask_snd]
      apply wellFormed.put
      · rw [Detector.detect_name]
        exact isRegistered_of_get? found
      · exact Detector.wellFormed_detect (parts d List.mem_cons_self) code
    have there_still : r.get? (d.detect code).2.name = some old := by
      rw [Detector.detect_name, found]
    have forgot : (r.ask d code).2.memoryless = r.memoryless :=
      memoryless_put_of_same there_still ((Detector.memoryless_detect d code).trans same.symm)
    have later := ih (r := (r.ask d code).2) asked
      (fun other mem => by
        rw [← get?_memoryless, forgot, get?_memoryless]
        exact there other (List.mem_cons_of_mem _ mem))
      fun other mem => parts other (List.mem_cons_of_mem _ mem)
    exact ⟨later.1, later.2.trans forgot⟩

theorem askEach_all (code : Snippet) (wellFormed : r.WellFormed) :
    (askEach code r.all r).2.WellFormed ∧ (askEach code r.all r).2.memoryless = r.memoryless := by
  apply askEach_snd code wellFormed
  · intro d mem
    rw [wellFormed.mem_all_iff.mp mem, Option.map_some]
  · intro d mem
    exact wellFormed.of_get? (wellFormed.mem_all_iff.mp mem)

end Detection

end SnippetDetect.Registry
