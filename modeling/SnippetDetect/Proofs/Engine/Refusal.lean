import SnippetDetect.Proofs.Engine.Reachable

/-!
Refused writes are atomic.

`Engine.snapshot` lists what a configuration can reach and what the cache holds. A reachable
engine that refuses a configuration, or a payload for one detector, has the same snapshot
afterwards (`refused_write_keeps_snapshot`): also when other detectors took their part before.
-/

namespace SnippetDetect

/-- The settings of an engine and of its detectors, and what is cached. -/
structure Snapshot where
  order : List String
  threshold : Number
  allowed : List String
  /-- The gate of every registered detector. -/
  gates : List (String × Binary64)
  /-- The allow-list of every registered detector that has one. -/
  allowLists : List (String × Option (List String))
  /-- The entries of the cache, the one used longest ago first. -/
  cached : Option (List CacheEntry)

namespace Engine

def snapshot (e : Engine) : Snapshot where
  order := e.registry.order
  threshold := e.threshold
  allowed := e.allowed
  gates := e.registry.all.map fun d => (d.name, d.gate)
  allowLists := e.registry.all.map fun d => (d.name, d.allowed?)
  cached := e.cache.map (·.entries)

/-- What does not depend on memory is the same for the same detectors. -/
theorem SameDetectors.map_all {e other : Engine} (same : e.SameDetectors other) {α : Type}
    {f : Detector → α} (forgets : ∀ d, f d.memoryless = f d) :
    other.registry.all.map f = e.registry.all.map f := by
  have forgot (r : Registry) : r.memoryless.all.map f = r.all.map f := by
    simp [Registry.memoryless, Registry.mapDetectors, Registry.all, Function.comp_def, forgets]
  rw [← forgot other.registry, same.memoryless, forgot]

theorem SameDetectors.snapshot_eq {e other : Engine} (same : e.SameDetectors other)
    (cache : other.cache = e.cache) : other.snapshot = e.snapshot := by
  have order : other.registry.memoryless.order = e.registry.memoryless.order := by
    rw [same.memoryless]
  replace order : other.registry.order = e.registry.order := order
  have gates := same.map_all (f := fun d => (d.name, d.gate)) fun _ => rfl
  have allowLists := same.map_all (f := fun d => (d.name, d.allowed?)) fun d => by
    rw [Detector.allowed?_memoryless, Detector.memoryless_name]
  rw [snapshot, snapshot, order, same.threshold, same.allowed, gates, allowLists, cache]

/-- A refused write leaves a reachable engine as it was: a configuration of the wrong shape, one
whose part some detector refuses, and a payload that its detector refuses. -/
theorem refused_write_keeps_snapshot {e : Engine} (reached : Reachable Action.WellFormed e) :
    (∀ config faults changed, e.configure config = (.error faults, changed) →
      changed.snapshot = e.snapshot) ∧
    (∀ name payload fault changed, e.configureDetector name payload = (.error fault, changed) →
      changed.snapshot = e.snapshot) := by
  constructor
  · intro config faults changed refused
    obtain ⟨same, cache⟩ := configure_refused reached.consistent refused
    exact same.snapshot_eq cache
  · intro name payload fault changed refused
    obtain ⟨same, cache⟩ := configureDetector_refused reached.consistent refused
    exact same.snapshot_eq cache

/-! ### A refusal half-way -/

/-- A detector of the user's that refuses some names in payloads. -/
def picky (name : String) (refused : List String) : Detector where
  name := name
  displayName := ""
  description := ""
  gate := Binary64.one
  strategy := .custom
    { kind := "Picky", languages := [], answer := fun _ _ _ => .ok none
      capability := .selectable { refused } [] }

/-- An engine with a detector that takes every payload and one that refuses a name. -/
def pickyPair : Engine := blank.run [.register (picky "easy" []), .register (picky "hard" ["bad"])]

/-- A configuration that changes the order and the threshold, that the first detector takes and
the second one refuses. -/
def halfTaken : Json :=
  .obj [("detection_order", .arr [.str "hard"]), ("confidence_threshold", .num 20),
    ("detector_configs", .obj [("easy", .obj [("good", .null)]), ("hard", .obj [("bad", .null)])])]

theorem reachable_pickyPair : Reachable Action.WellFormed pickyPair := by
  have part (name : String) (refused : List String) : (picky name refused).WellFormed :=
    ⟨isGate_one, fun c same => by cases same⟩
  refine (Reachable.create create_default).run fun action mem => ?_
  simp only [List.mem_cons, List.not_mem_nil, or_false] at mem
  rcases mem with rfl | rfl
  · exact part _ _
  · exact part _ _

theorem refused_write_keeps_snapshot_half_taken :
    ∃ faults changed fault other,
      pickyPair.configure halfTaken = (.error faults, changed) ∧
        pickyPair.configureDetector "hard" (.obj [("bad", .null)]) = (.error fault, other) ∧
        changed.snapshot = pickyPair.snapshot ∧ other.snapshot = pickyPair.snapshot := by
  have kept := refused_write_keeps_snapshot reachable_pickyPair
  have refused : (pickyPair.configure halfTaken).1.isOk = false := by decide +kernel
  have refusedPart :
      (pickyPair.configureDetector "hard" (.obj [("bad", .null)])).1.isOk = false := by
    decide +kernel
  rcases whole : pickyPair.configure halfTaken with ⟨answer, changed⟩
  rcases single : pickyPair.configureDetector "hard" (.obj [("bad", .null)]) with ⟨reply, other⟩
  rw [whole] at refused
  rw [single] at refusedPart
  cases answer with
  | ok _ => cases refused
  | error faults =>
    cases reply with
    | ok _ => cases refusedPart
    | error fault =>
      exact ⟨faults, changed, fault, other, rfl, rfl, kept.1 _ _ _ whole, kept.2 _ _ _ _ single⟩

end Engine

end SnippetDetect
