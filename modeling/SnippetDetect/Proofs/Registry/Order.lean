import Mathlib.Data.List.Basic
import SnippetDetect.Proofs.Registry

/-!
The order of detection over the life of a registry.

A registry starts empty and is changed by one write after the other (`Registry.run`). Its order
stays one of registered names without repetitions, so that every place in it stands for one
detector (`run_orderly`, `Orderly.map_name_inOrder`). A write that concerns one name leaves the others
as they are among themselves (`filter_order_after`): each stays enabled or out of the order, and
of two the same one comes first.
-/

namespace SnippetDetect.Registry

/-! ### Writes -/

/-- What can be done to a registry. -/
inductive Write where
  | register (d : Detector)
  | unregister (name : String)
  | setOrder (names : List String)
  | enable (name : String)
  | disable (name : String)
  | setEnabled (name : String) (enabled : Bool)

/-- The one name that a write concerns; an order that is set concerns all names. -/
def Write.target? : Write → Option String
  | .register d => some d.name
  | .unregister name | .enable name | .disable name | .setEnabled name _ => some name
  | .setOrder _ => none

/-- The registry after a write. -/
def after (r : Registry) : Write → Registry
  | .register d => r.register d
  | .unregister name => (r.unregister name).2
  | .setOrder names => r.setOrder names
  | .enable name => r.enable name
  | .disable name => r.disable name
  | .setEnabled name enabled => r.setEnabled name enabled

/-- A new registry after some writes. -/
def run (writes : List Write) : Registry := writes.foldl after {}

/-- The first name has a place in the order, and the second one a place behind it. -/
def Precedes (r : Registry) (first second : String) : Prop := [first, second].Sublist r.order

/-! ### What every write keeps -/

theorem Orderly.after {r : Registry} (orderly : r.Orderly) (w : Write) : (r.after w).Orderly := by
  cases w with
  | register d => exact orderly.register d
  | unregister name => exact orderly.unregister name
  | setOrder names => exact orderly.setOrder names
  | enable name => exact orderly.enable name
  | disable name => exact orderly.disable name
  | setEnabled name enabled => exact orderly.setEnabled name enabled

theorem Orderly.foldl_after {r : Registry} (orderly : r.Orderly) (writes : List Write) :
    (writes.foldl Registry.after r).Orderly := by
  induction writes generalizing r with
  | nil => exact orderly
  | cons w rest ih => exact ih (orderly.after w)

theorem run_orderly (writes : List Write) : (run writes).Orderly :=
  orderly_empty.foldl_after writes

/-- Every place in the order stands for the detector that is registered under the name there. -/
theorem Orderly.map_some_inOrder {r : Registry} (orderly : r.Orderly) :
    r.inOrder.map some = r.order.map r.get? := by
  have there : ∀ name ∈ r.order, (r.get? name).map some = some (r.get? name) := by
    intro name mem
    obtain ⟨d, found⟩ := Option.isSome_iff_exists.mp (orderly.known name mem)
    rw [found, Option.map_some]
  calc r.inOrder.map some
      = r.order.filterMap fun name => (r.get? name).map some := List.map_filterMap
    _ = r.order.filterMap fun name => some (r.get? name) := List.filterMap_congr there
    _ = r.order.map r.get? := by rw [← List.filterMap_eq_map]; rfl

/-- The detectors in the order of detection carry the names of the order. -/
theorem Orderly.map_name_inOrder {r : Registry} (orderly : r.Orderly) :
    r.inOrder.map Detector.name = r.order := by
  have named : ∀ name ∈ r.order, (r.get? name).map Detector.name = some name := by
    intro name mem
    obtain ⟨d, found⟩ := Option.isSome_iff_exists.mp (orderly.known name mem)
    rw [found, Option.map_some, orderly.name_of_get? found]
  calc r.inOrder.map Detector.name
      = r.order.filterMap fun name => (r.get? name).map Detector.name := List.map_filterMap
    _ = r.order.filterMap some := List.filterMap_congr named
    _ = r.order := List.filterMap_some

/-! ### What a write leaves alone -/

/-- To put a name last changes nothing among the others. -/
theorem filter_append_self (order : List String) (name : String) :
    (order ++ [name]).filter (· ≠ name) = order.filter (· ≠ name) := by
  simp

theorem filter_order_enable (r : Registry) (name : String) :
    (r.enable name).order.filter (· ≠ name) = r.order.filter (· ≠ name) := by
  unfold enable
  split
  · exact filter_append_self r.order name
  · rfl

theorem filter_order_disable (r : Registry) (name : String) :
    (r.disable name).order.filter (· ≠ name) = r.order.filter (· ≠ name) := by
  show (r.order.filter (· ≠ name)).filter (· ≠ name) = _
  rw [List.filter_filter]
  simp only [Bool.and_self]

/-- A write that concerns one name leaves the order of the others as it is. -/
theorem filter_order_after (r : Registry) {w : Write} {name : String}
    (target : w.target? = some name) :
    (r.after w).order.filter (· ≠ name) = r.order.filter (· ≠ name) := by
  cases w with
  | register d =>
    cases target
    show (if _ then r.order else r.order ++ [d.name]).filter _ = _
    split
    · rfl
    · exact filter_append_self r.order d.name
  | unregister other =>
    cases target
    exact filter_order_disable r name
  | setOrder names => cases target
  | enable other =>
    cases target
    exact filter_order_enable r name
  | disable other =>
    cases target
    exact filter_order_disable r name
  | setEnabled other enabled =>
    cases target
    cases enabled with
    | false => exact filter_order_disable r name
    | true => exact filter_order_enable r name

theorem isEnabled_eq_of_filter {r other : Registry} {name x : String} (differ : name ≠ x)
    (same : other.order.filter (· ≠ name) = r.order.filter (· ≠ name)) :
    other.isEnabled x = r.isEnabled x := by
  have kept (order : List String) : x ∈ order.filter (· ≠ name) ↔ x ∈ order := by
    simp [List.mem_filter, Ne.symm differ]
  rw [isEnabled, isEnabled, Bool.eq_iff_iff, List.contains_iff_mem, List.contains_iff_mem, ← kept,
    same, kept]

theorem precedes_iff_of_filter {r other : Registry} {name x y : String} (first : name ≠ x)
    (second : name ≠ y) (same : other.order.filter (· ≠ name) = r.order.filter (· ≠ name)) :
    other.Precedes x y ↔ r.Precedes x y := by
  have kept (order : List String) :
      [x, y].Sublist (order.filter (· ≠ name)) ↔ [x, y].Sublist order := by
    constructor
    · intro sub
      exact sub.trans List.filter_sublist
    · intro sub
      have both : [x, y].filter (· ≠ name) = [x, y] := by
        simp [Ne.symm first, Ne.symm second]
      rw [← both]
      exact sub.filter _
  rw [Precedes, Precedes, ← kept, same, kept]

/-- What holds of the order after any writes to a new registry. It names registered detectors, each
once, and every place in it stands for the detector of that name. A write that concerns another
name changes neither whether two names are enabled nor which of them comes first, and to replace a
detector does not change the order. -/
theorem order_of_run (writes : List Write) :
    (run writes).order.Nodup ∧
      (∀ name ∈ (run writes).order, (run writes).isRegistered name = true) ∧
      (run writes).inOrder.map some = (run writes).order.map (run writes).get? ∧
      (run writes).inOrder.map Detector.name = (run writes).order ∧
      (∀ w name x y, w.target? = some name → name ≠ x → name ≠ y →
        ((run writes).after w).isEnabled x = (run writes).isEnabled x ∧
          ((run writes).after w).isEnabled y = (run writes).isEnabled y ∧
          (((run writes).after w).Precedes x y ↔ (run writes).Precedes x y)) ∧
      ∀ d, (run writes).isRegistered d.name = true →
        ((run writes).after (.register d)).order = (run writes).order := by
  have orderly := run_orderly writes
  refine ⟨orderly.ordered, orderly.known, orderly.map_some_inOrder, orderly.map_name_inOrder, ?_, ?_⟩
  · intro w name x y target first second
    have same := filter_order_after (run writes) target
    exact ⟨isEnabled_eq_of_filter first same, isEnabled_eq_of_filter second same,
      precedes_iff_of_filter first second same⟩
  · intro d registered
    show ((run writes).register d).order = _
    rw [register_of_registered registered]
    rfl

end SnippetDetect.Registry
