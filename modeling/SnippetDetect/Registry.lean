import SnippetDetect.Detector.Basic

/-!
The registered detectors and the order of detection.

Detectors are kept in the order in which their names were first registered. The order of
detection lists the enabled ones: it names registered detectors only, each at most once,
and its places say which one is tried first.
-/

namespace SnippetDetect

structure Registry where
  detectors : List (String × Detector) := []
  order : List String := []

namespace Registry

def names (r : Registry) : List String := r.detectors.map (·.1)

def all (r : Registry) : List Detector := r.detectors.map (·.2)

def size (r : Registry) : Nat := r.detectors.length

def get? (r : Registry) (name : String) : Option Detector := valueOf? r.detectors name

def isRegistered (r : Registry) (name : String) : Bool := (r.get? name).isSome

def isEnabled (r : Registry) (name : String) : Bool := r.order.contains name

/-- The enabled detectors in the order of detection. -/
def inOrder (r : Registry) : List Detector := r.order.filterMap r.get?

/-- The registry with another state of a detector. -/
def put (r : Registry) (d : Detector) : Registry :=
  { r with detectors := setEntry d.name d r.detectors }

/-- Register a detector. A new name comes last in the order of detection; a name that is
registered keeps its place, or keeps out of the order. -/
def register (r : Registry) (d : Detector) : Registry :=
  { r.put d with
    order := if r.isRegistered d.name || r.isEnabled d.name then r.order else r.order ++ [d.name] }

/-- Forget a detector, and tell whether there was one. -/
def unregister (r : Registry) (name : String) : Bool × Registry :=
  (r.isRegistered name,
    { detectors := eraseEntry name r.detectors, order := r.order.filter (· ≠ name) })

/-- Detect in this order; names that are not registered or were named before do not count. -/
def setOrder (r : Registry) (names : List String) : Registry :=
  { r with
    order := names.foldl (fun order name =>
      if r.isRegistered name && !order.contains name then order ++ [name] else order) [] }

/-- Try a registered detector last, unless it has a place already. -/
def enable (r : Registry) (name : String) : Registry :=
  if r.isRegistered name && !r.isEnabled name then { r with order := r.order ++ [name] } else r

def disable (r : Registry) (name : String) : Registry :=
  { r with order := r.order.filter (· ≠ name) }

def setEnabled (r : Registry) (name : String) (enabled : Bool) : Registry :=
  if enabled then r.enable name else r.disable name

/-- The languages that some detector may answer with, in the order of their characters. -/
def languages (r : Registry) : List String :=
  sortedSet (r.all.flatMap (·.languages))

/-- Change every detector; a change leaves the name as it is. -/
def mapDetectors (r : Registry) (f : Detector → Detector) : Registry :=
  { r with detectors := r.detectors.map fun (name, d) => (name, f d) }

/-- Give every detector this gate. -/
def setGates (r : Registry) (value : Number) : Except Overflow Registry :=
  if r.detectors.isEmpty then .ok r
  else (gateOf value).map fun gate => r.mapDetectors fun d => { d with gate }

/-- Whether some detector is registered and some detector is enabled. -/
def isValid (r : Registry) : Bool := !r.detectors.isEmpty && !r.order.isEmpty

def info (r : Registry) : Json :=
  .obj [("total_detectors", .ofNat r.size), ("enabled_detectors", .ofNat r.order.length),
    ("detector_names", .ofStrings r.names), ("detection_order", .ofStrings r.order),
    ("detector_info", .arr (r.all.map fun d => d.info.toJson))]

end Registry

end SnippetDetect
