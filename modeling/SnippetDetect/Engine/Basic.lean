import SnippetDetect.Cache
import SnippetDetect.Registry
import SnippetDetect.Text.Casing

/-!
The engine: registered detectors, the global threshold, the allow-list and the cache.

The allow-list has a single owner, the engine, which hands it on to every detector that
has one. The cache holds detections made under one configuration, so whatever changes the
configuration or the detectors clears it.
-/

namespace SnippetDetect

open SnippetDetect.Text

structure Engine where
  registry : Registry := {}
  /-- From 0 to 100. -/
  threshold : Number
  /-- The languages allowed, in lower case and without blank ends. -/
  allowed : List String
  cache : Option Cache
  clock : Binary64

namespace Engine

/-- A threshold brought to 0 … 100. -/
def clampThreshold (value : Number) : Number := value.clamp 0 100

/-- A list of languages as it is kept. -/
def normalLanguages (languages : List String) : List String :=
  languages.map fun language => strip (lower language)

/-- How an engine is made. -/
structure Options where
  threshold : Number := 70
  allowed : List String := []
  useCache : Bool := true
  cacheSize : Int := 1000
  cacheAge : Int := 3600

/-- A new engine without detectors. -/
def create (o : Options) (clock : Binary64) : Except Fault Engine := do
  let cache ←
    if o.useCache then
      match Cache.create? o.cacheSize o.cacheAge with
      | some cache => pure (some cache)
      | none => throw .cacheSizeTooSmall
    else pure none
  return {
    threshold := clampThreshold o.threshold
    allowed := normalLanguages o.allowed
    cache, clock }

def clearCache (e : Engine) : Engine := { e with cache := e.cache.map Cache.clear }

/-- Let time pass. -/
def advance (e : Engine) (seconds : Number) : Except Overflow Engine := do
  return { e with clock := e.clock.add (← seconds.toBinary64) }

/-! ### Settings of the engine itself -/

def setThreshold (e : Engine) (value : Number) : Engine :=
  { e with threshold := clampThreshold value }

/-- Set the allow-list and hand it on. -/
def setAllowed (e : Engine) (languages : List String) : Engine :=
  let allowed := normalLanguages languages
  { e with allowed, registry := e.registry.mapDetectors (·.setAllowed allowed) }

/-- Set the global threshold and make it the gate of every detector. -/
def pushThreshold (e : Engine) (value : Number) : Engine :=
  let threshold := clampThreshold value
  match gateOfThreshold threshold with
  | .ok gate =>
      { e with threshold, registry := e.registry.mapDetectors fun d => { d with gate } }
  | .error _ => { e with threshold }

/-- Give one detector its own threshold, if it is registered. -/
def overrideThreshold (e : Engine) (name : String) (value : Number) : Engine :=
  match e.registry.get? name with
  | none => e
  | some d =>
      match d.setThreshold (clampThreshold value) with
      | .ok d => { e with registry := e.registry.put d }
      | .error _ => e

/-! ### Detectors -/

/-- Register a detector and hand it the allow-list. Under a new name it also gets the global
threshold as its own; a replacement keeps its gate. -/
def register (e : Engine) (d : Detector) : Engine :=
  let isNew := !e.registry.isRegistered d.name
  let e := { e with registry := e.registry.register (d.setAllowed e.allowed) }
  let e := if isNew then e.overrideThreshold d.name e.threshold else e
  e.clearCache

/-- Forget a detector, and tell whether there was one. -/
def unregister (e : Engine) (name : String) : Bool × Engine :=
  let (removed, registry) := e.registry.unregister name
  let e := { e with registry }
  (removed, if removed then e.clearCache else e)

def detectors (e : Engine) : List DetectorInfo := e.registry.all.map (·.info)

def languages (e : Engine) : List String := e.registry.languages

/-- Figures about the detectors and the settings. -/
def metrics (e : Engine) : Json :=
  .obj [("available_detectors", .ofNat e.registry.size),
    ("enabled_detectors", .ofNat e.registry.order.length),
    ("confidence_threshold", .num e.threshold), ("enabled_languages", .ofNat e.allowed.length),
    ("total_available_languages", .ofNat e.languages.length)]

/-- Whether some detector can run and the threshold is in range. -/
def canDetect (e : Engine) : Bool := e.registry.isValid && e.threshold.within 0 100

end Engine

end SnippetDetect
