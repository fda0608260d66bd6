import SnippetDetect.Engine.Basic

/-!
Reading and writing the configuration of an engine.

A configuration is written all or not at all. Its shape is checked first, with every fault
told. Then its parts take effect in a fixed order: the order of detection, the threshold,
the allow-list, the payloads of detectors and at last their own thresholds. When a
detector refuses its payload, all that was changed is put back.
-/

namespace SnippetDetect

/-- A configuration of the right shape; what it does not have stays as it is. -/
structure Changes where
  order : Option (List String) := none
  threshold : Option Number := none
  allowed : Option (List String) := none
  payloads : List (String × Members) := []
  thresholds : List (String × Number) := []

namespace Changes

/-- What a configuration has under a name, and the faults in it. -/
def field {α : Type} (members : Members) (name : String) (read : Json → Option α)
    (fault : ChangeFault) : Option α × List ChangeFault :=
  match valueOf? members name with
  | none => (none, [])
  | some value =>
      match read value with
      | some part => (some part, [])
      | none => (none, [fault])

/-- What a configuration has for single detectors under a name, and the faults in it. -/
def perDetector {α : Type} (members : Members) (name : String) (read : Json → Option α)
    (fault : ChangeFault) (faultOf : String → ChangeFault) :
    List (String × α) × List ChangeFault :=
  match valueOf? members name with
  | none => ([], [])
  | some (.obj entries) =>
      (entries.filterMap fun (detector, value) => (read value).map (detector, ·),
        (entries.filter fun (_, value) => (read value).isNone).map fun (detector, _) =>
          faultOf detector)
  | some _ => ([], [fault])

def members? : Json → Option Members
  | .obj members => some members
  | _ => none

/-- Check the shape of a configuration. -/
def ofJson : Json → Except (List ChangeFault) Changes
  | .obj members =>
      let (order, f) := field members "detection_order" Json.stringList? .detectionOrder
      let (threshold, g) := field members "confidence_threshold" Json.number? .confidenceThreshold
      let (allowed, h) :=
        field members "enabled_pattern_languages" Json.stringList? .allowedLanguages
      let (payloads, i) :=
        perDetector members "detector_configs" members? .detectorConfigs .detectorConfig
      let (thresholds, j) :=
        perDetector members "detector_thresholds" Json.number? .detectorThresholds
          .detectorThreshold
      match f ++ g ++ h ++ i ++ j with
      | [] => .ok { order, threshold, allowed, payloads, thresholds }
      | faults => .error faults
  | _ => .error [.notAnObject]

end Changes

namespace Engine

/-! ### Reading -/

/-- The configuration of an engine, with what is told of its detectors. -/
def configuration (e : Engine) : Json :=
  let detectors := e.registry.all
  .obj [("detection_order", .ofStrings e.registry.order),
    ("confidence_threshold", .num e.threshold),
    ("enabled_pattern_languages", .ofStrings e.allowed),
    ("detector_thresholds", .obj (detectors.map fun d => (d.name, .ofNat d.threshold))),
    ("detector_configs", .obj (detectors.filterMap fun d =>
      d.configuration?.map fun c => (d.name, .obj c))),
    ("registered_detectors", .ofStrings e.registry.names),
    ("registry_info", e.registry.info),
    ("performance_metrics", e.metrics)]

/-! ### Payloads -/

/-- Route the allow-list of a payload to its owner, if the detector has an allow-list. What is left
of the payload is for the detector itself. -/
def routeAllowed (e : Engine) (d : Detector) (payload : Members) : Members × Engine :=
  match d.isSelectable, valueOf? payload "enabled_languages" with
  | true, some value =>
      (eraseEntry "enabled_languages" payload,
        match value.stringList? with
        | some languages => e.setAllowed languages
        | none => e)
  | _, _ => (payload, e)

/-- Give a detector its payload; a name that is not of a configurable detector does not count. -/
def applyPayload (e : Engine) (name : String) (payload : Members) :
    Option ChangeFault × Engine :=
  match e.registry.get? name with
  | none => (none, e)
  | some d =>
      if d.isConfigurable then
        let (payload, e) := e.routeAllowed d payload
        let (outcome, d) := ((e.registry.get? name).getD d).configure payload
        let e := { e with registry := e.registry.put d }
        match outcome with
        | .ok () => (none, e)
        | .error fault => (some (.refused name fault.message), e)
      else (none, e)

/-- Give detectors their payloads in turn, and collect the refusals. -/
def applyPayloads (e : Engine) : List (String × Members) → List ChangeFault × Engine
  | [] => ([], e)
  | (name, payload) :: rest =>
      let (fault, e) := e.applyPayload name payload
      let (faults, e) := e.applyPayloads rest
      (fault.toList ++ faults, e)

/-! ### Putting back -/

/-- Give a detector the configuration it had, as far as it takes it. -/
def restorePayload (e : Engine) (name : String) (payload : Members) : Engine :=
  match e.registry.get? name with
  | none => e
  | some d => { e with registry := e.registry.put (d.configure payload).2 }

/-- Give a detector the gate it had. -/
def restoreGate (e : Engine) (name : String) (gate : Binary64) : Engine :=
  match e.registry.get? name with
  | none => e
  | some d =>
      match d.setGate (.float gate) with
      | .ok d => { e with registry := e.registry.put d }
      | .error _ => e

/-- Put an engine back to the configuration it had `before`. -/
def restore (e before : Engine) : Engine :=
  let detectors := before.registry.all
  let e := detectors.foldl (fun e d =>
    match d.configuration? with
    | some payload => e.restorePayload d.name payload
    | none => e) e
  let e := { e with registry := e.registry.setOrder before.registry.order }
  let e := (e.setThreshold before.threshold).setAllowed before.allowed
  detectors.foldl (fun e d => e.restoreGate d.name d.gate) e

/-! ### Writing -/

def setOrder (e : Engine) (names : List String) : Engine :=
  { e with registry := e.registry.setOrder names }

/-- Write a configuration of the right shape. -/
def write (e : Engine) (c : Changes) : Except (List ChangeFault) Unit × Engine :=
  let before := e
  let e := c.order.elim e e.setOrder
  let e := c.threshold.elim e e.pushThreshold
  let e := c.allowed.elim e e.setAllowed
  match e.applyPayloads c.payloads with
  | ([], e) =>
      let e := c.thresholds.foldl (fun e (name, value) => e.overrideThreshold name value) e
      (.ok (), e.clearCache)
  | (faults, e) => (.error faults, e.restore before)

/-- Write a configuration. -/
def configure (e : Engine) (config : Json) : Except (List ChangeFault) Unit × Engine :=
  match Changes.ofJson config with
  | .ok changes => e.write changes
  | .error faults => (.error faults, e)

/-! ### Single settings -/

/-- Set the global threshold and the gate of every detector. -/
def changeThreshold (e : Engine) (value : Number) : Engine := (e.pushThreshold value).clearCache

/-- Set the threshold of one detector, and tell whether it is registered. -/
def changeDetectorThreshold (e : Engine) (name : String) (value : Number) : Bool × Engine :=
  if e.registry.isRegistered name then (true, (e.overrideThreshold name value).clearCache)
  else (false, e)

def changeOrder (e : Engine) (names : List String) : Engine := (e.setOrder names).clearCache

def changeEnabled (e : Engine) (name : String) (enabled : Bool) : Engine :=
  { e with registry := e.registry.setEnabled name enabled }.clearCache

def changeAllowed (e : Engine) (languages : List String) : Engine :=
  (e.setAllowed languages).clearCache

/-- The name of an item that should be a pair. -/
def pairName : Json → Except MembersFault String
  | .str s => .ok s
  | .null => .ok "null"
  | .bool b => .ok (if b then "true" else "false")
  | .num n => .ok (n.text ⟨"NaN", "Infinity"⟩)
  | value => .error (.compoundName value.kindName)

/-- The two parts of the item at an index. -/
def pairOf (index : Nat) : Json → Except MembersFault (Json × Json)
  | .arr [name, value] => .ok (name, value)
  | .arr items => .error (.itemLength index items.length)
  | .str s =>
      match s.toList with
      | [a, b] => .ok (.str (String.ofList [a]), .str (String.ofList [b]))
      | cs => .error (.itemLength index cs.length)
  | .obj [(a, _), (b, _)] => .ok (.str a, .str b)
  | .obj members => .error (.itemLength index members.length)
  | _ => .error (.itemWithoutParts index)

/-- Members written as a row of pairs. -/
def membersFrom (read : Members) : (index : Nat) → List Json → Except MembersFault Members
  | _, [] => .ok read
  | index, item :: rest => do
      let (name, value) ← pairOf index item
      membersFrom (setEntry (← pairName name) value read) (index + 1) rest

/-- The members that a value stands for: those of an object, or pairs in a row. -/
def membersOf : Json → Except MembersFault Members
  | .obj members => .ok members
  | .arr items => membersFrom [] 0 items
  | .str s => membersFrom [] 0 (s.toList.map fun c => .str (String.ofList [c]))
  | value => .error (.noItems value.kindName)

/-- Give one detector a payload, and tell whether it is one that takes payloads. -/
def configureDetector (e : Engine) (name : String) (payload : Json) :
    Except Fault Bool × Engine :=
  match e.registry.get? name with
  | none => (.ok false, e)
  | some d =>
      if d.isConfigurable then
        match membersOf payload with
        | .error fault => (.error (.members fault), e)
        | .ok members =>
            match e.applyPayload name members with
            | (none, changed) => (.ok true, changed.clearCache)
            | (some fault, changed) => (.error (.configuration [fault]), changed.restore e)
      else (.ok false, e)

/-! ### Defaults -/

def defaultOrder : List String := ["ml-model", "pygments", "pattern-matching"]

def defaultThreshold : Number := 70

def defaultAllowed : List String := ["javascript", "typescript", "python", "java", "cpp", "bash"]

/-- Go back to the defaults, with every detector enabled. -/
def reset (e : Engine) : Engine :=
  let e := ((e.setOrder defaultOrder).pushThreshold defaultThreshold).setAllowed defaultAllowed
  { e with registry := e.registry.names.foldl Registry.enable e.registry }.clearCache

end Engine

end SnippetDetect
