import SnippetDetect.Engine.Basic

/-!
The protocols of detection.

* `detect` tries the enabled detectors in order and takes the first answer that reaches the
  global threshold and whose language its detector accepts. Accepted answers are cached.
* `detectAll` asks every registered detector and ranks the answers.
* `analyze` does both and sets the answers against an acceptance threshold.
* `detectWith` asks one detector.

A detector that fails has no answer. Blank snippets are never handed to a detector. The cache
knows a snippet by its encoding, so `detect` fails where it needs one and there is none.
-/

namespace SnippetDetect

open SnippetDetect.Text

namespace Registry

/-- Ask one detector, and keep its state. -/
def ask (r : Registry) (d : Detector) (code : Snippet) : Option Detection × Registry :=
  let (outcome, d) := d.detect code
  (match outcome with
    | .ok answer => answer
    | .error _ => none, r.put d)

/-- The first answer, in this order, that reaches the threshold and is accepted. -/
def firstAccepted (threshold : Number) (code : Snippet) : List String → Registry →
    Option Detection × Registry
  | [], r => (none, r)
  | name :: rest, r =>
      match r.get? name with
      | none => firstAccepted threshold code rest r
      | some d =>
          match r.ask d code with
          | (some answer, r) =>
              if !answer.confidence.lt threshold && d.accepts answer.language then (some answer, r)
              else firstAccepted threshold code rest r
          | (none, r) => firstAccepted threshold code rest r

/-- The answers of detectors in turn. -/
def askEach (code : Snippet) : List Detector → Registry → List Detection × Registry
  | [], r => ([], r)
  | d :: rest, r =>
      let (answer, r) := r.ask d code
      let (answers, r) := askEach code rest r
      (answer.toList ++ answers, r)

end Registry

/-- The figures of an analysis. -/
structure AnalysisSummary where
  detectors : Nat
  successful : Nat
  average : Number
  consensus : Option String
  deriving DecidableEq, Repr

/-- A primary answer, the other accepted ones and those below the threshold. -/
structure Analysis where
  primary : Option Detection
  alternatives : List Detection
  fallbacks : List Detection
  summary : AnalysisSummary
  deriving DecidableEq, Repr

namespace Analysis

def toJson (a : Analysis) : Json :=
  .obj [("primary", a.primary.elim .null Detection.toJson),
    ("alternatives", .arr (a.alternatives.map Detection.toJson)),
    ("fallbacks", .arr (a.fallbacks.map Detection.toJson)),
    ("analysis", .obj [("total_detectors", .ofNat a.summary.detectors),
      ("successful_detectors", .ofNat a.summary.successful),
      ("average_confidence", .num a.summary.average),
      ("consensus_language", a.summary.consensus.elim .null .str)])]

/-- The sum of confidences. -/
def total (ds : List Detection) : Except Overflow Number :=
  ds.foldlM (fun sum d => sum.add d.confidence) 0

/-- The mean confidence to two places. -/
def averageOf (ds : List Detection) : Number :=
  if ds.isEmpty then .float Binary64.zero
  else match total ds with
    | .ok (.int n) => .float ((Binary64.ofRatio (n < 0) n.natAbs ds.length).roundPlaces 2)
    | .ok (.float x) => .float ((x.divNat ds.length).roundPlaces 2)
    | .error _ => .float .nan

/-- Whether two detections agree in every part. -/
def same (a b : Detection) : Bool :=
  a.language = b.language && a.confidence.same b.confidence && a.source = b.source

/-- Sort ranked answers by an acceptance threshold, the primary answer apart. -/
def ofAnswers (detectors : Nat) (threshold : Number) (primary : Option Detection)
    (answers : List Detection) : Analysis :=
  let accepted := answers.filter fun d => threshold.le d.confidence
  { primary
    alternatives := primary.elim accepted fun p => accepted.eraseP (same p)
    fallbacks := answers.filter fun d => d.confidence.lt threshold
    summary := ⟨detectors, accepted.length, averageOf accepted, Detection.consensus accepted⟩ }

/-- An analysis with the lists that are not asked for left empty. -/
def restrict (a : Analysis) (alternatives fallbacks : Bool) : Analysis :=
  { a with
    alternatives := if alternatives then a.alternatives else []
    fallbacks := if fallbacks then a.fallbacks else [] }

end Analysis

namespace Engine

/-- Detect by the enabled detectors in order, past the cache. -/
def detectFresh (e : Engine) (code : Snippet) : Option Detection × Engine :=
  if code.isBlank then (none, e)
  else
    let (answer, registry) :=
      Registry.firstAccepted e.threshold code e.registry.order e.registry
    (answer, { e with registry })

/-- The key of a snippet, if the cache is used. Only a text has one. -/
def key? (e : Engine) (code : Snippet) (useCache : Bool) : Except Fault (Option String) :=
  if useCache && e.cache.isSome then
    match code.encode with
    | .ok key => .ok (some key)
    | .error error => .error (.unencodable error)
  else .ok none

/-- What the cache holds under a key. -/
def lookUp (e : Engine) (key : String) : Option Detection × Engine :=
  match e.cache with
  | none => (none, e)
  | some cache =>
      let (found, cache) := cache.get e.clock key
      (found, { e with cache := some cache })

/-- Keep an accepted answer. -/
def store (e : Engine) (key : String) (answer : Option Detection) : Engine :=
  match answer with
  | none => e
  | some d => { e with cache := e.cache.map (·.put e.clock key d) }

/-- Detect by the cache under a key, or past the cache without one. -/
def detectUnder (e : Engine) (code : Snippet) : Option String → Option Detection × Engine
  | none => e.detectFresh code
  | some key =>
      match e.lookUp key with
      | (some found, e) => (some found, e)
      | (none, e) =>
          let (answer, e) := e.detectFresh code
          (answer, e.store key answer)

/-- Detect the language of a snippet, by the cache if it may be used. A snippet that lacks a key it
needs is refused. -/
def detect (e : Engine) (code : Snippet) (useCache : Bool) :
    Except Fault (Option Detection) × Engine :=
  match e.key? code useCache with
  | .error fault => (.error fault, e)
  | .ok key =>
      let (answer, e) := e.detectUnder code key
      (.ok answer, e)

/-- The answers of all registered detectors, enabled or not, the surest first. -/
def detectAll (e : Engine) (code : Snippet) : List Detection × Engine :=
  if code.isBlank then ([], e)
  else
    let (answers, registry) := Registry.askEach code e.registry.all e.registry
    (Detection.rank answers, { e with registry })

/-- The answer of one detector, whatever the threshold. -/
def detectWith (e : Engine) (code : Snippet) (name : String) : Option Detection × Engine :=
  match e.registry.get? name with
  | none => (none, e)
  | some d =>
      if code.isBlank then (none, e)
      else
        let (answer, registry) := e.registry.ask d code
        (answer, { e with registry })

/-- Analyse a snippet under an acceptance threshold, which is the global one unless given. -/
def analyze (e : Engine) (code : Snippet) (threshold : Option Number)
    (alternatives fallbacks : Bool) : Analysis × Engine :=
  let (primary, e) := e.detectFresh code
  let (answers, e) := e.detectAll code
  let analysis :=
    Analysis.ofAnswers e.registry.size (threshold.getD e.threshold) primary answers
  (analysis.restrict alternatives fallbacks, e)

end Engine

end SnippetDetect
