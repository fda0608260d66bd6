import SnippetDetect.Proofs.Engine.Relevance

/-!
What an accepted configuration does.

A configuration is read part by part (`Changes.ofJson_eq`). When it is accepted, the order, the
threshold, the allow-list and every gate are each the last of the values that the configuration
has for them, in the order in which its parts take effect, or stay as they are (`BulkWrite`).
What does not concern the engine could as well be absent (`accepted_write_effect`).
-/

namespace SnippetDetect

/-! ### The parts of a configuration -/

namespace Changes

def orderIn (members : Members) : Option (List String) :=
  (valueOf? members "detection_order").bind Json.stringList?

def thresholdIn (members : Members) : Option Number :=
  (valueOf? members "confidence_threshold").bind Json.number?

def allowedIn (members : Members) : Option (List String) :=
  (valueOf? members "enabled_pattern_languages").bind Json.stringList?

/-- The entries that a configuration has for single detectors under a name. -/
def entriesIn (members : Members) (name : String) : Members :=
  match valueOf? members name with
  | some (.obj entries) => entries
  | _ => []

def payloadsIn (members : Members) : List (String × Members) :=
  (entriesIn members "detector_configs").filterMap fun (detector, value) =>
    (members? value).map (detector, ·)

def thresholdsIn (members : Members) : List (String × Number) :=
  (entriesIn members "detector_thresholds").filterMap fun (detector, value) =>
    value.number?.map (detector, ·)

theorem field_fst {α : Type} (members : Members) (name : String) (read : Json → Option α)
    (fault : ChangeFault) :
    (field members name read fault).1 = (valueOf? members name).bind read := by
  unfold field
  cases valueOf? members name with
  | none => rfl
  | some value =>
    dsimp only [Option.bind_some]
    cases read value <;> rfl

theorem perDetector_fst {α : Type} (members : Members) (name : String) (read : Json → Option α)
    (fault : ChangeFault) (faultOf : String → ChangeFault) :
    (perDetector members name read fault faultOf).1 =
      (entriesIn members name).filterMap fun (detector, value) =>
        (read value).map (detector, ·) := by
  unfold perDetector entriesIn
  split
  · next absent => simp [absent]
  · next entries found => simp [found]
  · next value other found =>
    split
    · next entries same =>
      rw [found] at same
      cases same
      exact absurd rfl (other entries)
    · rfl

/-- A configuration of the right shape is read part by part. -/
theorem ofJson_eq {members : Members} {c : Changes} (shape : ofJson (.obj members) = .ok c) :
    c = ⟨orderIn members, thresholdIn members, allowedIn members, payloadsIn members,
      thresholdsIn members⟩ := by
  simp only [ofJson] at shape
  split at shape
  · cases shape
    simp only [field_fst, perDetector_fst]
    rfl
  · cases shape

end Changes

namespace Engine

/-! ### The last of several values -/

/-- The last of the values, or the one there was. -/
def lastOf {α : Type} (before : α) (values : List α) : α := values.getLast?.getD before

theorem lastOf_append {α : Type} (before : α) (xs ys : List α) :
    lastOf before (xs ++ ys) = lastOf (lastOf before xs) ys := by
  unfold lastOf
  rw [List.getLast?_append]
  cases ys.getLast? <;> rfl

theorem lastOf_toList {α : Type} (before : α) (value : Option α) :
    lastOf before value.toList = value.getD before := by
  cases value <;> rfl

/-- One more entry in front: its value stands where the later ones have none. -/
theorem lastOf_filterMap_cons {α β : Type} (before : β) (value? : α → Option β) (x : α)
    (rest : List α) :
    lastOf before ((x :: rest).filterMap value?) =
      lastOf ((value? x).getD before) (rest.filterMap value?) := by
  have split : (x :: rest).filterMap value? = (value? x).toList ++ rest.filterMap value? := by
    cases found : value? x <;> simp [found]
  rw [split, lastOf_append, lastOf_toList]

/-! ### What is written -/

/-- The gate that a threshold of any size stands for. -/
def thresholdGate? (value : Number) : Option Binary64 :=
  (gateOfThreshold (clampThreshold value)).toOption

theorem thresholdGate?_eq {value : Number} {gate : Binary64}
    (made : gateOfThreshold (clampThreshold value) = .ok gate) :
    thresholdGate? value = some gate := by
  rw [thresholdGate?, made]
  rfl

/-- The allow-list that an entry has for the engine, if it is for a detector with an allow-list. -/
def entryAllowed? (e : Engine) (entry : String × Members) : Option (List String) :=
  (e.registry.get? entry.1).bind fun d => routedList? d entry.2

/-- The gate that an entry has for a detector. -/
def entryGate? (d : Detector) (entry : String × Members) : Option Binary64 :=
  if entry.1 = d.name then d.payloadGate? entry.2 else none

/-- The gate that a threshold has for a detector. -/
def entryThreshold? (d : Detector) (entry : String × Number) : Option Binary64 :=
  if entry.1 = d.name then thresholdGate? entry.2 else none

/-- An engine part of the way through a write: its detectors are those from before with the
allow-list of the engine and some gates. -/
structure Dressed (before : Engine) (gate : Detector → Binary64) (e : Engine) : Prop where
  detectors : e.registry.detectors =
    mapEntries (fun d => d.dress e.allowed (gate d)) before.registry.detectors
  cache : e.cache = before.cache
  clock : e.clock = before.clock

/-- The order and the threshold are kept. -/
structure Settled (e other : Engine) : Prop where
  order : other.registry.order = e.registry.order
  threshold : other.threshold = e.threshold

theorem settled_overrideThresholds (e : Engine) (entries : List (String × Number)) :
    Settled e (entries.foldl (fun e (name, value) => e.overrideThreshold name value) e) ∧
      (entries.foldl (fun e (name, value) => e.overrideThreshold name value) e).allowed =
        e.allowed := by
  have single (e : Engine) (entry : String × Number) :
      Settled e (e.overrideThreshold entry.1 entry.2) ∧
        (e.overrideThreshold entry.1 entry.2).allowed = e.allowed := by
    unfold Engine.overrideThreshold
    split
    · exact ⟨⟨rfl, rfl⟩, rfl⟩
    · split <;> exact ⟨⟨rfl, rfl⟩, rfl⟩
  induction entries generalizing e with
  | nil => exact ⟨⟨rfl, rfl⟩, rfl⟩
  | cons entry rest ih =>
    obtain ⟨first, allowed⟩ := single e entry
    obtain ⟨later, allowedLater⟩ := ih (e.overrideThreshold entry.1 entry.2)
    exact ⟨⟨later.order.trans first.order, later.threshold.trans first.threshold⟩,
      allowedLater.trans allowed⟩

namespace Dressed

variable {before e : Engine} {gate : Detector → Binary64}

theorem refl (consistent : before.Consistent) : Dressed before Detector.gate before where
  detectors := by
    symm
    apply mapEntries_eq_self
    intro entry mem
    have found := valueOf?_of_mem consistent.registry.distinct mem
    exact Detector.dress_eq_self (consistent.handed entry.1 entry.2 found)
  cache := rfl
  clock := rfl

theorem get? (dressed : Dressed before gate e) (name : String) :
    e.registry.get? name =
      (before.registry.get? name).map fun d => d.dress e.allowed (gate d) := by
  rw [Registry.get?, dressed.detectors, valueOf?_mapEntries]
  rfl

theorem setOrder (dressed : Dressed before gate e) (names : List String) :
    Dressed before gate (e.setOrder names) :=
  ⟨dressed.detectors, dressed.cache, dressed.clock⟩

theorem pushThreshold (dressed : Dressed before gate e) (value : Number) :
    Dressed before (fun d => (thresholdGate? value).getD (gate d)) (e.pushThreshold value) := by
  obtain ⟨g, made, pushed⟩ := pushThreshold_eq e value
  rw [pushed]
  refine ⟨?_, dressed.cache, dressed.clock⟩
  show mapEntries (fun d => { d with gate := g }) e.registry.detectors = _
  rw [dressed.detectors, mapEntries_mapEntries, thresholdGate?_eq made]
  rfl

theorem setAllowed (dressed : Dressed before gate e) (languages : List String) :
    Dressed before gate (e.setAllowed languages) where
  detectors := by
    show mapEntries (·.setAllowed (normalLanguages languages)) e.registry.detectors = _
    rw [dressed.detectors, mapEntries_mapEntries]
    apply mapEntries_congr
    intro entry _
    exact Detector.setAllowed_dress entry.2 e.allowed _ _
  cache := dressed.cache
  clock := dressed.clock

/-- One detector gets another gate. -/
theorem put (dressed : Dressed before gate e) (wellFormed : before.registry.WellFormed)
    {name : String} {d : Detector} (found : before.registry.get? name = some d)
    {value : Binary64} {gate' : Detector → Binary64} (here : gate' d = value)
    (elsewhere : ∀ d', d'.name ≠ name → gate' d' = gate d') :
    Dressed before gate' { e with registry := e.registry.put (d.dress e.allowed value) } where
  detectors := by
    have same : d.name = name := wellFormed.name_of_get? found
    show setEntry (d.dress e.allowed value).name _ e.registry.detectors = _
    rw [Detector.dress_name, same, dressed.detectors, ← here]
    exact setEntry_mapEntries wellFormed.distinct found
      (g := fun d => d.dress e.allowed (gate' d)) fun entry mem differ => by
        rw [elsewhere entry.2 (by rw [wellFormed.keyed entry mem]; exact differ)]
  cache := dressed.cache
  clock := dressed.clock

/-- Gates count for the registered detectors only. -/
theorem of_agree (dressed : Dressed before gate e) {gate' : Detector → Binary64}
    (agree : ∀ name d, before.registry.get? name = some d → gate' d = gate d)
    (wellFormed : before.registry.WellFormed) : Dressed before gate' e where
  detectors := by
    rw [dressed.detectors]
    apply mapEntries_congr
    intro entry mem
    rw [agree entry.1 entry.2 (valueOf?_of_mem wellFormed.distinct mem)]
  cache := dressed.cache
  clock := dressed.clock

theorem overrideThreshold (dressed : Dressed before gate e)
    (wellFormed : before.registry.WellFormed) (entry : String × Number) :
    Dressed before (fun d => (entryThreshold? d entry).getD (gate d))
      (e.overrideThreshold entry.1 entry.2) := by
  have there := dressed.get? entry.1
  cases found : before.registry.get? entry.1 with
  | none =>
    rw [found, Option.map_none] at there
    rw [overrideThreshold_of_none there]
    apply dressed.of_agree _ wellFormed
    intro name d registered
    have differ : entry.1 ≠ d.name := by
      intro same
      rw [same, wellFormed.name_of_get? registered, registered] at found
      cases found
    simp [entryThreshold?, differ]
  | some d =>
    rw [found, Option.map_some] at there
    obtain ⟨g, made, overridden⟩ := Engine.overrideThreshold_eq there entry.2
    have same : d.name = entry.1 := wellFormed.name_of_get? found
    rw [overridden]
    apply dressed.put wellFormed found
    · simp [entryThreshold?, same, thresholdGate?_eq made]
    · intro other differ
      simp [entryThreshold?, Ne.symm differ]

theorem overrideThresholds (dressed : Dressed before gate e)
    (wellFormed : before.registry.WellFormed) (entries : List (String × Number)) :
    Dressed before (fun d => lastOf (gate d) (entries.filterMap (entryThreshold? d)))
      (entries.foldl (fun e (name, value) => e.overrideThreshold name value) e) := by
  induction entries generalizing e gate with
  | nil => exact dressed
  | cons entry rest ih =>
    simp only [lastOf_filterMap_cons]
    exact ih (dressed.overrideThreshold wellFormed entry)

/-- An entry for a name that takes no payload changes nothing and has nothing. -/
theorem applyPayload_other (dressed : Dressed before gate e)
    (wellFormed : before.registry.WellFormed) {entry : String × Members}
    (other : ∀ d, before.registry.get? entry.1 = some d → d.isConfigurable = false) :
    e.applyPayload entry.1 entry.2 = (none, e) ∧
      (∀ name d, before.registry.get? name = some d → entryGate? d entry = none) ∧
      before.entryAllowed? entry = none := by
  refine ⟨?_, ?_, ?_⟩
  · apply applyPayload_of_other
    intro d found
    rw [dressed.get?] at found
    obtain ⟨old, there, rfl⟩ := Option.map_eq_some_iff.mp found
    rw [Detector.isConfigurable_dress, other old there]
  · intro name d found
    unfold entryGate?
    split
    · next same =>
      apply Detector.payloadGate?_of_not_configurable
      exact other d (by rw [same, wellFormed.name_of_get? found, found])
    · rfl
  · -- A detector that takes no payloads has no allow-list either.
    apply Option.bind_eq_none_iff.mpr
    intro d found
    cases selectable : d.isSelectable with
    | false => simp [routedList?, selectable]
    | true => cases (other d found).symm.trans (Detector.isConfigurable_of_isSelectable selectable)

/-- To route the allow-list of a payload is to set it. -/
theorem route (dressed : Dressed before gate e) (d : Detector) (payload : Members) :
    Dressed before gate (e.routeAllowed d payload).2 ∧
      Settled e (e.routeAllowed d payload).2 ∧
      (e.routeAllowed d payload).2.allowed =
        ((routedList? d payload).map normalLanguages).getD e.allowed := by
  rw [routeAllowed_snd]
  cases routedList? d payload with
  | none => exact ⟨dressed, ⟨rfl, rfl⟩, rfl⟩
  | some languages => exact ⟨dressed.setAllowed languages, ⟨rfl, rfl⟩, rfl⟩

/-- A payload for a bundled detector reaches the allow-list and the gate of that detector. -/
theorem applyPayload (dressed : Dressed before gate e) (wellFormed : before.registry.WellFormed)
    (bundled : ∀ name d, before.registry.get? name = some d → d.IsBundled)
    (entry : String × Members) :
    Dressed before (fun d => (entryGate? d entry).getD (gate d))
        (e.applyPayload entry.1 entry.2).2 ∧
      Settled e (e.applyPayload entry.1 entry.2).2 ∧
      (e.applyPayload entry.1 entry.2).2.allowed =
        ((before.entryAllowed? entry).map normalLanguages).getD e.allowed := by
  rcases before.configurable_or_other entry.1 with ⟨d, found, configurable⟩ | other
  · have same : d.name = entry.1 := wellFormed.name_of_get? found
    have there := dressed.get? entry.1
    rw [found, Option.map_some] at there
    obtain ⟨routed, routedThere, unlisted, applied⟩ := applyPayload_of_configurable there
      ((Detector.isConfigurable_dress d e.allowed (gate d)).trans configurable) entry.2
    obtain ⟨dressedRoute, settled, allowed⟩ :=
      dressed.route (d.dress e.allowed (gate d)) entry.2
    have listed : before.entryAllowed? entry =
        routedList? (d.dress e.allowed (gate d)) entry.2 := by
      rw [entryAllowed?, found, Option.bind_some, routedList?, routedList?,
        Detector.isSelectable_dress]
    have left : d.payloadGate? (e.routeAllowed (d.dress e.allowed (gate d)) entry.2).1 =
        d.payloadGate? entry.2 := by
      apply Detector.payloadGate?_congr
      rw [valueOf?_routeAllowed, if_neg (by simp)]
    rw [dressedRoute.get?, found, Option.map_some] at routedThere
    cases routedThere
    rw [applied, Detector.configure_snd ((bundled _ d found).dress _ _) unlisted, listed]
    refine ⟨?_, ⟨settled.order, settled.threshold⟩, allowed⟩
    apply dressedRoute.put wellFormed found
    · rw [entryGate?, if_pos same.symm, Detector.payloadGate?_dress, left, Detector.dress_gate]
    · intro other differ
      simp [entryGate?, Ne.symm differ]
  · obtain ⟨kept, gates, lists⟩ := dressed.applyPayload_other wellFormed other
    rw [kept, lists]
    refine ⟨?_, ⟨rfl, rfl⟩, rfl⟩
    apply dressed.of_agree _ wellFormed
    intro name d registered
    rw [gates name d registered, Option.getD_none]

theorem applyPayloads (dressed : Dressed before gate e) (wellFormed : before.registry.WellFormed)
    (bundled : ∀ name d, before.registry.get? name = some d → d.IsBundled)
    (entries : List (String × Members)) :
    Dressed before (fun d => lastOf (gate d) (entries.filterMap (entryGate? d)))
        (e.applyPayloads entries).2 ∧
      Settled e (e.applyPayloads entries).2 ∧
      (e.applyPayloads entries).2.allowed =
        lastOf e.allowed
          (entries.filterMap fun entry => (before.entryAllowed? entry).map normalLanguages) := by
  induction entries generalizing e gate with
  | nil => exact ⟨dressed, ⟨rfl, rfl⟩, rfl⟩
  | cons entry rest ih =>
    obtain ⟨first, settled, allowed⟩ := dressed.applyPayload wellFormed bundled entry
    obtain ⟨later, settledLater, allowedLater⟩ := ih first
    rw [applyPayloads_cons]
    refine ⟨?_, ?_, ?_⟩
    · simpa only [lastOf_filterMap_cons] using later
    · exact ⟨settledLater.order.trans settled.order, settledLater.threshold.trans settled.threshold⟩
    · rw [allowedLater, allowed, lastOf_filterMap_cons]

theorem begin (consistent : before.Consistent) (c : Changes) :
    Dressed before (fun d => (c.threshold.bind thresholdGate?).getD d.gate) (before.begin c) ∧
      (before.begin c).registry.order =
        c.order.elim before.registry.order
          (fun names => (names.filter before.registry.isRegistered).eraseDups) ∧
      (before.begin c).threshold = c.threshold.elim before.threshold clampThreshold ∧
      (before.begin c).allowed = (c.allowed.map normalLanguages).getD before.allowed := by
  have ordered : Dressed before Detector.gate (c.order.elim before before.setOrder) ∧
      (c.order.elim before before.setOrder).registry.order =
        c.order.elim before.registry.order
          (fun names => (names.filter before.registry.isRegistered).eraseDups) ∧
      (c.order.elim before before.setOrder).threshold = before.threshold ∧
      (c.order.elim before before.setOrder).allowed = before.allowed := by
    cases c.order with
    | none => exact ⟨refl consistent, rfl, rfl, rfl⟩
    | some names =>
      exact ⟨(refl consistent).setOrder names, Registry.setOrder_order _ _, rfl, rfl⟩
  unfold Engine.begin
  dsimp only
  revert ordered
  generalize c.order.elim before before.setOrder = first
  rintro ⟨dressed, order, threshold, allowed⟩
  have pushed : Dressed before (fun d => (c.threshold.bind thresholdGate?).getD d.gate)
        (c.threshold.elim first first.pushThreshold) ∧
      (c.threshold.elim first first.pushThreshold).registry.order = first.registry.order ∧
      (c.threshold.elim first first.pushThreshold).threshold =
        c.threshold.elim before.threshold clampThreshold ∧
      (c.threshold.elim first first.pushThreshold).allowed = before.allowed := by
    cases c.threshold with
    | none => exact ⟨dressed, rfl, threshold, allowed⟩
    | some value =>
      have step := dressed.pushThreshold value
      obtain ⟨g, -, pushed⟩ := pushThreshold_eq first value
      simp only [Option.elim_some, Option.bind_some]
      refine ⟨step, ?_, ?_, ?_⟩
      · rw [pushed]
        rfl
      · rw [pushed]
      · rw [pushed]
        exact allowed
  revert pushed
  generalize c.threshold.elim first first.pushThreshold = second
  rintro ⟨dressed, order', threshold, allowed⟩
  cases c.allowed with
  | none => exact ⟨dressed, order'.trans order, threshold, allowed⟩
  | some languages => exact ⟨dressed.setAllowed languages, order'.trans order, threshold, rfl⟩

end Dressed

/-! ### Accepted configurations -/

/-- The allow-lists that a configuration has for the engine, in the order in which they count. -/
def allowLists (e : Engine) (members : Members) : List (List String) :=
  (Changes.allowedIn members).toList ++ (Changes.payloadsIn members).filterMap e.entryAllowed?

/-- The gates that a configuration has for a detector, in the order in which they count: that of the
global threshold, those of its payloads and those of its own threshold. -/
def gates (members : Members) (d : Detector) : List Binary64 :=
  ((Changes.thresholdIn members).bind thresholdGate?).toList ++
    (Changes.payloadsIn members).filterMap (entryGate? d) ++
    (Changes.thresholdsIn members).filterMap (entryThreshold? d)

/-- What an accepted configuration makes of an engine. Nothing else is changed. -/
structure BulkWrite (e : Engine) (members : Members) (e' : Engine) : Prop where
  /-- Registered names at their first occurrences, or the order as it is. -/
  order : e'.registry.order = (Changes.orderIn members).elim e.registry.order fun names =>
    (names.filter e.registry.isRegistered).eraseDups
  /-- The threshold brought to 0 … 100, or the threshold as it is. -/
  threshold : e'.threshold = (Changes.thresholdIn members).elim e.threshold clampThreshold
  /-- The last allow-list in the form in which it is kept, or the allow-list as it is. -/
  allowed : e'.allowed = lastOf e.allowed ((e.allowLists members).map normalLanguages)
  /-- Every detector with the allow-list of the engine and the last gate there is for it, or its
  gate as it is. -/
  detectors : e'.registry.detectors =
    mapEntries (fun d => d.dress e'.allowed (lastOf d.gate (gates members d))) e.registry.detectors
  cache : e'.cache = e.cache.map Cache.clear
  clock : e'.clock = e.clock

theorem bulkWrite_of_accepted {e e' : Engine} (consistent : e.Consistent)
    (bundled : ∀ name d, e.registry.get? name = some d → d.IsBundled) {members : Members}
    (accepted : e.configure (.obj members) = (.ok (), e')) : BulkWrite e members e' := by
  rcases configure_cases e (.obj members) with
    ⟨_, _, shape⟩ | ⟨c, shape, _, settled⟩ | ⟨c, _, _, undone⟩
  · rw [shape] at accepted
    cases accepted
  · rw [settled] at accepted
    cases accepted
    cases Changes.ofJson_eq shape
    obtain ⟨begun, order, threshold, allowed⟩ := Dressed.begin consistent
      ⟨Changes.orderIn members, Changes.thresholdIn members, Changes.allowedIn members,
        Changes.payloadsIn members, Changes.thresholdsIn members⟩
    obtain ⟨applied, kept, allowed'⟩ := begun.applyPayloads consistent.registry bundled
      (Changes.payloadsIn members)
    have overridden := applied.overrideThresholds consistent.registry
      (Changes.thresholdsIn members)
    obtain ⟨settled, allowed''⟩ := settled_overrideThresholds
      ((e.begin _).applyPayloads (Changes.payloadsIn members)).2 (Changes.thresholdsIn members)
    refine ⟨?_, ?_, ?_, ?_, congrArg (Option.map Cache.clear) overridden.cache, overridden.clock⟩
    · exact settled.order.trans (kept.order.trans order)
    · exact settled.threshold.trans (kept.threshold.trans threshold)
    · rw [allowLists, List.map_append, lastOf_append, List.map_filterMap]
      refine allowed''.trans (allowed'.trans ?_)
      rw [allowed]
      cases Changes.allowedIn members <;> rfl
    · refine overridden.detectors.trans (mapEntries_congr fun entry _ => ?_)
      simp only [gates, lastOf_append, lastOf_toList]
      rfl
  · rw [undone] at accepted
    cases accepted

/-- What a configuration does that an engine with bundled detectors accepts: the last value there is
for each setting counts (`BulkWrite`), and the engine is the same as without the parts that do
not concern it. -/
theorem accepted_write_effect {e e' : Engine} (reached : Reachable Action.Bundled e)
    {members : Members} (accepted : e.configure (.obj members) = (.ok (), e')) :
    BulkWrite e members e' ∧
      (∀ other : Members,
        (∀ name ∈ Changes.partNames, valueOf? other name = valueOf? members name) →
          e.configure (.obj other) = (.ok (), e')) ∧
      ∀ c, Changes.ofJson (.obj members) = .ok c → e.write (e.relevant c) = (.ok (), e') := by
  have consistent := reached.consistent_of_bundled
  refine ⟨bulkWrite_of_accepted consistent reached.isBundled accepted, ?_, ?_⟩
  · intro other agree
    rw [configure_agree e agree, accepted]
  · intro c shape
    rw [write_relevant consistent reached.isBundled c, ← accepted]
    simp only [configure, shape]

/-- A configuration with two allow-lists, several gates for two detectors and names that no detector
has. -/
def crowded : Members :=
  [("detection_order", .arr [.str "pygments", .str "nothing", .str "ml-model", .str "pygments"]),
    ("confidence_threshold", .num 120),
    ("enabled_pattern_languages", .arr [.str "Rust"]),
    ("detector_configs", .obj [
      ("pattern-matching", .obj [("enabled_languages", .arr [.str " Go "]),
        ("min_confidence", .num 0)]),
      ("pygments", .obj [("min_confidence", .num 0)])]),
    ("detector_thresholds", .obj [("ml-model", .num (.int (-5))), ("nothing", .num 5)]),
    ("notes", .null)]

theorem accepted_write_effect_crowded :
    ∃ e', plain.configure (.obj crowded) = (.ok (), e') ∧ BulkWrite plain crowded e' ∧
      e'.registry.order = ["pygments", "ml-model"] ∧ e'.allowed = ["go"] ∧
      e'.registry.all.map Detector.threshold = [100, 0, 0] := by
  have accepted : (plain.configure (.obj crowded)).1.isOk = true := by decide +kernel
  have seen : (plain.configure (.obj crowded)).2.registry.order = ["pygments", "ml-model"] ∧
      (plain.configure (.obj crowded)).2.allowed = ["go"] ∧
      (plain.configure (.obj crowded)).2.registry.all.map Detector.threshold = [100, 0, 0] := by
    decide +kernel
  rcases written : plain.configure (.obj crowded) with ⟨answer, e'⟩
  rw [written] at accepted seen
  cases answer with
  | error faults => cases accepted
  | ok _ => exact ⟨e', rfl, (accepted_write_effect reachable_plain written).1, seen⟩

end Engine

end SnippetDetect
