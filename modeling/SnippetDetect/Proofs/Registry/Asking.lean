import SnippetDetect.Proofs.Registry.Order

/-!
Which detectors a protocol asks.

To ask a detector leaves the registry with what has become of that detector, and with all others as
they were (`ask_eq`). The sequential protocol asks the enabled detectors up to the first one whose
answer is accepted (`firstAccepted_eq`, `askedOf_cases`), the exhaustive protocol asks every
detector it is given (`askEach_eq`), each of them once.

A detector may be replaced by one that answers and accepts the same and counts how often it is
asked (`Detector.counted`): so the number of times that a detector is asked can be read off, also
for those that do not remember it themselves.
-/

namespace SnippetDetect

namespace Detector

/-- A detector of the user's in the place of another, which has not been asked yet. -/
def counted (d : Detector) : Detector :=
  let custom : Custom :=
    { kind := d.kind
      languages := d.languages
      answer := fun _ _ code => (d.detect code).1
      capability := d.allowed?.elim .none (.selectable {}) }
  { d with strategy := .custom custom }

/-- How often a detector of the user's was asked. -/
def calls (d : Detector) : Nat :=
  match d.strategy with
  | .custom c => c.calls
  | _ => 0

@[simp] theorem counted_name (d : Detector) : d.counted.name = d.name := rfl

@[simp] theorem calls_counted (d : Detector) : d.counted.calls = 0 := rfl

theorem calls_detect_counted (d : Detector) (code : Snippet) :
    (d.counted.detect code).2.calls = 1 := rfl

theorem detect_counted_fst (d : Detector) (code : Snippet) :
    (d.counted.detect code).1 = (d.detect code).1 := rfl

theorem accepts_counted (d : Detector) (language : String) :
    d.counted.accepts language = d.accepts language := by
  obtain ⟨name, displayName, description, gate, strategy⟩ := d
  cases strategy with
  | custom c =>
    obtain ⟨kind, names, answer, capability, calls⟩ := c
    cases capability <;> rfl
  | _ => rfl

end Detector

namespace Registry

variable {r : Registry} {code : Snippet} {threshold : Number}

/-! ### Changing every detector -/

theorem mapDetectors_eq_self (r : Registry) {f : Detector → Detector} (same : ∀ d, f d = d) :
    r.mapDetectors f = r := by
  simp [mapDetectors, same]

theorem all_mapDetectors (r : Registry) (f : Detector → Detector) :
    (r.mapDetectors f).all = r.all.map f := by
  simp [all, mapDetectors]

theorem inOrder_mapDetectors (r : Registry) (f : Detector → Detector) :
    (r.mapDetectors f).inOrder = r.inOrder.map f := by
  rw [inOrder, inOrder, List.map_filterMap]
  exact List.filterMap_congr fun name _ => get?_mapDetectors r f name

/-! ### Asking one detector -/

/-- What becomes of a detector when some detectors are asked about a snippet. -/
def afterAsking (code : Snippet) (asked : List Detector) (d : Detector) : Detector :=
  if d.name ∈ asked.map (·.name) then (d.detect code).2 else d

@[simp] theorem afterAsking_nil (code : Snippet) (d : Detector) : afterAsking code [] d = d := rfl

theorem afterAsking_name (code : Snippet) (asked : List Detector) (d : Detector) :
    (afterAsking code asked d).name = d.name := by
  unfold afterAsking
  split
  · exact Detector.detect_name d code
  · rfl

/-- To ask one more detector is to ask it first, if it is not among the others. -/
theorem afterAsking_cons {d : Detector} {rest : List Detector}
    (fresh : d.name ∉ rest.map (·.name)) (other : Detector) :
    afterAsking code rest (afterAsking code [d] other) = afterAsking code (d :: rest) other := by
  by_cases same : other.name = d.name
  · have first : afterAsking code [d] other = (other.detect code).2 := by
      simp [afterAsking, same]
    have late : afterAsking code rest (other.detect code).2 = (other.detect code).2 := by
      rw [afterAsking, Detector.detect_name, same, if_neg fresh]
    rw [first, late, afterAsking, if_pos (by simp [same])]
  · have first : afterAsking code [d] other = other := by
      simp [afterAsking, same]
    rw [first, afterAsking, afterAsking]
    simp [same]

theorem mapDetectors_afterAsking (r : Registry) {d : Detector} {rest : List Detector}
    (fresh : d.name ∉ rest.map (·.name)) :
    (r.mapDetectors (afterAsking code [d])).mapDetectors (afterAsking code rest) =
      r.mapDetectors (afterAsking code (d :: rest)) := by
  rw [mapDetectors_mapDetectors]
  congr 1
  funext other
  exact afterAsking_cons fresh other

/-- To ask a detector changes that detector only. -/
theorem ask_eq (orderly : r.Orderly) {d : Detector} (found : r.get? d.name = some d)
    (code : Snippet) : (r.ask d code).2 = r.mapDetectors (afterAsking code [d]) := by
  have elsewhere : ∀ entry ∈ r.detectors, entry.1 ≠ d.name →
      afterAsking code [d] entry.2 = id entry.2 := by
    intro entry mem other
    rw [afterAsking, if_neg]
    · rfl
    · simpa [orderly.keyed entry mem] using other
  have entries := setEntry_mapEntries orderly.distinct found elsewhere
  have asked : afterAsking code [d] d = (d.detect code).2 := by simp [afterAsking]
  rw [mapEntries_eq_self fun _ _ => rfl, asked] at entries
  have put : r.put (d.detect code).2 =
      { r with detectors := setEntry d.name (d.detect code).2 r.detectors } := by
    rw [put, Detector.detect_name]
  rw [ask_snd, put, entries]
  rfl

theorem Orderly.ask (orderly : r.Orderly) {d : Detector} (found : r.get? d.name = some d)
    (code : Snippet) : (r.ask d code).2.Orderly := by
  rw [ask_eq orderly found]
  exact orderly.mapDetectors (afterAsking_name code [d])

theorem get?_ask_of_ne {d : Detector} {name : String} (other : name ≠ d.name) (code : Snippet) :
    (r.ask d code).2.get? name = r.get? name := by
  rw [ask_snd, get?_put, Detector.detect_name, if_neg other]

/-! ### The sequential protocol -/

/-- The answer of a detector, if it reaches the threshold and the detector accepts it. -/
def accepted (threshold : Number) (code : Snippet) (d : Detector) : Option Detection :=
  (answerOf d code).filter fun answer =>
    !answer.confidence.lt threshold && d.accepts answer.language

theorem answerOf_counted (d : Detector) (code : Snippet) :
    answerOf d.counted code = answerOf d code := by
  rw [answerOf, Detector.detect_counted_fst, answerOf]

theorem accepted_counted (threshold : Number) (code : Snippet) (d : Detector) :
    accepted threshold code d.counted = accepted threshold code d := by
  simp only [accepted, answerOf_counted, Detector.accepts_counted]

/-- The detectors up to the first one whose answer is accepted. -/
def askedOf (threshold : Number) (code : Snippet) : List Detector → List Detector
  | [] => []
  | d :: rest =>
      if (accepted threshold code d).isSome then [d] else d :: askedOf threshold code rest

/-- All detectors are asked and none is accepted, or the last one that is asked is the first one that
is accepted. -/
theorem askedOf_cases (threshold : Number) (code : Snippet) (ds : List Detector) :
    (askedOf threshold code ds = ds ∧ (∀ d ∈ ds, accepted threshold code d = none) ∧
        ds.findSome? (accepted threshold code) = none) ∨
      ∃ before d rest answer, ds = before ++ d :: rest ∧
        askedOf threshold code ds = before ++ [d] ∧
        (∀ other ∈ before, accepted threshold code other = none) ∧
        accepted threshold code d = some answer ∧
        ds.findSome? (accepted threshold code) = some answer := by
  induction ds with
  | nil => exact .inl ⟨rfl, by simp, rfl⟩
  | cons d ds ih =>
    cases here : accepted threshold code d with
    | some answer =>
      right
      refine ⟨[], d, ds, answer, rfl, ?_, by simp, here, ?_⟩
      · simp [askedOf, here]
      · rw [List.findSome?_cons, here]
    | none =>
      have asked : askedOf threshold code (d :: ds) = d :: askedOf threshold code ds := by
        simp [askedOf, here]
      rw [asked, List.findSome?_cons, here]
      rcases ih with ⟨all, none, found⟩ | ⟨before, last, rest, answer, parts, upTo, none, taken, found⟩
      · left
        refine ⟨by rw [all], ?_, found⟩
        intro other mem
        rcases List.mem_cons.mp mem with rfl | later
        · exact here
        · exact none other later
      · right
        refine ⟨d :: before, last, rest, answer, by rw [parts]; rfl, by rw [upTo]; rfl, ?_, taken,
          found⟩
        intro other mem
        rcases List.mem_cons.mp mem with rfl | later
        · exact here
        · exact none other later

theorem exists_askedOf_append (threshold : Number) (code : Snippet) (ds : List Detector) :
    ∃ rest, ds = askedOf threshold code ds ++ rest := by
  rcases askedOf_cases threshold code ds with
    ⟨all, -⟩ | ⟨before, d, rest, answer, parts, upTo, -⟩
  · refine ⟨[], ?_⟩
    rw [all, List.append_nil]
  · refine ⟨rest, ?_⟩
    rw [upTo, parts]
    simp

theorem mem_of_mem_askedOf {d : Detector} {ds : List Detector}
    (mem : d ∈ askedOf threshold code ds) : d ∈ ds := by
  obtain ⟨rest, parts⟩ := exists_askedOf_append threshold code ds
  rw [parts]
  exact List.mem_append_left rest mem

theorem askedOf_map_counted (threshold : Number) (code : Snippet) (ds : List Detector) :
    askedOf threshold code (ds.map Detector.counted) =
      (askedOf threshold code ds).map Detector.counted := by
  induction ds with
  | nil => rfl
  | cons d rest ih =>
    rw [List.map_cons, askedOf, askedOf, accepted_counted, ih]
    split <;> rfl

/-- The sequential protocol answers what is accepted first, and asks the detectors up to there. -/
theorem firstAccepted_eq (orderly : r.Orderly) (threshold : Number) (code : Snippet)
    {names : List String} (distinct : names.Nodup) :
    firstAccepted threshold code names r =
      ((names.filterMap r.get?).findSome? (accepted threshold code),
        r.mapDetectors (afterAsking code (askedOf threshold code (names.filterMap r.get?)))) := by
  induction names generalizing r with
  | nil =>
    rw [List.filterMap_nil, askedOf, mapDetectors_eq_self r (afterAsking_nil code)]
    rfl
  | cons name rest ih =>
    obtain ⟨fresh, distinct⟩ := List.nodup_cons.mp distinct
    rw [firstAccepted_cons, List.filterMap_cons]
    cases found : r.get? name with
    | none => exact ih orderly distinct
    | some d =>
      have called : d.name = name := orderly.name_of_get? found
      have here : r.get? d.name = some d := by rw [called, found]
      have asked : r.acceptedFrom threshold code name = accepted threshold code d := by
        rw [acceptedFrom, found]
        rfl
      simp only [asked, List.findSome?_cons, askedOf]
      cases accepted threshold code d with
      | some answer => rw [ask_eq orderly here, Option.isSome_some, if_pos rfl]
      | none =>
        -- No name comes twice, so the detectors behind this one are as they were.
        have others : rest.filterMap (r.ask d code).2.get? = rest.filterMap r.get? := by
          apply List.filterMap_congr
          intro other mem
          apply get?_ask_of_ne
          rw [called]
          rintro rfl
          exact fresh mem
        have apart : d.name ∉ (askedOf threshold code (rest.filterMap r.get?)).map (·.name) := by
          rw [called]
          intro mem
          obtain ⟨other, there, same⟩ := List.mem_map.mp mem
          obtain ⟨n, memRest, foundRest⟩ := List.mem_filterMap.mp (mem_of_mem_askedOf there)
          rw [← orderly.name_of_get? foundRest] at memRest
          exact fresh (same ▸ memRest)
        simp only [ih (orderly.ask here code) distinct, others]
        rw [ask_eq orderly here, mapDetectors_afterAsking r apart]
        rfl

/-! ### The exhaustive protocol -/

/-- The exhaustive protocol has the answers of all detectors it is given, and asks each of them. -/
theorem askEach_eq (orderly : r.Orderly) (code : Snippet) {ds : List Detector}
    (distinct : (ds.map (·.name)).Nodup) (there : ∀ d ∈ ds, r.get? d.name = some d) :
    askEach code ds r =
      (ds.filterMap (answerOf · code), r.mapDetectors (afterAsking code ds)) := by
  induction ds generalizing r with
  | nil =>
    rw [mapDetectors_eq_self r (afterAsking_nil code)]
    rfl
  | cons d rest ih =>
    obtain ⟨fresh, distinct⟩ := List.nodup_cons.mp distinct
    have here := there d List.mem_cons_self
    have still : ∀ other ∈ rest, (r.ask d code).2.get? other.name = some other := by
      intro other mem
      rw [get?_ask_of_ne _ code]
      · exact there other (List.mem_cons_of_mem _ mem)
      · intro same
        exact fresh (List.mem_map.mpr ⟨other, mem, same⟩)
    have answers : askEach code (d :: rest) r =
        ((answerOf d code).toList ++ (askEach code rest (r.ask d code).2).1,
          (askEach code rest (r.ask d code).2).2) := rfl
    rw [answers, ih (orderly.ask here code) distinct still, ask_eq orderly here,
      mapDetectors_afterAsking r fresh, List.filterMap_cons]
    cases answerOf d code <;> rfl

theorem askEach_all_eq (orderly : r.Orderly) (code : Snippet) :
    askEach code r.all r =
      (r.all.filterMap (answerOf · code), r.mapDetectors (afterAsking code r.all)) := by
  apply askEach_eq orderly code
  · rw [orderly.map_name_all]
    exact orderly.distinct
  · intro d mem
    exact orderly.mem_all_iff.mp mem

end Registry

end SnippetDetect
