import SnippetDetect.Proofs.Number.Gates

/-!
What a detector is, apart from what it remembers.

A detector remembers how often it was asked, the payloads it took and the model it made. None
of that reaches its answers (`detect_memoryless`), so two detectors with one `memoryless` form
answer alike, and to detect leaves that form as it is (`memoryless_detect`).

What is left is the part that no write reaches, the `bare` detector, with an allow-list and a
gate put on it (`memoryless_eq_of_bare`). That is how a write is undone.
-/

namespace SnippetDetect

/-! ### Memory -/

/-- The payloads a detector refuses, none taken. -/
def Payloads.memoryless (p : Payloads) : Payloads := { p with taken := [] }

def Capability.memoryless : Capability → Capability
  | .none => .none
  | .configurable payloads => .configurable payloads.memoryless
  | .selectable payloads allowed => .selectable payloads.memoryless allowed

def Custom.memoryless (c : Custom) : Custom :=
  { c with capability := c.capability.memoryless, calls := 0 }

def Classifier.memoryless (c : Classifier) : Classifier :=
  { c with made := none, created := 0, runs := 0 }

def Strategy.memoryless : Strategy → Strategy
  | .classifier c => .classifier c.memoryless
  | .custom c => .custom c.memoryless
  | other => other

namespace Classifier

/-- The model that was kept, if any, is the one the source makes. -/
def Coherent (c : Classifier) : Prop := ∀ model, c.made = some model → c.source = .ok model

theorem coherent_prepare {c : Classifier} (coherent : c.Coherent) : c.prepare.2.Coherent := by
  obtain ⟨source, mapping, languages, made, created, runs⟩ := c
  cases made with
  | some model => exact coherent
  | none =>
    cases source with
    | error message => exact coherent
    | ok model =>
      intro other made
      cases made
      rfl

theorem memoryless_prepare (c : Classifier) : c.prepare.2.memoryless = c.memoryless := by
  obtain ⟨source, mapping, languages, made, created, runs⟩ := c
  cases made with
  | some model => rfl
  | none => cases source <;> rfl

theorem coherent_classify {c : Classifier} (coherent : c.Coherent) (code : Snippet) :
    (c.classify code).2.Coherent := by
  have prepared := coherent_prepare coherent
  unfold classify
  dsimp only
  split
  · split <;> exact fun model made => prepared model made
  · exact prepared

theorem memoryless_classify (c : Classifier) (code : Snippet) :
    (c.classify code).2.memoryless = c.memoryless := by
  have prepared := memoryless_prepare c
  rw [← prepared]
  unfold classify
  dsimp only
  split
  · split <;> rfl
  · rfl

/-- A model that has to be made again predicts what the kept one does. -/
theorem classify_memoryless {c : Classifier} (coherent : c.Coherent) (code : Snippet) :
    (c.memoryless.classify code).1 = (c.classify code).1 := by
  obtain ⟨source, mapping, languages, made, created, runs⟩ := c
  cases made with
  | none =>
    cases source with
    | error message => rfl
    | ok model =>
      cases model with
      | none => rfl
      | some model =>
        simp only [classify, prepare, memoryless]
        cases model code <;> rfl
  | some model =>
    obtain rfl : source = .ok model := coherent model rfl
    cases model with
    | none => rfl
    | some model =>
      simp only [classify, prepare, memoryless]
      cases model code <;> rfl

end Classifier

namespace Custom

@[simp] theorem memoryless_ask (c : Custom) (gate : Binary64) (code : Snippet) :
    (c.ask gate code).2.memoryless = c.memoryless := rfl

theorem allowed_memoryless (c : Custom) : c.memoryless.allowed = c.allowed := by
  obtain ⟨kind, languages, answer, capability, calls⟩ := c
  cases capability <;> rfl

theorem ask_memoryless (c : Custom) (gate : Binary64) (code : Snippet) :
    (c.memoryless.ask gate code).1 = (c.ask gate code).1 := by
  simp only [ask, allowed_memoryless]
  rfl

theorem memoryless_setAllowed (c : Custom) (languages : List String) :
    (c.setAllowed languages).memoryless = c.memoryless.setAllowed languages := by
  obtain ⟨kind, names, answer, capability, calls⟩ := c
  cases capability <;> rfl

theorem setAllowed_setAllowed (c : Custom) (earlier later : List String) :
    (c.setAllowed earlier).setAllowed later = c.setAllowed later := by
  obtain ⟨kind, names, answer, capability, calls⟩ := c
  cases capability <;> rfl

/-- A payload is at most remembered. -/
theorem memoryless_configure (c : Custom) (payload : Members) :
    (c.configure payload).2.memoryless = c.memoryless := by
  obtain ⟨kind, names, answer, capability, calls⟩ := c
  cases capability with
  | none => rfl
  | configurable payloads =>
    simp only [configure, Payloads.take]
    split <;> rfl
  | selectable payloads allowed =>
    simp only [configure, Payloads.take]
    split <;> rfl

/-- Whether a payload is refused does not depend on those taken before. -/
theorem configure_memoryless (c : Custom) (payload : Members) :
    (c.memoryless.configure payload).1 = (c.configure payload).1 := by
  obtain ⟨kind, names, answer, capability, calls⟩ := c
  cases capability with
  | none => rfl
  | configurable payloads =>
    simp only [configure, memoryless, Capability.memoryless, Payloads.take, Payloads.memoryless]
    split <;> rfl
  | selectable payloads allowed =>
    simp only [configure, memoryless, Capability.memoryless, Payloads.take, Payloads.memoryless]
    split <;> rfl

end Custom

namespace Detector

/-- The detector without what it remembers. -/
def memoryless (d : Detector) : Detector := { d with strategy := d.strategy.memoryless }

/-- A detector as its constructors and its own operations leave it. -/
structure WellFormed (d : Detector) : Prop where
  gate : IsGate d.gate
  coherent : ∀ c, d.strategy = .classifier c → c.Coherent

@[simp] theorem memoryless_name (d : Detector) : d.memoryless.name = d.name := rfl

@[simp] theorem memoryless_gate (d : Detector) : d.memoryless.gate = d.gate := rfl

@[simp] theorem memoryless_memoryless (d : Detector) : d.memoryless.memoryless = d.memoryless := by
  obtain ⟨name, displayName, description, gate, strategy⟩ := d
  cases strategy with
  | custom c =>
    obtain ⟨kind, names, answer, capability, calls⟩ := c
    cases capability <;> rfl
  | _ => rfl

/-! ### The allow-list -/

@[simp] theorem setAllowed_name (d : Detector) (languages : List String) :
    (d.setAllowed languages).name = d.name := by
  unfold setAllowed
  split <;> rfl

@[simp] theorem setAllowed_gate (d : Detector) (languages : List String) :
    (d.setAllowed languages).gate = d.gate := by
  unfold setAllowed
  split <;> rfl

theorem setAllowed_withGate (d : Detector) (gate : Binary64) (languages : List String) :
    ({ d with gate } : Detector).setAllowed languages = { d.setAllowed languages with gate } := by
  obtain ⟨name, displayName, description, _, strategy⟩ := d
  cases strategy <;> rfl

@[simp] theorem setAllowed_setAllowed (d : Detector) (earlier later : List String) :
    (d.setAllowed earlier).setAllowed later = d.setAllowed later := by
  obtain ⟨name, displayName, description, gate, strategy⟩ := d
  cases strategy with
  | custom c => simp [setAllowed, Custom.setAllowed_setAllowed]
  | _ => rfl

theorem memoryless_setAllowed (d : Detector) (languages : List String) :
    (d.setAllowed languages).memoryless = d.memoryless.setAllowed languages := by
  obtain ⟨name, displayName, description, gate, strategy⟩ := d
  cases strategy with
  | custom c => simp [setAllowed, memoryless, Strategy.memoryless, Custom.memoryless_setAllowed]
  | _ => rfl

@[simp] theorem isSelectable_setAllowed (d : Detector) (languages : List String) :
    (d.setAllowed languages).isSelectable = d.isSelectable := by
  obtain ⟨name, displayName, description, gate, strategy⟩ := d
  cases strategy with
  | custom c =>
    obtain ⟨kind, names, answer, capability, calls⟩ := c
    cases capability <;> rfl
  | _ => rfl

@[simp] theorem isConfigurable_setAllowed (d : Detector) (languages : List String) :
    (d.setAllowed languages).isConfigurable = d.isConfigurable := by
  obtain ⟨name, displayName, description, gate, strategy⟩ := d
  cases strategy with
  | custom c =>
    obtain ⟨kind, names, answer, capability, calls⟩ := c
    cases capability <;> rfl
  | _ => rfl

/-- Whether an allow-list is the one a detector has does not depend on the memory. -/
theorem setAllowed_eq_self_iff (d : Detector) (languages : List String) :
    d.setAllowed languages = d ↔ d.memoryless.setAllowed languages = d.memoryless := by
  obtain ⟨name, displayName, description, gate, strategy⟩ := d
  cases strategy with
  | custom c =>
    obtain ⟨kind, names, answer, capability, calls⟩ := c
    cases capability <;>
      simp [setAllowed, Custom.setAllowed, memoryless, Strategy.memoryless, Custom.memoryless,
        Capability.memoryless]
  | classifier c => exact ⟨fun _ => rfl, fun _ => rfl⟩
  | _ => rfl

theorem setAllowed_eq_self_congr {d other : Detector} (same : d.memoryless = other.memoryless)
    {languages : List String} (handed : other.setAllowed languages = other) :
    d.setAllowed languages = d := by
  rw [setAllowed_eq_self_iff, same, ← setAllowed_eq_self_iff]
  exact handed

theorem withGate_setAllowed_eq_self {d : Detector} {languages : List String}
    (handed : d.setAllowed languages = d) (gate : Binary64) :
    ({ d with gate } : Detector).setAllowed languages = { d with gate } := by
  rw [setAllowed_withGate, handed]

theorem allowed?_memoryless (d : Detector) : d.memoryless.allowed? = d.allowed? := by
  obtain ⟨name, displayName, description, gate, strategy⟩ := d
  cases strategy with
  | custom c =>
    obtain ⟨kind, names, answer, capability, calls⟩ := c
    cases capability <;> rfl
  | _ => rfl

theorem isSelectable_memoryless (d : Detector) : d.memoryless.isSelectable = d.isSelectable := by
  rw [isSelectable, isSelectable, allowed?_memoryless]

theorem accepts_memoryless (d : Detector) (language : String) :
    d.memoryless.accepts language = d.accepts language := by
  obtain ⟨name, displayName, description, gate, strategy⟩ := d
  cases strategy with
  | custom c =>
    simp only [accepts, memoryless, Strategy.memoryless, Custom.allows, Custom.allowed_memoryless]
  | _ => rfl

theorem isConfigurable_memoryless (d : Detector) :
    d.memoryless.isConfigurable = d.isConfigurable := by
  obtain ⟨name, displayName, description, gate, strategy⟩ := d
  cases strategy with
  | custom c =>
    obtain ⟨kind, names, answer, capability, calls⟩ := c
    cases capability <;> rfl
  | _ => rfl

/-! ### Detection -/

/-- To detect changes nothing but the memory. -/
theorem memoryless_detect (d : Detector) (code : Snippet) :
    (d.detect code).2.memoryless = d.memoryless := by
  obtain ⟨name, displayName, description, gate, strategy⟩ := d
  cases strategy with
  | classifier c =>
    by_cases blank : code.isBlank
    · simp [detect, blank]
    · simp [detect, blank, memoryless, Strategy.memoryless, Classifier.memoryless_classify]
  | _ => rfl

/-- The answer does not depend on the memory. -/
theorem detect_memoryless {d : Detector} (wellFormed : d.WellFormed) (code : Snippet) :
    (d.memoryless.detect code).1 = (d.detect code).1 := by
  obtain ⟨name, displayName, description, gate, strategy⟩ := d
  cases strategy with
  | classifier c =>
    have same := Classifier.classify_memoryless (wellFormed.coherent c rfl) code
    by_cases blank : code.isBlank
    · simp [detect, blank, memoryless, Strategy.memoryless]
    · simp only [detect, blank, memoryless, Strategy.memoryless, same]
      rfl
  | custom c =>
    simp only [detect, memoryless, Strategy.memoryless, Custom.ask_memoryless]
  | _ => rfl

@[simp] theorem detect_name (d : Detector) (code : Snippet) : (d.detect code).2.name = d.name := by
  simpa using congrArg Detector.name (memoryless_detect d code)

@[simp] theorem detect_gate (d : Detector) (code : Snippet) : (d.detect code).2.gate = d.gate := by
  simpa using congrArg Detector.gate (memoryless_detect d code)

theorem wellFormed_detect {d : Detector} (wellFormed : d.WellFormed) (code : Snippet) :
    (d.detect code).2.WellFormed := by
  refine ⟨(detect_gate d code).symm ▸ wellFormed.gate, ?_⟩
  obtain ⟨name, displayName, description, gate, strategy⟩ := d
  cases strategy with
  | classifier c =>
    have coherent := wellFormed.coherent c rfl
    intro other
    by_cases blank : code.isBlank
    · intro same
      simp only [detect, blank] at same
      cases same
      exact coherent
    · intro same
      simp only [detect, blank] at same
      cases same
      exact Classifier.coherent_classify coherent code
  | _ => exact fun other same => by cases same

/-! ### Writing -/

/-- A detector with another gate. -/
theorem wellFormed_withGate {d : Detector} (wellFormed : d.WellFormed) {gate : Binary64}
    (isGate : IsGate gate) : ({ d with gate } : Detector).WellFormed :=
  ⟨isGate, wellFormed.coherent⟩

theorem wellFormed_setAllowed {d : Detector} (wellFormed : d.WellFormed)
    (languages : List String) : (d.setAllowed languages).WellFormed := by
  refine ⟨(setAllowed_gate d languages).symm ▸ wellFormed.gate, ?_⟩
  obtain ⟨name, displayName, description, gate, strategy⟩ := d
  cases strategy with
  | classifier c => exact wellFormed.coherent
  | _ => exact fun other same => by cases same

/-- The gate that a detector takes from a payload, if there is one it takes. -/
def payloadGate? (d : Detector) (payload : Members) : Option Binary64 :=
  match d.strategy with
  | .fingerprints _ | .classifier _ =>
      ((valueOf? payload "min_confidence").bind Json.number?).bind fun value =>
        (gateOf value).toOption
  | _ => none

@[simp] theorem payloadGate?_setAllowed (d : Detector) (languages : List String)
    (payload : Members) : (d.setAllowed languages).payloadGate? payload = d.payloadGate? payload := by
  obtain ⟨name, displayName, description, gate, strategy⟩ := d
  cases strategy <;> rfl

/-- The gate that a payload has depends on one of its members. -/
theorem payloadGate?_congr (d : Detector) {payload other : Members}
    (same : valueOf? other "min_confidence" = valueOf? payload "min_confidence") :
    d.payloadGate? other = d.payloadGate? payload := by
  unfold payloadGate?
  rw [same]

/-- Without a number for it a payload has no gate. -/
theorem payloadGate?_of_no_number (d : Detector) {payload : Members}
    (none : (valueOf? payload "min_confidence").bind Json.number? = .none) :
    d.payloadGate? payload = .none := by
  unfold payloadGate?
  rw [none]
  split <;> rfl

theorem payloadGate?_of_not_configurable {d : Detector} (other : d.isConfigurable = false)
    (payload : Members) : d.payloadGate? payload = none := by
  obtain ⟨name, displayName, description, gate, strategy⟩ := d
  cases strategy with
  | fingerprints f => cases other
  | lexers ls => rfl
  | classifier c => cases other
  | custom c => rfl

/-- A detector with an allow-list takes payloads. -/
theorem isConfigurable_of_isSelectable {d : Detector} (selectable : d.isSelectable = true) :
    d.isConfigurable = true := by
  obtain ⟨name, displayName, description, gate, strategy⟩ := d
  cases strategy with
  | fingerprints f => rfl
  | lexers ls => cases selectable
  | classifier c => rfl
  | custom c =>
    obtain ⟨kind, names, answer, capability, calls⟩ := c
    cases capability with
    | none => cases selectable
    | configurable payloads => rfl
    | selectable payloads allowed => rfl

/-- To set the gate from a payload changes nothing else, and nothing at all when the payload has no
number that fits. -/
theorem configureGate_snd (d : Detector) (payload : Members) :
    (d.configureGate payload).2 =
      { d with
        gate := (((valueOf? payload "min_confidence").bind Json.number?).bind fun value =>
          (gateOf value).toOption).getD d.gate } := by
  unfold configureGate
  cases (valueOf? payload "min_confidence").bind Json.number? with
  | none => rfl
  | some value => cases made : gateOf value <;> simp [setGate, made, Except.map, Except.toOption]

/-- A detector with one of the strategies that come with the program. -/
def IsBundled (d : Detector) : Prop := ∀ c, d.strategy ≠ .custom c

theorem IsBundled.setAllowed {d : Detector} (bundled : d.IsBundled) (languages : List String) :
    (d.setAllowed languages).IsBundled := by
  obtain ⟨name, displayName, description, gate, strategy⟩ := d
  cases strategy with
  | custom c => exact absurd rfl (bundled c)
  | _ => exact fun c same => by cases same

/-- A payload without an allow-list reaches the gate of a bundled detector and nothing else. -/
theorem configure_snd {d : Detector} {payload : Members}
    (bundled : d.IsBundled)
    (routed : d.isSelectable = true → valueOf? payload "enabled_languages" = none) :
    (d.configure payload).2 = { d with gate := (d.payloadGate? payload).getD d.gate } := by
  cases strategy : d.strategy with
  | fingerprints f =>
    have none_there := routed (by simp [isSelectable, allowed?, strategy])
    simp only [configure, strategy, payloadAllowed, none_there, configureGate_snd, payloadGate?]
  | lexers ls =>
    simp only [configure, strategy, payloadGate?, Option.getD_none]
    rw [← strategy]
  | classifier c => simp only [configure, strategy, configureGate_snd, payloadGate?]
  | custom c => exact absurd strategy (bundled c)

/-- A bundled detector takes every payload without an allow-list and with a number that fits. -/
theorem configure_fst {d : Detector} {payload : Members} (bundled : d.IsBundled)
    (routed : d.isSelectable = true → valueOf? payload "enabled_languages" = none)
    (fits : ∀ value, (valueOf? payload "min_confidence").bind Json.number? = some value →
      ∃ gate, gateOf value = .ok gate) : (d.configure payload).1 = .ok () := by
  have gate : (d.configureGate payload).1 = .ok () := by
    unfold configureGate
    cases told : (valueOf? payload "min_confidence").bind Json.number? with
    | none => rfl
    | some value =>
      obtain ⟨gate, made⟩ := fits value told
      simp [setGate, made, Except.map]
  cases strategy : d.strategy with
  | fingerprints f =>
    have none_there := routed (by simp [isSelectable, allowed?, strategy])
    simp only [configure, strategy, payloadAllowed, none_there, gate]
  | lexers ls => simp only [configure, strategy]
  | classifier c => simp only [configure, strategy, gate]
  | custom c => exact absurd strategy (bundled c)

/-- A payload without an allow-list reaches the gate, and the memory. -/
theorem memoryless_configure {d : Detector} {payload : Members}
    (routed : d.isSelectable = true → valueOf? payload "enabled_languages" = none) :
    (d.configure payload).2.memoryless =
      { d.memoryless with gate := (d.payloadGate? payload).getD d.gate } := by
  cases strategy : d.strategy with
  | custom c =>
    simp [configure, strategy, payloadGate?, memoryless, Strategy.memoryless,
      Custom.memoryless_configure]
  | _ =>
    rw [configure_snd (by simp [IsBundled, strategy]) routed]
    rfl

theorem configure_gate {d : Detector} {payload : Members}
    (routed : d.isSelectable = true → valueOf? payload "enabled_languages" = none) :
    (d.configure payload).2.gate = (d.payloadGate? payload).getD d.gate := by
  simpa using congrArg Detector.gate (memoryless_configure routed)

theorem configure_setAllowed_eq_self {d : Detector} {payload : Members} {languages : List String}
    (routed : d.isSelectable = true → valueOf? payload "enabled_languages" = none)
    (handed : d.setAllowed languages = d) :
    (d.configure payload).2.setAllowed languages = (d.configure payload).2 := by
  rw [setAllowed_eq_self_iff] at handed
  rw [setAllowed_eq_self_iff, memoryless_configure routed]
  exact withGate_setAllowed_eq_self handed _

/-- The detector with another allow-list, if it has one, and another gate. -/
def dress (d : Detector) (allowed : List String) (gate : Binary64) : Detector :=
  { d.setAllowed allowed with gate }

section Dress

variable (d : Detector) (allowed : List String) (gate : Binary64)

@[simp] theorem dress_name : (d.dress allowed gate).name = d.name := setAllowed_name d allowed

@[simp] theorem dress_gate : (d.dress allowed gate).gate = gate := rfl

theorem setAllowed_dress (other : List String) :
    (d.dress allowed gate).setAllowed other = d.dress other gate := by
  rw [dress, setAllowed_withGate, setAllowed_setAllowed]
  rfl

@[simp] theorem isSelectable_dress : (d.dress allowed gate).isSelectable = d.isSelectable :=
  isSelectable_setAllowed d allowed

@[simp] theorem isConfigurable_dress : (d.dress allowed gate).isConfigurable = d.isConfigurable :=
  isConfigurable_setAllowed d allowed

@[simp] theorem payloadGate?_dress (payload : Members) :
    (d.dress allowed gate).payloadGate? payload = d.payloadGate? payload :=
  payloadGate?_setAllowed d allowed payload

theorem IsBundled.dress {d : Detector} (bundled : d.IsBundled) (allowed : List String)
    (gate : Binary64) : (d.dress allowed gate).IsBundled :=
  bundled.setAllowed allowed

/-- A detector that has the allow-list is dressed in it and in its own gate. -/
theorem dress_eq_self {d : Detector} {allowed : List String}
    (handed : d.setAllowed allowed = d) : d.dress allowed d.gate = d := by
  rw [dress, handed]

end Dress

/-- Whether the gate of a payload is refused depends on the payload only. -/
theorem configureGate_fst (d other : Detector) (payload : Members) :
    (d.configureGate payload).1 = (other.configureGate payload).1 := by
  unfold configureGate
  cases (valueOf? payload "min_confidence").bind Json.number? with
  | none => rfl
  | some value => cases made : gateOf value <;> simp [setGate, made, Except.map]

/-- Whether a payload is refused does not depend on the memory. -/
theorem configure_memoryless (d : Detector) (payload : Members) :
    (d.memoryless.configure payload).1 = (d.configure payload).1 := by
  obtain ⟨name, displayName, description, gate, strategy⟩ := d
  cases strategy with
  | fingerprints f => rfl
  | lexers ls => rfl
  | classifier c => exact configureGate_fst _ _ payload
  | custom c => exact Custom.configure_memoryless c payload

theorem payloadGate?_memoryless (d : Detector) (payload : Members) :
    d.memoryless.payloadGate? payload = d.payloadGate? payload := by
  cases strategy : d.strategy <;>
    simp [payloadGate?, memoryless, Strategy.memoryless, strategy]

/-- Detectors that differ in memory only take a payload alike. -/
theorem configure_congr {d other : Detector} {payload : Members}
    (same : other.memoryless = d.memoryless)
    (routed : d.isSelectable = true → valueOf? payload "enabled_languages" = none) :
    (other.configure payload).1 = (d.configure payload).1 ∧
      (other.configure payload).2.memoryless = (d.configure payload).2.memoryless := by
  have routedOther : other.isSelectable = true → valueOf? payload "enabled_languages" = none := by
    rw [← isSelectable_memoryless, same, isSelectable_memoryless]
    exact routed
  have gate : other.memoryless.gate = d.memoryless.gate := by rw [same]
  rw [memoryless_gate, memoryless_gate] at gate
  constructor
  · rw [← configure_memoryless, same, configure_memoryless]
  · rw [memoryless_configure routed, memoryless_configure routedOther, same, gate,
      ← payloadGate?_memoryless other, same, payloadGate?_memoryless]

theorem wellFormed_configureGate {d : Detector} (wellFormed : d.WellFormed) (payload : Members) :
    (d.configureGate payload).2.WellFormed := by
  rw [configureGate_snd]
  apply wellFormed_withGate wellFormed
  cases found : ((valueOf? payload "min_confidence").bind Json.number?).bind fun value =>
      (gateOf value).toOption with
  | none => exact wellFormed.gate
  | some gate =>
    obtain ⟨value, -, made⟩ := Option.bind_eq_some_iff.mp found
    exact isGate_of_toOption made

theorem wellFormed_configure {d : Detector} (wellFormed : d.WellFormed) (payload : Members) :
    (d.configure payload).2.WellFormed := by
  obtain ⟨name, displayName, description, gate, strategy⟩ := d
  cases strategy with
  | fingerprints f =>
    simp only [configure]
    split
    · exact wellFormed
    · exact wellFormed_configureGate wellFormed payload
    · exact wellFormed_configureGate (wellFormed_setAllowed wellFormed _) payload
  | lexers ls => exact wellFormed
  | classifier c => exact wellFormed_configureGate wellFormed payload
  | custom c => exact ⟨wellFormed.gate, fun c same => by cases same⟩

/-! ### The part that no write reaches -/

/-- The detector without memory, allow-list and gate. -/
def bare (d : Detector) : Detector :=
  { d.memoryless.setAllowed [] with gate := Binary64.zero }

theorem bare_congr {d other : Detector} (same : d.memoryless = other.memoryless) :
    d.bare = other.bare := by
  rw [bare, bare, same]

@[simp] theorem bare_name (d : Detector) : d.bare.name = d.name := setAllowed_name d.memoryless []

@[simp] theorem bare_withGate (d : Detector) (gate : Binary64) :
    ({ d with gate } : Detector).bare = d.bare := by
  have same : ({ d with gate } : Detector).memoryless = { d.memoryless with gate } := rfl
  rw [bare, same, setAllowed_withGate]
  rfl

@[simp] theorem bare_setAllowed (d : Detector) (languages : List String) :
    (d.setAllowed languages).bare = d.bare := by
  rw [bare, memoryless_setAllowed, setAllowed_setAllowed]
  rfl

@[simp] theorem isConfigurable_bare (d : Detector) : d.bare.isConfigurable = d.isConfigurable :=
  (isConfigurable_setAllowed d.memoryless []).trans (isConfigurable_memoryless d)

/-- Whether a detector is bundled is settled by its bare form. -/
theorem isBundled_bare (d : Detector) : d.bare.IsBundled ↔ d.IsBundled := by
  obtain ⟨name, displayName, description, gate, strategy⟩ := d
  cases strategy with
  | custom c => exact ⟨fun bundled => absurd rfl (bundled _), fun bundled => absurd rfl (bundled c)⟩
  | _ => exact ⟨fun _ => nofun, fun _ => nofun⟩

/-- Payloads reach the memory, the allow-list and the gate only. -/
theorem bare_configure (d : Detector) (payload : Members) :
    (d.configure payload).2.bare = d.bare := by
  cases strategy : d.strategy with
  | fingerprints f =>
    have allowed (languages : List String) :
        ({ d with strategy := .fingerprints (f.setAllowed languages) } : Detector) =
          d.setAllowed languages := by
      simp [setAllowed, strategy]
    simp only [configure, strategy, allowed]
    split
    · rfl
    · rw [configureGate_snd, bare_withGate]
    · rw [configureGate_snd, bare_withGate, bare_setAllowed]
  | lexers ls => simp only [configure, strategy]
  | classifier c =>
    simp only [configure, strategy]
    rw [configureGate_snd, bare_withGate]
  | custom c =>
    apply bare_congr
    simp [configure, strategy, memoryless, Strategy.memoryless, Custom.memoryless_configure]

@[simp] theorem configure_name (d : Detector) (payload : Members) :
    (d.configure payload).2.name = d.name := by
  rw [← bare_name, bare_configure, bare_name]

/-- A detector is the bare one with its allow-list and its gate, memory aside. -/
theorem memoryless_eq_of_bare {d other : Detector} {allowed : List String}
    (same : d.bare = other.bare) (gate : d.gate = other.gate)
    (left : d.setAllowed allowed = d) (right : other.setAllowed allowed = other) :
    d.memoryless = other.memoryless := by
  have dressed {d : Detector} (handed : d.setAllowed allowed = d) :
      { d.bare.setAllowed allowed with gate := d.gate } = d.memoryless := by
    have list : d.bare.setAllowed allowed =
        { (d.memoryless.setAllowed []).setAllowed allowed with gate := Binary64.zero } :=
      setAllowed_withGate _ _ _
    rw [list, setAllowed_setAllowed, ← memoryless_setAllowed, handed]
    rfl
  rw [← dressed left, ← dressed right, same, gate]

/-! ### The detectors that can be made -/

theorem wellFormed_ofLanguages {languages : List Language} {gate : Number}
    {allowed : List String} {d : Detector} (made : ofLanguages languages gate allowed = .ok d) :
    d.WellFormed := by
  cases read : gateOf gate with
  | error fault => simp [ofLanguages, read, Except.mapError, bind, Except.bind] at made
  | ok g =>
    cases loaded : Fingerprints.load languages allowed with
    | error fault => simp [ofLanguages, read, loaded, Except.mapError, bind, Except.bind] at made
    | ok f =>
      simp only [ofLanguages, read, loaded, Except.mapError, bind, Except.bind] at made
      cases made
      exact ⟨isGate_of_gateOf read, fun c same => by cases same⟩

theorem wellFormed_ofLexers {lexers : Lexers} {gate : Number} {d : Detector}
    (made : ofLexers lexers gate = .ok d) : d.WellFormed := by
  cases read : gateOf gate with
  | error fault => simp [ofLexers, read, Except.mapError, bind, Except.bind] at made
  | ok g =>
    simp only [ofLexers, read, Except.mapError, bind, Except.bind] at made
    cases made
    exact ⟨isGate_of_gateOf read, fun c same => by cases same⟩

theorem wellFormed_ofClassifier {classifier : Classifier} (coherent : classifier.Coherent)
    {gate : Number} {d : Detector} (made : ofClassifier classifier gate = .ok d) :
    d.WellFormed := by
  cases read : gateOf gate with
  | error fault => simp [ofClassifier, read, Except.mapError, bind, Except.bind] at made
  | ok g =>
    simp only [ofClassifier, read, Except.mapError, bind, Except.bind] at made
    cases made
    refine ⟨isGate_of_gateOf read, fun c same => ?_⟩
    cases same
    exact coherent

theorem wellFormed_ofCustom {name displayName description : String} {gate : Number}
    {custom : Custom} {d : Detector}
    (made : ofCustom name displayName description gate custom = .ok d) : d.WellFormed := by
  cases read : gateOf gate with
  | error fault =>
    by_cases unnamed : name.isEmpty <;>
      simp [ofCustom, unnamed, read, Except.mapError, bind, Except.bind, throw, throwThe,
        MonadExceptOf.throw] at made
  | ok g =>
    by_cases unnamed : name.isEmpty
    · simp [ofCustom, unnamed, bind, Except.bind, throw, throwThe, MonadExceptOf.throw] at made
    · simp only [ofCustom, unnamed, read, Except.mapError, bind, Except.bind, pure,
        Except.pure] at made
      cases made
      exact ⟨isGate_of_gateOf read, fun c same => by cases same⟩

end Detector

end SnippetDetect
