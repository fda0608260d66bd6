import SnippetDetect.Proofs.Detector.Sources

/-!
Which expressions a language is judged by.

A language that is handed over is judged by its own words and comments and by the expressions of
the definition that counts for its name, if there is one (`confidence_eq_judgedBy`). Two lists of
sources come to the same judgement exactly when the same share of their expressions matches
(`confidence_bare_eq_iff`). This settles when a detector judges a language as one without
definitions does (`confidence_eq_bare_iff`), and when it makes no difference to leave out sources
that are no expressions (`confidence_readable_of_load`).
-/

namespace SnippetDetect.Fingerprints

open SnippetDetect.Text SnippetDetect.Binary64

/-- Fingerprints of no language. -/
def bare : Fingerprints := ⟨[], []⟩

/-- A language with the sources of the definition that counts for its name, if there is one. -/
def judgedBy (languages : List Language) (l : Language) : Language :=
  { l with patterns := ((definitionOf languages (lower l.name)).getD l).patterns }

section Judging

variable {languages : List Language} {allowed : List String} {f : Fingerprints}

/-- A definition that counts can be read, and is known with what is tried of it. -/
theorem mem_loaded (loads : load languages allowed = .ok f) {name : String} {l : Language}
    (counts : definitionOf languages name = some l) :
    Unbroken l.patterns ∧ (name, ⟨l, tried l.patterns⟩) ∈ f.loaded := by
  obtain ⟨regexes, mem⟩ := exists_mem_loaded loads counts
  have read : regexesOf l = .ok regexes := ((mem_loaded_iff loads).mp mem).2
  obtain ⟨unbroken, rfl⟩ := regexesOf_eq_ok_iff.mp read
  exact ⟨unbroken, mem⟩

theorem lookup_loaded (loads : load languages allowed = .ok f) (name : String) :
    f.loaded.lookup name = (definitionOf languages name).map fun l => ⟨l, tried l.patterns⟩ := by
  cases counts : definitionOf languages name with
  | none =>
    rw [Option.map_none, ← Option.not_isSome_iff_eq_none]
    intro known
    obtain ⟨entry, found⟩ := Option.isSome_iff_exists.mp known
    have mem := (mem_loaded_iff loads).mp (mem_of_valueOf? found)
    rw [counts] at mem
    cases mem.1
  | some l => exact valueOf?_of_mem (ascending_loaded loads).nodup (mem_loaded loads counts).2

theorem confidence_bare (code : Snippet) (l : Language) (words : Option (List String)) :
    bare.confidence code l words = ((regexesOf l).mapError Fault.regex).map fun regexes =>
      score code.text (words.getD (wordsOf code)) regexes l := by
  unfold confidence
  cases regexesOf l <;> rfl

/-- A language is judged as if its sources were those of the definition known by its name. -/
theorem confidence_eq_judgedBy (loads : load languages allowed = .ok f) (code : Snippet)
    (l : Language) (words : Option (List String)) :
    f.confidence code l words = bare.confidence code (judgedBy languages l) words := by
  cases counts : definitionOf languages (lower l.name) with
  | none =>
    rw [judgedBy, counts, confidence, lookup_loaded loads, counts]
    rfl
  | some known =>
    obtain ⟨unbroken, -⟩ := mem_loaded loads counts
    have read : regexesOf { l with patterns := known.patterns } = .ok (tried known.patterns) :=
      regexesOf_eq_ok_iff.mpr ⟨unbroken, rfl⟩
    rw [confidence_bare, judgedBy, counts, Option.getD_some, read, confidence,
      lookup_loaded loads, counts]
    rfl

/-- Without definitions, other sources come to the same judgement exactly when they can be read and
the same share of their expressions matches. -/
theorem confidence_bare_eq_iff {sources : List String} (unbroken : Unbroken sources)
    (others : List String) (code : Snippet) (l : Language) (words : Option (List String)) :
    bare.confidence code { l with patterns := sources } words =
        bare.confidence code { l with patterns := others } words ↔
      Unbroken others ∧ SameShare code.text (tried sources) (tried others) := by
  have read : regexesOf { l with patterns := sources } = .ok (tried sources) :=
    regexesOf_eq_ok_iff.mpr ⟨unbroken, rfl⟩
  rw [confidence_bare, confidence_bare, read]
  cases readToo : regexesOf { l with patterns := others } with
  | error refusal =>
    constructor
    · nofun
    · rintro ⟨unbrokenToo, -⟩
      have succeeds : regexesOf { l with patterns := others } = .ok (tried others) :=
        regexesOf_eq_ok_iff.mpr ⟨unbrokenToo, rfl⟩
      rw [readToo] at succeeds
      cases succeeds
  | ok regexes =>
    obtain ⟨unbrokenToo, rfl⟩ := regexesOf_eq_ok_iff.mp readToo
    have scores := score_eq_iff code.text (words.getD (wordsOf code)) l
      (length_tried_le sources) (length_tried_le others)
    change Except.ok (score _ _ (tried sources) l) = Except.ok (score _ _ (tried others) l) ↔ _
    rw [Except.ok.injEq, scores]
    exact ⟨fun same => ⟨unbrokenToo, same⟩, And.right⟩

/-- A definition without rivals is loaded when it can be read. -/
theorem load_singleton {l : Language} (unbroken : Unbroken l.patterns) (allowed : List String) :
    load [l] allowed =
      .ok ⟨[(lower l.name, ⟨l, tried l.patterns⟩)], normalAllowed allowed⟩ := by
  have entries : byName [l] = [(lower l.name, l)] :=
    List.mergeSort_of_pairwise (List.pairwise_singleton _ _)
  refine load_eq_ok_iff.mpr ⟨entries, ?_, rfl⟩
  rintro entry mem
  rw [List.mem_singleton.mp mem]
  exact regexesOf_eq_ok_iff.mpr ⟨unbroken, rfl⟩

/-! ### A language and the definition known by its name -/

/-- A detector judges a language by the sources of the definition known by its name. That is the
judgement without any definitions exactly when no such definition is known, or the own sources can
be read and the same share of the expressions matches. The words and the comments do not matter. -/
theorem confidence_eq_bare_iff (loads : load languages allowed = .ok f) (code : Snippet)
    (l : Language) (words : Option (List String)) :
    f.confidence code l words = bare.confidence code (judgedBy languages l) words ∧
    (f.confidence code l words = bare.confidence code l words ↔
      ∀ known, definitionOf languages (lower l.name) = some known → Unbroken l.patterns ∧
        SameShare code.text (tried known.patterns) (tried l.patterns)) ∧
    ∀ known, definitionOf languages (lower l.name) = some known →
      known.patterns.take maxSources = l.patterns.take maxSources →
        f.confidence code l words = bare.confidence code l words := by
  have judged := confidence_eq_judgedBy loads code l words
  have agrees : f.confidence code l words = bare.confidence code l words ↔
      ∀ known, definitionOf languages (lower l.name) = some known → Unbroken l.patterns ∧
        SameShare code.text (tried known.patterns) (tried l.patterns) := by
    rw [judged, judgedBy]
    cases counts : definitionOf languages (lower l.name) with
    | none => exact ⟨fun _ => nofun, fun _ => rfl⟩
    | some known =>
      obtain ⟨unbroken, -⟩ := mem_loaded loads counts
      have compared := confidence_bare_eq_iff unbroken l.patterns code l words
      rw [Option.getD_some, compared]
      exact ⟨fun same other => by rintro ⟨⟩; exact same, fun each => each known rfl⟩
  refine ⟨judged, agrees, fun known counts same => ?_⟩
  rw [agrees]
  rintro other countsToo
  rw [counts] at countsToo
  cases countsToo
  obtain ⟨unbroken, -⟩ := mem_loaded loads counts
  rw [Unbroken, tried, tried, ← same]
  exact ⟨unbroken, rfl⟩

end Judging

/-- Two languages whose names are the same in lower case. -/
def homonyms : Language × Language :=
  ({ name := "alpha", patterns := ["foo"] }, { name := "Alpha", patterns := ["bar"] })

/-- The first of them as it is loaded alone. -/
def loadedHomonym : Fingerprints := ⟨[("alpha", ⟨homonyms.1, tried ["foo"]⟩)], []⟩

theorem load_homonym : load [homonyms.1] [] = .ok loadedHomonym := by
  have lowered : lower homonyms.1.name = "alpha" := by decide
  rw [load_singleton (by decide), lowered]
  rfl

theorem confidence_eq_bare_iff_homonyms :
    load [homonyms.1] [] = .ok loadedHomonym ∧
    loadedHomonym.confidence "bar" homonyms.2 none =
      bare.confidence "bar" { homonyms.2 with patterns := ["foo"] } none ∧
    loadedHomonym.confidence "foobar" homonyms.2 none =
      bare.confidence "foobar" homonyms.2 none := by
  have judged := confidence_eq_bare_iff load_homonym "bar" homonyms.2 none
  have agrees := confidence_eq_bare_iff load_homonym "foobar" homonyms.2 none
  have counts : definitionOf [homonyms.1] (lower homonyms.2.name) = some homonyms.1 := by
    decide
  refine ⟨load_homonym, ?_, agrees.2.1.mpr ?_⟩
  · rw [judged.1, judgedBy, counts]
    rfl
  · rw [counts]
    rintro known ⟨⟩
    decide

theorem not_confidence_eq_bare : ¬ ∀ languages allowed f, load languages allowed = .ok f →
    ∀ code l words, f.confidence code l words = bare.confidence code l words := by
  intro always
  have same := always _ _ _ load_homonym "bar" homonyms.2 none
  have judged : (loadedHomonym.confidence "bar" homonyms.2 none).toOption = some zero := by
    decide +kernel
  have own : (bare.confidence "bar" homonyms.2 none).toOption = some (ofNat 30) := by
    decide +kernel
  rw [same, own] at judged
  exact absurd judged (by decide +kernel)

/-! ### Sources that are no expressions -/

theorem definitionOf_map_readable (languages : List Language) (name : String) :
    definitionOf (languages.map readable) name = (definitionOf languages name).map readable := by
  unfold definitionOf
  rw [List.filter_map, List.getLast?_map]
  rfl

theorem judgedBy_map_readable (languages : List Language) (l : Language) :
    judgedBy (languages.map readable) (readable l) = readable (judgedBy languages l) := by
  have counts : definitionOf (languages.map readable) (lower (readable l).name) =
      (definitionOf languages (lower l.name)).map readable := definitionOf_map_readable languages _
  rw [judgedBy, judgedBy, counts]
  cases definitionOf languages (lower l.name) <;> rfl

theorem exists_load_iff_unbroken {languages : List Language} (allowed : List String) :
    (∃ f, load languages allowed = .ok f) ↔
      ∀ name l, definitionOf languages name = some l → Unbroken l.patterns := by
  rw [exists_load_iff]
  constructor
  · intro readable name l counts
    obtain ⟨regexes, read⟩ := readable name l counts
    exact (regexesOf_eq_ok_iff.mp read).1
  · intro unbroken name l counts
    exact ⟨_, regexesOf_eq_ok_iff.mpr ⟨unbroken name l counts, rfl⟩⟩

theorem exists_load_readable (languages : List Language) (allowed : List String) :
    ∃ f, load (languages.map readable) allowed = .ok f := by
  rw [exists_load_iff_unbroken]
  intro name l counts
  rw [definitionOf_map_readable] at counts
  obtain ⟨known, -, rfl⟩ := Option.map_eq_some_iff.mp counts
  exact unbroken_readable known

theorem confidence_bare_readable_iff (code : Snippet) (l : Language) (words : Option (List String)) :
    bare.confidence code (readable l) words = bare.confidence code l words ↔
      Unbroken l.patterns ∧ SameShare code.text
        ((expressions l.patterns).take maxSources) (tried l.patterns) := by
  rw [← tried_readable]
  exact confidence_bare_eq_iff (unbroken_readable l) l.patterns code l words

/-- Loading fails only on a source that breaks it off, and never without the sources that are no
expressions. A language is judged alike with them and without them exactly when none breaks off the
reading and the same share matches of the expressions among the first eight sources and of the first
eight expressions. So it is where all of the first eight sources are expressions, or none of the
others is. -/
theorem confidence_readable_of_load (languages : List Language) (allowed : List String) :
    (∃ g, load (languages.map readable) allowed = .ok g) ∧
    ((∃ f, load languages allowed = .ok f) ↔
      ∀ name l, definitionOf languages name = some l → Unbroken l.patterns) ∧
    ∀ f g, load languages allowed = .ok f → load (languages.map readable) allowed = .ok g →
      ∀ code l words, let sources := (judgedBy languages l).patterns
        (g.confidence code (readable l) words = f.confidence code l words ↔
          Unbroken sources ∧ SameShare code.text
            ((expressions sources).take maxSources) (tried sources)) ∧
        (Unbroken sources → Unspent sources →
          g.confidence code (readable l) words = f.confidence code l words) := by
  refine ⟨exists_load_readable languages allowed, exists_load_iff_unbroken allowed, ?_⟩
  intro f g loads loadsReadable code l words sources
  have alike : g.confidence code (readable l) words = f.confidence code l words ↔
      Unbroken sources ∧ SameShare code.text
        ((expressions sources).take maxSources) (tried sources) := by
    rw [confidence_eq_judgedBy loads, confidence_eq_judgedBy loadsReadable, judgedBy_map_readable]
    exact confidence_bare_readable_iff code (judgedBy languages l) words
  refine ⟨alike, fun unbroken unspent => alike.mpr ⟨unbroken, ?_⟩⟩
  rw [← tried_readable, (tried_readable_eq_iff _).mpr unspent]
  rfl

/-- A language of whose two sources the first is no expression. -/
def halfReadable : Language := { name := "alpha", patterns := ["foo(", "bar\\d"] }

theorem confidence_readable_of_load_half :
    ∃ f g, load [halfReadable] [] = .ok f ∧ load [readable halfReadable] [] = .ok g ∧
      g.confidence "bar1" (readable halfReadable) none = f.confidence "bar1" halfReadable none := by
  obtain ⟨⟨g, loadsReadable⟩, -, alike⟩ := confidence_readable_of_load [halfReadable] []
  have loads := load_singleton (l := halfReadable) (by decide) []
  have judged := alike _ g loads loadsReadable "bar1" halfReadable none
  exact ⟨_, g, loads, loadsReadable, judged.2 (by decide) (by decide)⟩

/-- A language that spends every slot on a source that is no expression. -/
def spent : Language :=
  { name := "alpha", patterns := List.replicate maxSources "(" ++ ["bar"] }

theorem not_confidence_readable : ¬ ∀ languages allowed f g, load languages allowed = .ok f →
    load (languages.map readable) allowed = .ok g → ∀ code l words,
      g.confidence code (readable l) words = f.confidence code l words := by
  intro always
  have loads := load_singleton (l := spent) (by decide) []
  have loadsReadable := load_singleton (unbroken_readable spent) []
  have same := always _ _ _ _ loads loadsReadable "bar" spent none
  rw [confidence_eq_judgedBy loads, confidence_eq_judgedBy loadsReadable] at same
  have judged : (bare.confidence "bar" (judgedBy [spent] spent) none).toOption = some zero := by
    decide +kernel
  have judgedToo : (bare.confidence "bar" (judgedBy [readable spent] (readable spent))
      none).toOption = some (ofNat 30) := by decide +kernel
  rw [same, judged] at judgedToo
  exact absurd judgedToo (by decide +kernel)

end SnippetDetect.Fingerprints
