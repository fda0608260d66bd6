import SnippetDetect.Proofs.Detector.Ranking
import SnippetDetect.Proofs.Number.Separation

/-!
The sources of a language, and what a score tells of them.

Of the first eight sources those that are expressions are kept, and the others are left out unless
one breaks off the reading (`regexesOf_eq_ok_iff`). To leave out all that are no expressions before
the cut makes room for later ones (`tried_readable`), which changes what is kept unless there is
nothing to leave out before the cut or nothing to keep after it (`tried_readable_eq_iff`).

A score tells what share of the expressions matches. Shares of at most eight are so far apart that
rounding does not make two of them one, whatever the other sub-scores add (`score_eq_iff`).
-/

namespace SnippetDetect.Fingerprints

open SnippetDetect.Binary64

/-! ### Sources -/

/-- The expression that a source is, if it is one. -/
def compiled? (source : String) : Option Regex := (Regex.parse options source).toOption

/-- Whether a source breaks off the reading instead of being left out. -/
def Breaks (source : String) : Prop :=
  ∃ refusal, Regex.parse options source = .error refusal ∧ refusal ≠ .malformed

instance (source : String) : Decidable (Breaks source) :=
  match parsed : Regex.parse options source with
  | .ok _ => .isFalse fun ⟨_, refused, _⟩ => nomatch parsed.symm.trans refused
  | .error refusal => decidable_of_iff (refusal ≠ .malformed) (by simp [Breaks, parsed])

/-- The expressions among sources. -/
def expressions (sources : List String) : List Regex := sources.filterMap compiled?

/-- The expressions that a language with these sources is judged by. -/
def tried (sources : List String) : List Regex := expressions (sources.take maxSources)

/-- No source that is looked at breaks off the reading. -/
def Unbroken (sources : List String) : Prop := ∀ source ∈ sources.take maxSources, ¬ Breaks source

instance (sources : List String) : Decidable (Unbroken sources) :=
  inferInstanceAs (Decidable (∀ source ∈ sources.take maxSources, ¬ Breaks source))

/-- A language without the sources that are no expressions. -/
def readable (l : Language) : Language :=
  { l with patterns := l.patterns.filter fun source => (compiled? source).isSome }

/-- Every source that is looked at is an expression, or none that is not looked at is one. -/
def Unspent (sources : List String) : Prop :=
  (∀ source ∈ sources.take maxSources, (compiled? source).isSome) ∨
    ∀ source ∈ sources.drop maxSources, (compiled? source).isNone

instance (sources : List String) : Decidable (Unspent sources) :=
  inferInstanceAs (Decidable (_ ∨ _))

theorem not_breaks_of_isSome {source : String} (compiles : (compiled? source).isSome) :
    ¬ Breaks source := by
  rintro ⟨refusal, refused, -⟩
  simp [compiled?, refused, Except.toOption] at compiles

theorem expressions_cons (source : String) (rest : List String) :
    expressions (source :: rest) = (compiled? source).toList ++ expressions rest := by
  rw [expressions, List.filterMap_cons]
  cases compiled? source <;> rfl

theorem readSources_cons {source : String} (keeps : ¬ Breaks source) (rest : List String) :
    readSources (source :: rest) = (readSources rest).map ((compiled? source).toList ++ ·) := by
  rw [readSources, compiled?]
  cases parsed : Regex.parse options source with
  | ok regex => rfl
  | error refusal =>
    by_cases malformed : refusal = .malformed
    · rw [malformed]
      cases readSources rest <;> rfl
    · exact absurd ⟨refusal, parsed, malformed⟩ keeps

theorem readSources_cons_of_breaks {source : String} (breaks : Breaks source) (rest : List String)
    (regexes : List Regex) : readSources (source :: rest) ≠ .ok regexes := by
  obtain ⟨refusal, refused, notMalformed⟩ := breaks
  rw [readSources, refused]
  intro read
  cases refusal with
  | malformed => exact notMalformed rfl
  | _ => cases read

theorem readSources_eq_ok_iff {sources : List String} {regexes : List Regex} :
    readSources sources = .ok regexes ↔
      (∀ source ∈ sources, ¬ Breaks source) ∧ regexes = expressions sources := by
  induction sources generalizing regexes with
  | nil =>
    constructor
    · rintro ⟨⟩
      exact ⟨fun _ mem => absurd mem List.not_mem_nil, rfl⟩
    · rintro ⟨-, rfl⟩
      rfl
  | cons source rest ih =>
    rw [List.forall_mem_cons]
    by_cases breaks : Breaks source
    · constructor
      · exact fun read => absurd read (readSources_cons_of_breaks breaks rest regexes)
      · exact fun unbroken => absurd breaks unbroken.1.1
    · rw [readSources_cons breaks, expressions_cons]
      constructor
      · intro read
        cases tail : readSources rest with
        | error refusal =>
          rw [tail] at read
          cases read
        | ok others =>
          rw [tail] at read
          cases read
          obtain ⟨unbroken, rfl⟩ := ih.mp tail
          exact ⟨⟨breaks, unbroken⟩, rfl⟩
      · rintro ⟨⟨-, unbroken⟩, rfl⟩
        rw [ih.mpr ⟨unbroken, rfl⟩]
        rfl

theorem regexesOf_eq_ok_iff {l : Language} {regexes : List Regex} :
    regexesOf l = .ok regexes ↔ Unbroken l.patterns ∧ regexes = tried l.patterns :=
  readSources_eq_ok_iff

theorem length_tried_le (sources : List String) : (tried sources).length ≤ maxSources :=
  (List.length_filterMap_le _ _).trans (List.length_take_le _ _)

/-! ### Sources that are no expressions -/

theorem unbroken_readable (l : Language) : Unbroken (readable l).patterns := by
  intro source mem
  exact not_breaks_of_isSome (List.mem_filter.mp (List.mem_of_mem_take mem)).2

theorem expressions_take_filter (sources : List String) (n : Nat) :
    expressions ((sources.filter fun source => (compiled? source).isSome).take n) =
      (expressions sources).take n := by
  induction sources generalizing n with
  | nil => simp [expressions]
  | cons source rest ih =>
    rw [expressions_cons]
    cases compiles : compiled? source with
    | none => simp [compiles, ih]
    | some regex =>
      cases n with
      | zero => simp [expressions]
      | succ n => simp [compiles, expressions_cons, ih]

/-- Without the sources that are no expressions, the cut takes the first eight expressions. -/
theorem tried_readable (l : Language) :
    tried (readable l).patterns = (expressions l.patterns).take maxSources :=
  expressions_take_filter l.patterns maxSources

theorem length_expressions_eq_iff {sources : List String} :
    (expressions sources).length = sources.length ↔
      ∀ source ∈ sources, (compiled? source).isSome := by
  induction sources with
  | nil => simp [expressions]
  | cons source rest ih =>
    have fewer : (expressions rest).length ≤ rest.length := List.length_filterMap_le _ _
    rw [expressions_cons, List.forall_mem_cons]
    cases compiled? source with
    | none =>
      simp only [Option.toList_none, List.nil_append, List.length_cons, Option.isSome_none,
        Bool.false_eq_true, false_and, iff_false]
      omega
    | some regex => simp [ih]

/-- To leave sources out before the cut changes nothing exactly when all that are looked at are
expressions or none of the others is. -/
theorem tried_readable_eq_iff (l : Language) :
    tried (readable l).patterns = tried l.patterns ↔ Unspent l.patterns := by
  have parts : expressions l.patterns =
      tried l.patterns ++ expressions (l.patterns.drop maxSources) := by
    rw [tried, expressions, expressions, expressions, ← List.filterMap_append,
      List.take_append_drop]
  have later : expressions (l.patterns.drop maxSources) = [] ↔
      ∀ source ∈ l.patterns.drop maxSources, (compiled? source).isNone := by
    simp only [expressions, List.filterMap_eq_nil_iff, Option.isNone_iff_eq_none]
  have short := length_tried_le l.patterns
  rw [tried_readable, parts, Unspent, ← length_expressions_eq_iff, ← later, ← tried]
  constructor
  · intro same
    have lengths := congrArg List.length same
    rw [List.length_take, List.length_append] at lengths
    by_cases none : expressions (l.patterns.drop maxSources) = []
    · exact .inr none
    · have some := List.length_pos_iff.mpr none
      have looked := List.length_take_le maxSources l.patterns
      have kept : (tried l.patterns).length ≤ (l.patterns.take maxSources).length :=
        List.length_filterMap_le _ _
      exact .inl (by omega)
  · rintro (full | none)
    · rcases Nat.le_total l.patterns.length maxSources with few | many
      · rw [List.drop_of_length_le few]
        simp [expressions, List.take_of_length_le short]
      · rw [List.length_take_of_le many] at full
        rw [← full, List.take_left]
    · rw [none, List.append_nil, List.take_of_length_le short]

/-! ### Shares -/

section Shares

variable {text : Array Text.Point} {regexes others : List Regex}

/-- How many of the expressions match somewhere. -/
def matched (text : Array Text.Point) (regexes : List Regex) : Nat :=
  (regexes.filter (·.occursIn text)).length

/-- The same share of both lists matches somewhere, none at all when a list is empty. -/
def SameShare (text : Array Text.Point) (regexes others : List Regex) : Prop :=
  matched text regexes * max 1 others.length = matched text others * max 1 regexes.length

instance : Decidable (SameShare text regexes others) :=
  inferInstanceAs (Decidable (_ = _))

theorem regexScore_eq (text : Array Text.Point) (regexes : List Regex) :
    regexScore text regexes = share (matched text regexes) (max 1 regexes.length) := by
  unfold regexScore
  split
  · next none =>
    rw [List.isEmpty_iff.mp none]
    exact (by decide +kernel : zero = share 0 1)
  · next some =>
    have pos : 1 ≤ regexes.length := by
      rwa [Nat.one_le_iff_ne_zero, ne_eq, List.length_eq_zero_iff, ← List.isEmpty_iff]
    rw [Nat.max_eq_right pos]
    rfl

/-- Shares of at most eight that are the same are the same score. -/
theorem share_congr : ∀ n < maxSources, ∀ m < n + 2, ∀ k < maxSources, ∀ l < k + 2,
    m * (k + 1) = l * (n + 1) → share m (n + 1) = share l (k + 1) := by
  decide +kernel

/-- Weighted shares of at most eight are far apart unless they are the same. -/
theorem apart_share : ∀ n < maxSources, ∀ m < n + 2, ∀ k < maxSources, ∀ l < k + 2,
    m * (k + 1) < l * (n + 1) →
      Apart 5 ((share m (n + 1)).mul regexWeight) ((share l (k + 1)).mul regexWeight) := by
  decide +kernel

/-- Each of the four other terms costs a step of the gap, and there are five. -/
theorem score_ne_of_apart (words : List String) (l : Language)
    (apart : Apart 5 ((regexScore text regexes).mul regexWeight)
      ((regexScore text others).mul regexWeight)) :
    score text words regexes l ≠ score text words others l := by
  obtain ⟨keywords, patterns, imports, builtins, comments⟩ := upTo_terms words text regexes l
  obtain ⟨-, patternsToo, -⟩ := upTo_terms words text others l
  obtain ⟨two, three, four, -⟩ := upTo_sums keywords patterns imports builtins comments
  obtain ⟨twoToo, threeToo, fourToo, -⟩ := upTo_sums keywords patternsToo imports builtins comments
  have withKeywords := apart.add (patterns.mono (by decide)) (patternsToo.mono (by decide))
    (keywords.mono (by decide))
  rw [add_comm _ ((wordScore _ _ _).mul _), add_comm _ ((wordScore _ _ _).mul _)] at withKeywords
  have withImports := withKeywords.add (two.mono (by decide)) (twoToo.mono (by decide))
    (imports.mono (by decide))
  have withBuiltins := withImports.add (three.mono (by decide)) (threeToo.mono (by decide))
    (builtins.mono (by decide))
  exact (withBuiltins.add four fourToo (comments.mono (by decide))).ne

/-- The numbers that a share is of. -/
theorem exists_whole (text : Array Text.Point) (short : regexes.length ≤ maxSources) :
    ∃ n < maxSources, max 1 regexes.length = n + 1 ∧ matched text regexes < n + 2 := by
  have fewer : matched text regexes ≤ regexes.length := List.length_filter_le _ _
  have top : 1 ≤ maxSources := by decide
  refine ⟨max 1 regexes.length - 1, ?_, ?_, ?_⟩ <;> omega

theorem apart_of_lt (short : regexes.length ≤ maxSources) (shortToo : others.length ≤ maxSources)
    (less : matched text regexes * max 1 others.length <
      matched text others * max 1 regexes.length) :
    Apart 5 ((regexScore text regexes).mul regexWeight)
      ((regexScore text others).mul regexWeight) := by
  obtain ⟨n, top, whole, part⟩ := exists_whole text short
  obtain ⟨k, topToo, wholeToo, partToo⟩ := exists_whole text shortToo
  rw [whole, wholeToo] at less
  rw [regexScore_eq, regexScore_eq, whole, wholeToo]
  exact apart_share n top _ part k topToo _ partToo less

theorem regexScore_congr (short : regexes.length ≤ maxSources)
    (shortToo : others.length ≤ maxSources) (same : SameShare text regexes others) :
    regexScore text regexes = regexScore text others := by
  obtain ⟨n, top, whole, part⟩ := exists_whole text short
  obtain ⟨k, topToo, wholeToo, partToo⟩ := exists_whole text shortToo
  rw [SameShare, whole, wholeToo] at same
  rw [regexScore_eq, regexScore_eq, whole, wholeToo]
  exact share_congr n top _ part k topToo _ partToo same

/-- All else equal, expressions score alike exactly when the same share of them matches. -/
theorem score_eq_iff (text : Array Text.Point) (words : List String) (l : Language)
    (short : regexes.length ≤ maxSources) (shortToo : others.length ≤ maxSources) :
    score text words regexes l = score text words others l ↔ SameShare text regexes others := by
  constructor
  · intro same
    rcases Nat.lt_trichotomy (matched text regexes * max 1 others.length)
      (matched text others * max 1 regexes.length) with less | level | more
    · exact absurd same (score_ne_of_apart words l (apart_of_lt short shortToo less))
    · exact level
    · exact absurd same.symm (score_ne_of_apart words l (apart_of_lt shortToo short more))
  · intro level
    rw [score, regexScore_congr short shortToo level]
    rfl

end Shares

end SnippetDetect.Fingerprints
