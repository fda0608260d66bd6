import SnippetDetect.Proofs.Detector.Answers
import SnippetDetect.Proofs.Detector.Loading
import SnippetDetect.Proofs.Number.Magnitude

/-!
The ranking of languages by their fingerprints.

Scores are finite numbers that are not negative (`upTo_score`), so the stable sort of languages that
stand in the order of their names is strict (`outranks_ranking`): the better score goes first, and
of equal scores the lesser name. A strict order and what is in it make the ranking, so neither the
order of the definitions nor a narrower allow-list moves anything in it, and the answer to a snippet
is the first of it or none at all (`ranking_of_load`).
-/

namespace SnippetDetect

open SnippetDetect.Text SnippetDetect.Binary64

namespace Fingerprints

/-! ### Scores are bounded -/

theorem upTo_full : UpTo 7 full := upTo_ofRatio (by decide) (by decide) (by decide)

theorem upTo_share {part whole : Nat} (le : part ≤ whole) (pos : 0 < whole) :
    UpTo 7 (share part whole) :=
  (upTo_part pos le).mul upTo_full (by decide)

theorem isNonneg_share (part whole : Nat) : IsNonneg (share part whole) := by
  obtain ⟨units, finite, -⟩ := upTo_full
  have positive : units.count ≠ 0 := by
    intro empty
    have above : zero.lt full = true := by decide +kernel
    rw [finite] at above
    simp [zero, Binary64.lt, place?, Place.before, signed, empty, Units.none] at above
  rw [share, finite]
  exact (isNonneg_ofUnitRatio _ _).mul_finite positive

section Scores

variable (words : List String) (text : Array Point)

/-- Past the cap a share may exceed the whole, and is cut. -/
theorem upTo_wordScore (candidates : List String) (cap : Option Nat) :
    UpTo 7 (wordScore words candidates cap) := by
  unfold wordScore
  split
  · exact upTo_zero
  · exact upTo_min upTo_full (isNonneg_share _ _)

theorem upTo_regexScore (regexes : List Regex) : UpTo 7 (regexScore text regexes) := by
  unfold regexScore
  split
  · exact upTo_zero
  · next some =>
    apply upTo_share (List.length_filter_le _ _)
    rwa [List.length_pos_iff, ne_eq, ← List.isEmpty_iff]

theorem upTo_commentScore (comments : CommentStyle) : UpTo 7 (commentScore text comments) := by
  unfold commentScore
  dsimp only
  split
  · exact upTo_zero
  · next some =>
    refine UpTo.divNat ?_ (List.length_pos_iff.mpr ?_) (by decide)
    · apply upTo_ofRatio Nat.one_pos (by decide)
      have passed := (List.length_filter_le (fun check : Bool × Bool => check.2) _).trans
        (List.length_filter_le (fun check : Bool × Bool => check.1)
          [(!comments.line.isEmpty, hasLineComment text comments.line),
            (!comments.block.isEmpty, hasBlockComment text.toList comments.block)])
      exact (Nat.mul_le_mul_left 50 passed).trans (by decide : 50 * 2 ≤ 2 ^ 7 * 1)
    · rwa [ne_eq, ← List.isEmpty_iff]

/-- No weight is above one. -/
theorem upTo_weights : UpTo 0 keywordWeight ∧ UpTo 0 regexWeight ∧ UpTo 0 importWeight ∧
    UpTo 0 builtinWeight ∧ UpTo 0 commentWeight :=
  ⟨upTo_part (by decide) (by decide), upTo_part (by decide) (by decide),
    upTo_part (by decide) (by decide), upTo_part (by decide) (by decide),
    upTo_part (by decide) (by decide)⟩

/-- Every sum may take one power of two more. -/
theorem upTo_sums {a b c d e : Binary64} (boundA : UpTo 7 a) (boundB : UpTo 7 b)
    (boundC : UpTo 7 c) (boundD : UpTo 7 d) (boundE : UpTo 7 e) :
    UpTo 8 (a.add b) ∧ UpTo 9 ((a.add b).add c) ∧ UpTo 10 (((a.add b).add c).add d) ∧
      UpTo 11 ((((a.add b).add c).add d).add e) := by
  have two := boundA.add boundB (by decide)
  have three := two.add (boundC.mono (by decide)) (by decide)
  have four := three.add (boundD.mono (by decide)) (by decide)
  exact ⟨two, three, four, four.add (boundE.mono (by decide)) (by decide)⟩

/-- The five terms of a score. -/
theorem upTo_terms (regexes : List Regex) (l : Language) :
    UpTo 7 ((wordScore words l.keywords (some keywordCap)).mul keywordWeight) ∧
    UpTo 7 ((regexScore text regexes).mul regexWeight) ∧
    UpTo 7 ((wordScore words l.imports none).mul importWeight) ∧
    UpTo 7 ((wordScore words l.builtins (some builtinCap)).mul builtinWeight) ∧
    UpTo 7 ((commentScore text l.comments).mul commentWeight) := by
  obtain ⟨ofKeyword, ofRegex, ofImport, ofBuiltin, ofComment⟩ := upTo_weights
  have weighted {points weight : Binary64} (bounded : UpTo 7 points) (light : UpTo 0 weight) :
      UpTo 7 (points.mul weight) := bounded.mul light (by decide)
  exact ⟨weighted (upTo_wordScore _ _ _) ofKeyword, weighted (upTo_regexScore _ _) ofRegex,
    weighted (upTo_wordScore _ _ _) ofImport, weighted (upTo_wordScore _ _ _) ofBuiltin,
    weighted (upTo_commentScore _ _) ofComment⟩

theorem upTo_score (regexes : List Regex) (l : Language) :
    UpTo 11 (score text words regexes l) := by
  obtain ⟨keywords, patterns, imports, builtins, comments⟩ := upTo_terms words text regexes l
  exact (upTo_sums keywords patterns imports builtins comments).2.2.2

end Scores

/-! ### The order of a ranking -/

/-- Whether a scored language goes before another: its score is better, or the same and its name is
the lesser. -/
def Outranks (a b : String × Binary64) : Prop := b.2.lt a.2 = true ∨ a.2 = b.2 ∧ a.1 < b.1

theorem Outranks.asymm {a b : String × Binary64} (first : Outranks a b) : ¬ Outranks b a := by
  intro second
  rcases first with better | ⟨level, lesser⟩
  · rcases second with worse | ⟨level, -⟩
    · rw [Binary64.lt_asymm better] at worse
      cases worse
    · rw [level, Binary64.lt_irrefl] at better
      cases better
  · rcases second with worse | ⟨-, greater⟩
    · rw [level, Binary64.lt_irrefl] at worse
      cases worse
    · exact String.lt_asymm lesser greater

theorem Outranks.le {a b : String × Binary64} {k l : Nat} (outranks : Outranks a b)
    (boundedA : UpTo k a.2) (boundedB : UpTo l b.2) : b.2.le a.2 = true := by
  have placedA := boundedA.isSome_place?
  rcases outranks with better | ⟨level, -⟩
  · have le : b.2.le a.2 = !a.2.lt b.2 := Number.le_eq_not_lt boundedB.isSome_place? placedA
    rw [le, Binary64.lt_asymm better]
    rfl
  · rw [← level]
    exact Number.le_self placedA

/-- A strict order is known by what is in it. -/
theorem ranked_ext {xs ys : List (String × Binary64)} (ranked : xs.Pairwise Outranks)
    (rankedToo : ys.Pairwise Outranks) (same : ∀ pair, pair ∈ xs ↔ pair ∈ ys) : xs = ys := by
  have antisymm : Std.Antisymm Outranks := ⟨fun _ _ first second => absurd second first.asymm⟩
  have irrefl : Std.Irrefl Outranks := ⟨fun _ self => self.asymm self⟩
  exact ranked.eq_of_mem_iff rankedToo same

/-- The allowed languages that score at all, in the order of their names. -/
def scores (f : Fingerprints) (code : Snippet) : List (String × Binary64) :=
  ((f.loaded.filter fun entry => f.allows entry.1).map fun entry => (entry.1,
    score code.text (wordsOf code) entry.2.regexes entry.2.language)).filter
      fun pair => zero.lt pair.2

theorem ranking_eq (f : Fingerprints) (code : Snippet) :
    f.ranking code = (f.scores code).mergeSort fun a b => (Number.float b.2).le (.float a.2) := rfl

section Ranking

variable {languages : List Language} {allowed : List String} {f : Fingerprints}

theorem upTo_of_mem_scores {code : Snippet} {pair : String × Binary64}
    (mem : pair ∈ f.scores code) : UpTo 11 pair.2 := by
  obtain ⟨entry, -, rfl⟩ := List.mem_map.mp (List.mem_filter.mp mem).1
  exact upTo_score _ _ _ _

theorem upTo_of_mem_ranking {code : Snippet} {pair : String × Binary64}
    (mem : pair ∈ f.ranking code) : UpTo 11 pair.2 := by
  rw [ranking_eq, List.mem_mergeSort] at mem
  exact upTo_of_mem_scores mem

theorem ascending_scores (loads : load languages allowed = .ok f) (code : Snippet) :
    Ascending (f.scores code) := by
  apply List.Pairwise.filter
  rw [List.pairwise_map]
  exact (ascending_loaded loads).filter _

/-- The ranking is in a strict order. -/
theorem outranks_ranking (loads : load languages allowed = .ok f) (code : Snippet) :
    (f.ranking code).Pairwise Outranks := by
  have placed : ∀ pair ∈ f.scores code, (Number.float pair.2).place?.isSome = true :=
    fun pair mem => (upTo_of_mem_scores mem).isSome_place?
  have sorted := Number.pairwise_falling placed (ascending_scores loads code)
  rw [ranking_eq]
  apply sorted.imp_of_mem
  rintro a b memA memB ⟨notBelow, inOrder⟩
  rw [List.mem_mergeSort] at memA memB
  rw [Number.le_eq_not_lt (placed b memB) (placed a memA), Bool.not_eq_true'] at notBelow
  rw [Number.le_eq_not_lt (placed a memA) (placed b memB), Bool.not_eq_true'] at inOrder
  cases better : b.2.lt a.2 with
  | true => exact .inl better
  | false =>
    right
    constructor
    · exact (upTo_of_mem_scores memA).eq_of_not_lt (upTo_of_mem_scores memB) notBelow better
    · exact inOrder better

/-- The ranking of a snippet: the allowed languages that score at all, each with its score and once,
the best first and equal ones in the order of their names. -/
structure IsRanking (languages : List Language) (f : Fingerprints) (code : Snippet)
    (ranking : List (String × Binary64)) : Prop where
  mem_iff : ∀ name points, (name, points) ∈ ranking ↔
    f.allows name = true ∧ zero.lt points = true ∧
      ∃ l, definitionOf languages name = some l ∧ f.confidence code l none = .ok points
  nodup : (entryNames ranking).Nodup
  strict : ranking.Pairwise Outranks

theorem nodup_ranking (loads : load languages allowed = .ok f) (code : Snippet) :
    (entryNames (f.ranking code)).Nodup := by
  have sorted := List.mergeSort_perm (f.scores code) fun a b =>
    (Number.float b.2).le (.float a.2)
  exact nodup_entryNames_of_perm sorted (ascending_scores loads code).nodup

/-- A loaded definition is judged by its own expressions. -/
theorem confidence_of_mem (loads : load languages allowed = .ok f) {entry : String × Loaded}
    (mem : entry ∈ f.loaded) (code : Snippet) :
    f.confidence code entry.2.language none =
      .ok (score code.text (wordsOf code) entry.2.regexes entry.2.language) := by
  obtain ⟨-, lowered⟩ := definitionOf_spec ((mem_loaded_iff loads).mp mem).1
  have found : f.loaded.lookup (lower entry.2.language.name) = some entry.2 := by
    rw [lowered]
    exact valueOf?_of_mem (ascending_loaded loads).nodup mem
  rw [confidence, found]
  rfl

/-- What is ranked: the allowed languages that score at all, with their scores. -/
theorem mem_ranking_iff (loads : load languages allowed = .ok f) {code : Snippet} {name : String}
    {points : Binary64} :
    (name, points) ∈ f.ranking code ↔
      f.allows name = true ∧ zero.lt points = true ∧
        ∃ l, definitionOf languages name = some l ∧ f.confidence code l none = .ok points := by
  rw [ranking_eq, List.mem_mergeSort, scores, List.mem_filter, List.mem_map]
  constructor
  · rintro ⟨⟨entry, mem, same⟩, positive⟩
    cases same
    rw [List.mem_filter] at mem
    exact ⟨mem.2, positive, entry.2.language, ((mem_loaded_iff loads).mp mem.1).1,
      confidence_of_mem loads mem.1 code⟩
  · rintro ⟨allows, positive, l, counts, judged⟩
    obtain ⟨regexes, mem⟩ := exists_mem_loaded loads counts
    have own := confidence_of_mem loads mem code
    rw [judged] at own
    cases own
    exact ⟨⟨_, List.mem_filter.mpr ⟨mem, allows⟩, rfl⟩, positive⟩

/-- Under a narrower allow-list, the languages that stay keep their scores and their order. -/
theorem ranking_setAllowed (loads : load languages allowed = .ok f) {other : List String}
    (narrower : ∀ name, (f.setAllowed other).allows name = true → f.allows name = true)
    (code : Snippet) :
    (f.setAllowed other).ranking code =
      (f.ranking code).filter fun pair => (f.setAllowed other).allows pair.1 := by
  have loadsToo := load_setAllowed loads other
  apply ranked_ext (outranks_ranking loadsToo code) ((outranks_ranking loads code).filter _)
  rintro ⟨name, points⟩
  rw [List.mem_filter, mem_ranking_iff loads, mem_ranking_iff loadsToo]
  constructor
  · rintro ⟨stays, scored⟩
    exact ⟨⟨narrower name stays, scored⟩, stays⟩
  · rintro ⟨⟨-, scored⟩, stays⟩
    exact ⟨stays, scored⟩

end Ranking

end Fingerprints

namespace Detector

open Fingerprints

section Answers

variable {languages : List Language} {allowed : List String} {f : Fingerprints} {d : Detector}

/-- A score at least as good as one that clears the gate clears it. -/
theorem clears_of_le {points better : Binary64} {k l : Nat} (bounded : UpTo k points)
    (boundedToo : UpTo l better) (le : points.le better = true)
    (clears : d.clears (.float points) = true) : d.clears (.float better) = true :=
  Number.le_trans clears (bounded.roundPlaces_mono boundedToo le 6)

/-- A named language whose bounded score clears the gate is an answer. -/
theorem answer?_of_clears {language : String} (named : language ≠ "") {points : Binary64}
    {k : Nat} (bounded : UpTo k points) (small : k + 1 < 1024)
    (clears : d.clears (.float points) = true) :
    ∃ n inRange, confidenceOf (.float points) = .ok n ∧
      d.answer? language points = some ⟨language, .int n, d.name, named, inRange⟩ := by
  obtain ⟨n, confidence⟩ := exists_confidenceOf bounded small
  obtain ⟨inRange, answer⟩ := answer?_of_confidence named clears confidence
  exact ⟨n, inRange, confidence, answer⟩

/-- How a detector answers from a ranking: with its first language when any clears the gate. -/
structure AnswersBest (d : Detector) (code : Snippet) (ranking : List (String × Binary64)) :
    Prop where
  first : (∃ pair ∈ ranking, d.clears (.float pair.2) = true) →
    ∃ language points rest n named inRange, ranking = (language, points) :: rest ∧
      d.clears (.float points) = true ∧ confidenceOf (.float points) = .ok n ∧
        d.detect code = (.ok (some ⟨language, .int n, d.name, named, inRange⟩), d)
  none : (∀ pair ∈ ranking, d.clears (.float pair.2) = false) → d.detect code = (.ok none, d)

theorem detect_of_fingerprints (strategy : d.strategy = .fingerprints f) {code : Snippet}
    (notBlank : code.isBlank = false) :
    d.detect code =
      (.ok ((f.ranking code).head?.bind fun pair => d.answer? pair.1 pair.2), d) := by
  rw [detect, strategy]
  simp only [notBlank, Bool.false_eq_true, if_false]

theorem name_ne_empty_of_mem_ranking (loads : load languages allowed = .ok f)
    (named : ∀ l ∈ languages, l.name ≠ "") {code : Snippet} {pair : String × Binary64}
    (mem : pair ∈ f.ranking code) : pair.1 ≠ "" := by
  obtain ⟨-, -, l, counts, -⟩ := (mem_ranking_iff loads).mp mem
  exact name_ne_empty_of_definitionOf named counts

theorem answersBest (loads : load languages allowed = .ok f)
    (named : ∀ l ∈ languages, l.name ≠ "") (strategy : d.strategy = .fingerprints f)
    {code : Snippet} (notBlank : code.isBlank = false) :
    d.AnswersBest code (f.ranking code) := by
  have detected := detect_of_fingerprints strategy notBlank
  have ordered := outranks_ranking loads code
  have bounded : ∀ pair ∈ f.ranking code, UpTo 11 pair.2 := fun _ => upTo_of_mem_ranking
  have namedPair : ∀ pair ∈ f.ranking code, pair.1 ≠ "" :=
    fun _ => name_ne_empty_of_mem_ranking loads named
  cases ranking : f.ranking code with
  | nil =>
    rw [ranking] at detected
    exact ⟨fun ⟨_, mem, _⟩ => absurd mem List.not_mem_nil, fun _ => detected⟩
  | cons best rest =>
    rw [ranking] at detected ordered bounded namedPair
    have memBest : best ∈ best :: rest := List.mem_cons_self
    constructor
    · rintro ⟨pair, mem, clears⟩
      have clearsBest : d.clears (.float best.2) = true := by
        rcases List.mem_cons.mp mem with rfl | later
        · exact clears
        · apply clears_of_le (bounded pair mem) (bounded best memBest) ?_ clears
          exact ((List.pairwise_cons.mp ordered).1 pair later).le (bounded best memBest)
            (bounded pair mem)
      obtain ⟨n, inRange, confidence, answer⟩ :=
        answer?_of_clears (namedPair best memBest) (bounded best memBest) (by decide) clearsBest
      refine ⟨best.1, best.2, rest, n, namedPair best memBest, inRange, rfl, clearsBest,
        confidence, ?_⟩
      rw [detected]
      exact congrArg (fun outcome => (Except.ok outcome, d)) answer
    · intro fails
      rw [detected]
      have silent : d.answer? best.1 best.2 = Option.none := by
        rw [answer?, fails best memBest]
        rfl
      exact congrArg (fun outcome => (Except.ok outcome, d)) silent

/-- A language that a detector answers with is one it accepts. -/
theorem accepts_of_detect (loads : load languages allowed = .ok f)
    (named : ∀ l ∈ languages, l.name ≠ "") (strategy : d.strategy = .fingerprints f)
    {code : Snippet} {answer : Detection} (answered : (d.detect code).1 = .ok (some answer)) :
    d.accepts answer.language = true := by
  cases blank : code.isBlank with
  | true =>
    rw [detect, strategy] at answered
    simp [blank] at answered
  | false =>
    have best := answersBest loads named strategy blank
    by_cases some : ∃ pair ∈ f.ranking code, d.clears (.float pair.2) = true
    · obtain ⟨language, points, rest, n, _, _, ranking, -, -, detected⟩ := best.first some
      rw [detected] at answered
      cases answered
      have mem : (language, points) ∈ f.ranking code := ranking ▸ List.mem_cons_self
      rw [accepts, strategy]
      exact ((mem_ranking_iff loads).mp mem).1
    · have fails : ∀ pair ∈ f.ranking code, d.clears (.float pair.2) = false := by
        intro pair mem
        rw [← Bool.not_eq_true]
        exact fun clears => some ⟨pair, mem, clears⟩
      rw [best.none fails] at answered
      cases answered

end Answers

/-- Languages are loaded unless an expression cannot be read. Then their ranking is that of the
definitions that count, the detector answers with its first or not at all and only what it accepts,
definitions in another order are loaded alike, and a narrower allow-list only leaves some out. -/
theorem ranking_of_load {languages : List Language} (named : ∀ l ∈ languages, l.name ≠ "")
    (allowed : List String) :
    ((∃ f, load languages allowed = .ok f) ↔
      ∀ name l, definitionOf languages name = some l → ∃ regexes, regexesOf l = .ok regexes) ∧
    ∀ f, load languages allowed = .ok f → ∀ code,
      IsRanking languages f code (f.ranking code) ∧
      (∀ d : Detector, d.strategy = .fingerprints f →
        (code.isBlank = false → d.AnswersBest code (f.ranking code)) ∧
        ∀ answer, (d.detect code).1 = .ok (some answer) → d.accepts answer.language = true) ∧
      (∀ others, (∀ name, definitionOf others name = definitionOf languages name) →
        load others allowed = .ok f) ∧
      (∀ others, others.Perm languages → (languages.map fun l => lower l.name).Nodup →
        load others allowed = .ok f) ∧
      ∀ other, (∀ name, (f.setAllowed other).allows name = true → f.allows name = true) →
        load languages other = .ok (f.setAllowed other) ∧
        (f.setAllowed other).ranking code =
          (f.ranking code).filter fun pair => (f.setAllowed other).allows pair.1 := by
  refine ⟨exists_load_iff, fun f loads code => ⟨?_, ?_, ?_, ?_, ?_⟩⟩
  · exact {
      mem_iff := fun _ _ => mem_ranking_iff loads
      nodup := nodup_ranking loads code
      strict := outranks_ranking loads code }
  · intro d strategy
    exact ⟨answersBest loads named strategy, fun _ => accepts_of_detect loads named strategy⟩
  · intro others same
    rw [load_congr same]
    exact loads
  · intro others same distinct
    rw [load_congr (definitionOf_perm same distinct)]
    exact loads
  · intro other narrower
    exact ⟨load_setAllowed loads other, ranking_setAllowed loads narrower code⟩

/-- Two languages that nothing but their names tells apart. -/
def twins : List Language :=
  [{ name := "alpha", keywords := ["let"] }, { name := "Beta", keywords := ["let"] }]

/-- The twins as they are loaded. -/
def loadedTwins : Fingerprints where
  loaded := [("alpha", ⟨{ name := "alpha", keywords := ["let"] }, []⟩),
    ("beta", ⟨{ name := "Beta", keywords := ["let"] }, []⟩)]
  allowed := []

theorem load_twins : load twins [] = .ok loadedTwins := by
  have entries : byName twins = loadedTwins.loaded.map definition :=
    List.mergeSort_of_pairwise (by decide)
  exact load_eq_ok_iff.mpr ⟨entries, by simp [loadedTwins, IsRead, regexesOf, readSources], rfl⟩

theorem ranking_twins : loadedTwins.ranking "let x" =
    [("alpha", Binary64.ofNat 40), ("beta", Binary64.ofNat 40)] := by
  have scored : loadedTwins.scores "let x" =
      [("alpha", Binary64.ofNat 40), ("beta", Binary64.ofNat 40)] := by decide +kernel
  rw [ranking_eq, scored]
  exact List.mergeSort_of_pairwise (by decide +kernel)

/-- A detector that compares a snippet with the twins. -/
def tellingTwins : Detector where
  name := "twins"
  displayName := ""
  description := ""
  gate := Binary64.ofRatio false 3 10
  strategy := .fingerprints loadedTwins

/-- Its answer where both twins score. -/
def firstTwin : Detection := .ofPoints "alpha" 40 "twins"

/-- The lesser name wins in whatever order the twins come, unless it is not allowed. -/
theorem ranking_of_load_twins :
    load twins.reverse [] = .ok loadedTwins ∧
    tellingTwins.detect "let x" = (.ok (some firstTwin), tellingTwins) ∧
    (loadedTwins.setAllowed ["BETA"]).ranking "let x" = [("beta", Binary64.ofNat 40)] := by
  obtain ⟨-, loaded⟩ := @ranking_of_load twins (by decide) []
  obtain ⟨-, answers, -, reordered, narrowed⟩ := loaded loadedTwins load_twins "let x"
  refine ⟨reordered _ (List.reverse_perm twins) (by decide), ?_, ?_⟩
  · have best := (answers tellingTwins rfl).1 (by decide)
    rw [ranking_twins] at best
    obtain ⟨language, points, rest, n, _, _, ranking, -, confidence, detected⟩ := best.first
      ⟨_, List.mem_cons_self, by decide +kernel⟩
    cases ranking
    have forty : confidenceOf (.float (Binary64.ofNat 40)) = .ok 40 := by decide +kernel
    rw [forty] at confidence
    cases confidence
    exact detected
  · rw [(narrowed ["BETA"] (fun _ _ => rfl)).2, ranking_twins]
    decide +kernel

end Detector

end SnippetDetect
