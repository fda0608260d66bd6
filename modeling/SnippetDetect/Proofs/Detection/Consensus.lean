import SnippetDetect.Proofs.Detection
import Mathlib.Data.List.Basic

/-!
The consensus of detections.

To be named more often, or as often and to be the lesser, is a linear order of languages (`Leads`),
and the consensus is its first element among the languages that are named. So it is the language
that none is named more often than, and the least of those; the order of the detections does not
matter (`consensus_most_named`).
-/

namespace SnippetDetect.Detection

section Leading

variable {names : List String} {a b c : String}

/-- A language goes before another: it is named more often, or as often and is not the greater. -/
def Leads (names : List String) (a b : String) : Prop :=
  names.count b < names.count a ∨ names.count b = names.count a ∧ a ≤ b

theorem Leads.refl (names : List String) (a : String) : Leads names a a := .inr ⟨rfl, String.le_refl a⟩

theorem Leads.trans (first : Leads names a b) (second : Leads names b c) : Leads names a c := by
  rcases first with more | ⟨level, le⟩
  · left
    rcases second with evenMore | ⟨level, -⟩ <;> omega
  · rcases second with more | ⟨levelToo, leToo⟩
    · left
      omega
    · exact .inr ⟨levelToo.trans level, String.le_trans le leToo⟩

theorem Leads.antisymm (first : Leads names a b) (second : Leads names b a) : a = b := by
  rcases first with more | ⟨level, le⟩
  · rcases second with less | ⟨level, -⟩ <;> omega
  · rcases second with less | ⟨-, ge⟩
    · omega
    · exact String.le_antisymm le ge

/-- Of two languages the one that leads both is preferred. -/
theorem preferred_leads (names : List String) (a b : String) :
    (preferred names a b = a ∨ preferred names a b = b) ∧
      Leads names (preferred names a b) a ∧ Leads names (preferred names a b) b := by
  unfold preferred
  dsimp only
  split
  · next better =>
    refine ⟨.inr rfl, ?_, .refl names b⟩
    rcases better with more | ⟨level, less⟩
    · exact .inl more
    · exact .inr ⟨level, String.not_lt.mp (String.lt_asymm less)⟩
  · next worse =>
    refine ⟨.inl rfl, .refl names a, ?_⟩
    rcases Nat.lt_trichotomy (names.count b) (names.count a) with more | level | less
    · exact .inl more
    · refine .inr ⟨level, String.not_lt.mp ?_⟩
      intro lesser
      exact worse (.inr ⟨level.symm, lesser⟩)
    · exact absurd (.inl less) worse

/-- What is preferred among languages is one of them, and leads them all. -/
theorem foldl_preferred (names rest : List String) (first : String) :
    rest.foldl (preferred names) first ∈ first :: rest ∧
      ∀ other ∈ first :: rest, Leads names (rest.foldl (preferred names) first) other := by
  induction rest generalizing first with
  | nil =>
    refine ⟨List.mem_cons_self, ?_⟩
    intro other mem
    rw [List.mem_singleton.mp mem]
    exact .refl names first
  | cons next rest ih =>
    -- The winner of the rest leads the better one of the first two, and with it both.
    obtain ⟨found, leads⟩ := ih (preferred names first next)
    obtain ⟨oneOfTwo, aheadFirst, aheadNext⟩ := preferred_leads names first next
    have start := leads _ List.mem_cons_self
    rw [List.foldl_cons]
    constructor
    · rcases List.mem_cons.mp found with same | mem
      · rw [same]
        rcases oneOfTwo with kept | changed
        · exact List.mem_cons.mpr (.inl kept)
        · rw [changed]
          exact List.mem_cons_of_mem _ List.mem_cons_self
      · exact List.mem_cons_of_mem _ (List.mem_cons_of_mem _ mem)
    · intro other mem
      rcases List.mem_cons.mp mem with rfl | mem
      · exact start.trans aheadFirst
      · rcases List.mem_cons.mp mem with rfl | mem
        · exact start.trans aheadNext
        · exact leads other (List.mem_cons_of_mem _ mem)

end Leading

/-! ### Consensus -/

/-- A language that some detection names, that no language is named more often than, and that comes
first among those named as often. -/
structure IsConsensus (ds : List Detection) (language : String) : Prop where
  named : language ∈ ds.map (·.language)
  most : ∀ other, (ds.map (·.language)).count other ≤ (ds.map (·.language)).count language
  least : ∀ other ∈ ds.map (·.language),
    (ds.map (·.language)).count other = (ds.map (·.language)).count language → language ≤ other

variable {ds : List Detection} {language : String}

theorem isConsensus_iff : IsConsensus ds language ↔ language ∈ ds.map (·.language) ∧
    ∀ other ∈ ds.map (·.language), Leads (ds.map (·.language)) language other := by
  constructor
  · rintro ⟨named, most, least⟩
    refine ⟨named, ?_⟩
    intro other mem
    rcases Nat.lt_or_eq_of_le (most other) with more | level
    · exact .inl more
    · exact .inr ⟨level, least other mem level⟩
  · rintro ⟨named, leads⟩
    refine ⟨named, ?_, ?_⟩
    · intro other
      by_cases mem : other ∈ ds.map (·.language)
      · rcases leads other mem with more | ⟨level, -⟩ <;> omega
      · rw [List.count_eq_zero_of_not_mem mem]
        exact Nat.zero_le _
    · intro other mem level
      rcases leads other mem with more | ⟨-, le⟩
      · omega
      · exact le

/-- There is one consensus at most. -/
theorem IsConsensus.unique {other : String} (one : IsConsensus ds language)
    (two : IsConsensus ds other) : language = other := by
  rw [isConsensus_iff] at one two
  exact (one.2 other two.1).antisymm (two.2 language one.1)

theorem IsConsensus.perm {others : List Detection} (agreed : IsConsensus ds language)
    (perm : others.Perm ds) : IsConsensus others language := by
  have names : (others.map (·.language)).Perm (ds.map (·.language)) := perm.map _
  refine ⟨names.mem_iff.mpr agreed.named, ?_, ?_⟩
  · intro other
    rw [names.count_eq, names.count_eq]
    exact agreed.most other
  · intro other mem
    rw [names.count_eq, names.count_eq]
    exact agreed.least other (names.mem_iff.mp mem)

theorem consensus_eq_none_iff : consensus ds = none ↔ ds = [] := by
  cases ds with
  | nil => exact ⟨fun _ => rfl, fun _ => rfl⟩
  | cons d rest => exact ⟨nofun, nofun⟩

theorem consensus_eq_some_iff : consensus ds = some language ↔ IsConsensus ds language := by
  have found : ∀ other, consensus ds = some other → IsConsensus ds other := by
    intro other agreed
    unfold consensus at agreed
    cases names : ds.map (·.language) with
    | nil =>
      rw [names] at agreed
      cases agreed
    | cons first rest =>
      rw [names] at agreed
      cases agreed
      rw [isConsensus_iff, names]
      exact foldl_preferred (first :: rest) rest first
  constructor
  · exact found language
  · intro agreed
    cases told : consensus ds with
    | none =>
      rw [consensus_eq_none_iff.mp told] at agreed
      cases agreed.named
    | some other => rw [(found other told).unique agreed]

/-- Detections have a consensus unless there are none of them. It is the language that is named most
often, the least one of several, whatever the order of the detections is. -/
theorem consensus_most_named (ds : List Detection) :
    (consensus ds = none ↔ ds = []) ∧
      (∀ language, consensus ds = some language ↔ IsConsensus ds language) ∧
      ∀ others : List Detection, others.Perm ds → consensus others = consensus ds := by
  refine ⟨consensus_eq_none_iff, fun language => consensus_eq_some_iff, ?_⟩
  intro others perm
  cases agreed : consensus ds with
  | none =>
    rw [consensus_eq_none_iff] at agreed ⊢
    subst agreed
    exact perm.eq_nil
  | some language =>
    rw [consensus_eq_some_iff] at agreed ⊢
    exact agreed.perm perm

/-- Two languages are named twice and one once. -/
def divided : List Detection :=
  [.ofPoints "zig" 90 "b", .ofPoints "c" 80 "a", .ofPoints "zig" 70 "d", .ofPoints "ada" 100 "e",
    .ofPoints "c" 30 "f"]

theorem consensus_most_named_tie : consensus divided = some "c" := by
  rw [(consensus_most_named _).2.2 _ (List.reverse_perm divided).symm]
  decide

end SnippetDetect.Detection
