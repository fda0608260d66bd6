import SnippetDetect.Proofs.Cache
import SnippetDetect.Proofs.Detection
import Mathlib.Data.List.Induction

/-!
What a cache holds, by the history of its uses.

A run is a list of uses of a cache under a clock that can be set to any time. Every entry stems
from the last store of its snippet, which no clearing followed, and keeps the time of that store
(`Stems`): a use other than a store brings no entries, and a store or a clearing removes the
entry that it makes stale. So what a look-up answers is what was stored last, and is not older
than the maximal age (`get_of_run`).
-/

namespace SnippetDetect

/-- A cache and the clock by which it is used. -/
structure TimedCache where
  cache : Cache
  clock : Binary64
  deriving DecidableEq, Repr

namespace TimedCache

/-- A use of a cache, or a move of its clock. -/
inductive Use where
  | put (content : String) (d : Detection)
  | get (content : String)
  | clear
  | cleanup
  | setClock (now : Binary64)

/-- What a look-up answers now. -/
def get (t : TimedCache) (content : String) : Option Detection := (t.cache.get t.clock content).1

def after (t : TimedCache) : Use → TimedCache
  | .put content d => { t with cache := t.cache.put t.clock content d }
  | .get content => { t with cache := (t.cache.get t.clock content).2 }
  | .clear => { t with cache := t.cache.clear }
  | .cleanup => { t with cache := (t.cache.cleanup t.clock).2 }
  | .setClock now => { t with clock := now }

/-- The cache and the clock after a run. -/
def run (t : TimedCache) (uses : List Use) : TimedCache := uses.foldl after t

variable {t : TimedCache} {entry : CacheEntry}

@[simp] theorem run_nil (t : TimedCache) : t.run [] = t := rfl

@[simp] theorem run_concat (t : TimedCache) (uses : List Use) (use : Use) :
    t.run (uses ++ [use]) = (t.run uses).after use := by
  simp [run]

/-! ### One use -/

theorem limits_after (t : TimedCache) (use : Use) :
    (t.after use).cache.maxSize = t.cache.maxSize ∧
      (t.after use).cache.maxAge = t.cache.maxAge := by
  cases use with
  | put content d => exact t.cache.limits_put t.clock content d
  | get content => exact t.cache.limits_get t.clock content
  | clear => exact ⟨rfl, rfl⟩
  | cleanup => exact ⟨rfl, rfl⟩
  | setClock now => exact ⟨rfl, rfl⟩

theorem wellFormed_after (wellFormed : t.cache.WellFormed) (use : Use) :
    (t.after use).cache.WellFormed := by
  cases use with
  | put content d => exact wellFormed.put t.clock content d
  | get content => exact wellFormed.get t.clock content
  | clear => exact wellFormed.of_sublist rfl (List.nil_sublist _)
  | cleanup => exact wellFormed.of_sublist rfl List.filter_sublist
  | setClock now => exact wellFormed

/-- An entry was there before and the use is neither a clearing nor a store of its snippet, or it
is the entry that the use stores. -/
theorem mem_after {use : Use} (mem : entry ∈ (t.after use).cache.entries) :
    (entry ∈ t.cache.entries ∧ use ≠ .clear ∧ ∀ d, use ≠ .put entry.content d) ∨
    (use = .put entry.content entry.detection ∧ entry.storedAt = t.clock) := by
  cases use with
  | put content d =>
    rcases Cache.mem_put mem with ⟨old, other⟩ | rfl
    · refine .inl ⟨old, nofun, ?_⟩
      rintro d same
      cases same
      exact other rfl
    · exact .inr ⟨rfl, rfl⟩
  | get content => exact .inl ⟨Cache.mem_get mem, nofun, nofun⟩
  | clear => cases mem
  | cleanup => exact .inl ⟨(List.mem_filter.mp mem).1, nofun, nofun⟩
  | setClock now => exact .inl ⟨mem, nofun, nofun⟩

/-! ### Runs -/

theorem limits_run (t : TimedCache) (uses : List Use) :
    (t.run uses).cache.maxSize = t.cache.maxSize ∧ (t.run uses).cache.maxAge = t.cache.maxAge := by
  induction uses using List.reverseRecOn with
  | nil => exact ⟨rfl, rfl⟩
  | append_singleton uses use ih =>
    rw [run_concat]
    obtain ⟨size, age⟩ := (t.run uses).limits_after use
    exact ⟨size.trans ih.1, age.trans ih.2⟩

theorem wellFormed_run (wellFormed : t.cache.WellFormed) (uses : List Use) :
    (t.run uses).cache.WellFormed := by
  induction uses using List.reverseRecOn with
  | nil => exact wellFormed
  | append_singleton uses use ih =>
    rw [run_concat]
    exact wellFormed_after ih use

/-- `uses` is a run in which the last store of a snippet is that of `d`, no clearing follows it, and
`before` is what precedes it. -/
structure Stored (uses before : List Use) (content : String) (d : Detection) (since : List Use) :
    Prop where
  split : uses = before ++ .put content d :: since
  last : ∀ other, .put content other ∉ since
  uncleared : .clear ∉ since

theorem Stored.concat {uses before since : List Use} {content : String} {d : Detection}
    (stored : Stored uses before content d since) {use : Use} (uncleared : use ≠ .clear)
    (last : ∀ other, use ≠ .put content other) :
    Stored (uses ++ [use]) before content d (since ++ [use]) where
  split := by simp [stored.split]
  last other := by simpa [stored.last other] using (last other).symm
  uncleared := by simpa [stored.uncleared] using uncleared.symm

/-- The run without its last use, which is not the store itself. -/
theorem Stored.of_concat {uses before since : List Use} {content : String} {d : Detection}
    {use : Use} (stored : Stored uses before content d (since ++ [use])) :
    ∃ earlier, uses = earlier ++ [use] ∧ Stored earlier before content d since := by
  refine ⟨before ++ .put content d :: since, by simp [stored.split], rfl, ?_, ?_⟩
  · exact fun other mem => stored.last other (List.mem_append_left _ mem)
  · exact fun mem => stored.uncleared (List.mem_append_left _ mem)

/-- Every entry stems from the last store of its snippet. -/
theorem exists_stored (empty : t.cache.entries = []) {uses : List Use}
    (mem : entry ∈ (t.run uses).cache.entries) :
    ∃ before since, Stored uses before entry.content entry.detection since ∧
      entry.storedAt = (t.run before).clock := by
  induction uses using List.reverseRecOn with
  | nil =>
    rw [run_nil, empty] at mem
    cases mem
  | append_singleton uses use ih =>
    rw [run_concat] at mem
    rcases mem_after mem with ⟨old, uncleared, last⟩ | ⟨rfl, now⟩
    · obtain ⟨before, since, stored, time⟩ := ih old
      exact ⟨before, since ++ [use], stored.concat uncleared last, time⟩
    · exact ⟨uses, [], ⟨rfl, nofun, nofun⟩, now⟩

/-- Whatever is done with a new cache: it holds at most as many entries as it may and no snippet
twice, and what it answers for a snippet was stored for it last, was not cleared since, and is
younger than the maximal age, counted from that store. -/
theorem get_of_run {maxSize maxAge : Int} {c : Cache}
    (made : Cache.create? maxSize maxAge = some c) (clock : Binary64) (uses : List Use) :
    let start : TimedCache := ⟨c, clock⟩
    let t := start.run uses
    t.cache.entries.length ≤ maxSize ∧ (t.cache.entries.map (·.content)).Nodup ∧
      ∀ content d, t.get content = some d → ∃ before since, Stored uses before content d since ∧
        (Number.float (t.clock.sub (start.run before).clock)).lt (.int maxAge) = true := by
  intro start t
  have wellFormed : t.cache.WellFormed := wellFormed_run (Cache.wellFormed_create? made) uses
  obtain ⟨-, rfl⟩ := Cache.create?_eq made
  have size : t.cache.maxSize = maxSize := (start.limits_run uses).1
  have age : t.cache.maxAge = maxAge := (start.limits_run uses).2
  refine ⟨size ▸ wellFormed.bounded, wellFormed.distinct, ?_⟩
  intro content d found
  obtain ⟨entry, mem, rfl, rfl, fresh⟩ := Cache.mem_of_get found
  obtain ⟨before, since, stored, time⟩ := exists_stored rfl mem
  refine ⟨before, since, stored, ?_⟩
  rw [← age, ← time]
  exact fresh

/-- A detection of a language. -/
def detected (language : String) : Detection := .ofPoints language 90 "eager"

/-- A snippet stored twice and one found in between, until a third takes the room of the first. -/
def overwriting : List Use :=
  [.put "x" (detected "python"), .put "y" (detected "java"), .setClock Binary64.one,
    .put "x" (detected "ruby"), .get "y", .get "x", .put "z" (detected "bash"), .cleanup]

theorem get_of_run_overwriting : ∃ c, Cache.create? 2 3 = some c ∧
    ((⟨c, Binary64.zero⟩ : TimedCache).run overwriting).get "x" = some (detected "ruby") ∧
    ((⟨c, Binary64.zero⟩ : TimedCache).run overwriting).get "y" = none ∧
    ∃ before since, Stored overwriting before "x" (detected "ruby") since := by
  have found : ((⟨{ maxSize := 2, maxAge := 3 }, Binary64.zero⟩ : TimedCache).run overwriting).get
      "x" = some (detected "ruby") := by
    decide +kernel
  have made : Cache.create? 2 3 = some { maxSize := 2, maxAge := 3 } := rfl
  obtain ⟨-, -, answers⟩ := get_of_run made Binary64.zero overwriting
  obtain ⟨before, since, stored, -⟩ := answers "x" _ found
  exact ⟨_, made, found, by decide +kernel, before, since, stored⟩

end TimedCache

end SnippetDetect
