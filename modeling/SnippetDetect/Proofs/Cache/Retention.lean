import SnippetDetect.Proofs.Cache.History
import SnippetDetect.Proofs.Number.Rounding
import Mathlib.Data.List.Dedup
import Mathlib.Data.List.DropRight
import Mathlib.Data.List.Perm.Subperm

/-!
What a cache keeps, by the history of its uses.

A store and a look-up that finds its snippet are uses of the snippet, and each moves its entry to
the end (`after_of_used?`); whatever else happens only drops entries. So the entries stand in the
order of their last uses (`inUseOrder_run`), and the entry that goes when there is no room is the
one used longest ago.

An entry that went for lack of room was overtaken by as many other snippets as there is room for,
and stays so until it is stored again. As long as the clock does not go back, an entry that is
fresh was fresh before. Hence what was stored is found, unless it has grown too old or that many
others were used since (`retention_of_run`).
-/

namespace SnippetDetect.TimedCache

variable {t : TimedCache} {entry : CacheEntry} {content : String} {d : Detection}

/-! ### Uses of snippets -/

/-- The snippet a use counts for, if any: one that is stored, or one that is found. -/
def used? (t : TimedCache) : Use → Option String
  | .put content _ => some content
  | .get content => (t.get content).map fun _ => content
  | _ => none

/-- The snippets used in a run, in turn. -/
def used (t : TimedCache) : List Use → List String
  | [] => []
  | use :: rest => (t.used? use).toList ++ (t.after use).used rest

theorem used_concat (t : TimedCache) (uses : List Use) (use : Use) :
    t.used (uses ++ [use]) = t.used uses ++ ((t.run uses).used? use).toList := by
  induction uses generalizing t with
  | nil => simp [used]
  | cons first rest ih =>
    rw [List.cons_append, used, ih, used, List.append_assoc]
    rfl

/-- The snippets used after the last use of one. -/
def usedSince (used : List String) (content : String) : List String :=
  used.rtakeWhile (· ≠ content)

theorem usedSince_concat (used : List String) (content last : String) :
    usedSince (used ++ [last]) content =
      if last = content then [] else usedSince used content ++ [last] := by
  rw [usedSince, List.rtakeWhile_concat]
  by_cases same : last = content <;> simp [same, usedSince]

/-- A use moves its snippet to the end of the entries, and brings no other. -/
theorem after_of_used? {use : Use} (counts : t.used? use = some content) :
    ∃ kept last, (t.after use).cache.entries = kept ++ [last] ∧ last.content = content ∧
      kept.Sublist t.cache.entries ∧ ∀ entry ∈ kept, entry.content ≠ content := by
  cases use with
  | put other d =>
    cases counts
    rcases t.cache.put_cases t.clock content d with ⟨-, shape, -⟩ | ⟨absent, -, shape, -⟩
    · exact ⟨_, _, shape, rfl, List.filter_sublist, fun _ mem => (Cache.mem_without.mp mem).2⟩
    · exact ⟨_, _, shape, rfl, List.tail_sublist _, fun entry mem =>
        absent entry (List.mem_of_mem_tail mem)⟩
  | get other =>
    obtain ⟨d, found, rfl⟩ := Option.map_eq_some_iff.mp counts
    rcases t.cache.get_cases t.clock other with ⟨entry, -, rfl, -, shape⟩ | shape
    · refine ⟨_, entry, ?_, rfl, List.filter_sublist, fun _ mem => (Cache.mem_without.mp mem).2⟩
      simp only [after, shape]
      rfl
    · rw [TimedCache.get, shape] at found
      cases found
  | clear => cases counts
  | cleanup => cases counts
  | setClock now => cases counts

/-- What is no use of a snippet only drops entries. -/
theorem after_of_not_used {use : Use} (counts : t.used? use = none) :
    (t.after use).cache.entries.Sublist t.cache.entries := by
  cases use with
  | put content d => cases counts
  | get content =>
    rcases t.cache.get_cases t.clock content with ⟨entry, -, -, -, shape⟩ | shape
    · rw [used?, TimedCache.get, shape] at counts
      cases counts
    · simp only [after, shape]
      exact List.filter_sublist
  | clear => exact List.nil_sublist _
  | cleanup => exact List.filter_sublist
  | setClock now => exact List.Sublist.refl _

/-! ### The order of the entries -/

/-- Entries of used snippets, each before those that were used after its own last use. -/
structure InUseOrder (used : List String) (entries : List CacheEntry) : Prop where
  known : ∀ entry ∈ entries, entry.content ∈ used
  ordered : entries.Pairwise fun a b => b.content ∈ usedSince used a.content

theorem InUseOrder.sublist {used : List String} {entries kept : List CacheEntry}
    (order : InUseOrder used entries) (sub : kept.Sublist entries) : InUseOrder used kept where
  known entry mem := order.known entry (sub.subset mem)
  ordered := order.ordered.sublist sub

/-- One more use, of the snippet of the last entry. -/
theorem InUseOrder.concat {used : List String} {kept : List CacheEntry} {last : CacheEntry}
    (order : InUseOrder used kept) (others : ∀ entry ∈ kept, entry.content ≠ last.content) :
    InUseOrder (used ++ [last.content]) (kept ++ [last]) where
  known entry mem := by
    rcases List.mem_append.mp mem with old | new
    · exact List.mem_append_left _ (order.known entry old)
    · rw [List.mem_singleton.mp new]
      exact List.mem_append_right _ List.mem_cons_self
  ordered := by
    have since {entry : CacheEntry} (mem : entry ∈ kept) :
        usedSince (used ++ [last.content]) entry.content =
          usedSince used entry.content ++ [last.content] := by
      rw [usedSince_concat, if_neg (others entry mem).symm]
    rw [List.pairwise_append]
    refine ⟨?_, List.pairwise_singleton _ _, ?_⟩
    · apply order.ordered.imp_of_mem
      intro a b memA _ later
      rw [since memA]
      exact List.mem_append_left _ later
    · intro a memA b memB
      rw [since memA, List.mem_singleton.mp memB]
      exact List.mem_append_right _ List.mem_cons_self

theorem inUseOrder_after {used : List String} (order : InUseOrder used t.cache.entries)
    (use : Use) : InUseOrder (used ++ (t.used? use).toList) (t.after use).cache.entries := by
  cases counts : t.used? use with
  | none =>
    rw [Option.toList_none, List.append_nil]
    exact order.sublist (after_of_not_used counts)
  | some content =>
    obtain ⟨kept, last, shape, rfl, sub, others⟩ := after_of_used? counts
    rw [shape]
    exact (order.sublist sub).concat others

theorem inUseOrder_run (empty : t.cache.entries = []) (uses : List Use) :
    InUseOrder (t.used uses) (t.run uses).cache.entries := by
  induction uses using List.reverseRecOn with
  | nil =>
    rw [run_nil, empty]
    exact ⟨nofun, List.Pairwise.nil⟩
  | append_singleton uses use ih =>
    rw [run_concat, used_concat]
    exact inUseOrder_after ih use

/-! ### Freshness -/

/-- No move of the clock in a run goes back. -/
def Forward (t : TimedCache) : List Use → Prop
  | [] => True
  | use :: rest =>
    (∀ now, use = .setClock now → t.clock.le now = true) ∧ (t.after use).Forward rest

theorem forward_concat {uses : List Use} {use : Use} : t.Forward (uses ++ [use]) ↔
    t.Forward uses ∧ ∀ now, use = .setClock now → (t.run uses).clock.le now = true := by
  induction uses generalizing t with
  | nil => exact ⟨fun ⟨here, _⟩ => ⟨trivial, here⟩, fun ⟨_, here⟩ => ⟨here, trivial⟩⟩
  | cons first rest ih =>
    rw [List.cons_append, Forward, ih, Forward, and_assoc]
    rfl

/-- What is fresh was fresh before the clock moved on. -/
theorem isFresh_of_after {use : Use}
    (forward : ∀ now, use = .setClock now → t.clock.le now = true)
    (fresh : (t.after use).cache.isFresh (t.after use).clock entry = true) :
    t.cache.isFresh t.clock entry = true := by
  rw [Cache.isFresh, (t.limits_after use).2] at fresh
  cases use with
  | setClock now => exact Binary64.sub_lt_of_le (forward now rfl) fresh
  | put content d => exact fresh
  | get content => exact fresh
  | clear => exact fresh
  | cleanup => exact fresh

/-! ### Retention -/

/-- A fresh entry that is neither cleared nor stored anew stays, or it is the first one in a full
cache and another snippet takes its room. -/
theorem kept_or_evicted (wellFormed : t.cache.WellFormed) (mem : entry ∈ t.cache.entries)
    (fresh : t.cache.isFresh t.clock entry = true) {use : Use} (uncleared : use ≠ .clear)
    (last : ∀ d, use ≠ .put entry.content d) :
    entry ∈ (t.after use).cache.entries ∨
      ∃ other d rest, use = .put other d ∧ t.cache.entries = entry :: rest ∧
        (∀ old ∈ t.cache.entries, old.content ≠ other) ∧
        t.cache.maxSize ≤ t.cache.entries.length := by
  cases use with
  | put other d =>
    have different : entry.content ≠ other := by
      rintro rfl
      exact last d rfl
    rcases t.cache.put_cases t.clock other d with ⟨-, shape, -⟩ | ⟨absent, full, shape, -⟩
    · left
      simp only [after, shape]
      exact List.mem_append_left _ (Cache.mem_without.mpr ⟨mem, different⟩)
    · cases entries : t.cache.entries with
      | nil =>
        rw [entries] at mem
        cases mem
      | cons oldest rest =>
        rw [entries] at mem
        rcases List.mem_cons.mp mem with rfl | later
        · exact .inr ⟨other, d, rest, rfl, rfl, entries ▸ absent, entries ▸ full⟩
        · left
          simp only [after, shape, entries, List.tail_cons]
          exact List.mem_append_left _ later
  | get other =>
    left
    by_cases same : entry.content = other
    · subst same
      simp only [after, wellFormed.get_of_mem mem fresh]
      exact List.mem_append_right _ List.mem_cons_self
    · have kept : entry ∈ t.cache.without other := Cache.mem_without.mpr ⟨mem, same⟩
      rcases t.cache.get_cases t.clock other with ⟨found, -, rfl, -, shape⟩ | shape
      · simp only [after, shape]
        exact List.mem_append_left _ kept
      · simp only [after, shape]
        exact kept
  | clear => exact absurd rfl uncleared
  | cleanup => exact .inl (List.mem_filter.mpr ⟨mem, fresh⟩)
  | setClock now => exact .inl mem

/-- A snippet without an entry, since whose last use as many others were used as there is
room for. -/
structure Overtaken (t : TimedCache) (used : List String) (content : String) : Prop where
  absent : ∀ entry ∈ t.cache.entries, entry.content ≠ content
  overtaken : t.cache.maxSize ≤ (usedSince used content).dedup.length

/-- A snippet without an entry is not used before it is stored. -/
theorem used?_ne (absent : ∀ entry ∈ t.cache.entries, entry.content ≠ content) {use : Use}
    (last : ∀ d, use ≠ .put content d) {other : String} (counts : t.used? use = some other) :
    other ≠ content := by
  rintro rfl
  cases use with
  | put content d =>
    cases counts
    exact last d rfl
  | get content =>
    obtain ⟨d, found, rfl⟩ := Option.map_eq_some_iff.mp counts
    obtain ⟨entry, mem, same, -⟩ := Cache.mem_of_get found
    exact absent entry mem same
  | clear => cases counts
  | cleanup => cases counts
  | setClock now => cases counts

theorem Overtaken.after {used : List String} (overtaken : t.Overtaken used content) {use : Use}
    (last : ∀ d, use ≠ .put content d) :
    (t.after use).Overtaken (used ++ (t.used? use).toList) content where
  absent entry mem := by
    rcases mem_after mem with ⟨old, -⟩ | ⟨stored, -⟩
    · exact overtaken.absent entry old
    · rintro rfl
      exact last _ stored
  overtaken := by
    rw [(t.limits_after use).1]
    cases counts : t.used? use with
    | none =>
      rw [Option.toList_none, List.append_nil]
      exact overtaken.overtaken
    | some other =>
      have different := used?_ne overtaken.absent last counts
      rw [Option.toList_some, usedSince_concat, if_neg different]
      have more : (usedSince used content).dedup.length ≤
          (usedSince used content ++ [other]).dedup.length := by
        apply ((List.nodup_dedup _).subperm _).length_le
        intro name mem
        exact List.mem_dedup.mpr (List.mem_append_left _ (List.mem_dedup.mp mem))
      have := overtaken.overtaken
      omega

/-- What is evicted has been overtaken: by the snippets of the entries behind it and by the new
one. -/
theorem overtaken_of_evicted (wellFormed : t.cache.WellFormed) {used : List String}
    (order : InUseOrder used t.cache.entries) {rest : List CacheEntry}
    (entries : t.cache.entries = entry :: rest) {other : String}
    (absent : ∀ old ∈ t.cache.entries, old.content ≠ other)
    (full : t.cache.maxSize ≤ t.cache.entries.length) (d : Detection) :
    (t.after (.put other d)).Overtaken (used ++ [other]) entry.content := by
  have distinct := wellFormed.distinct
  rw [entries, List.map_cons, List.nodup_cons] at distinct
  have different : other ≠ entry.content :=
    (absent entry (entries ▸ List.mem_cons_self)).symm
  constructor
  · intro old mem same
    rcases t.cache.put_cases t.clock other d with ⟨room, -⟩ | ⟨-, -, shape, -⟩
    · rcases room with ⟨found, there, known⟩ | room
      · exact absent found there known
      · omega
    · simp only [after, shape, entries, List.tail_cons] at mem
      rcases List.mem_append.mp mem with behind | new
      · exact distinct.1 (List.mem_map.mpr ⟨old, behind, same⟩)
      · rw [List.mem_singleton.mp new] at same
        exact different same
  · rw [(t.limits_after _).1, usedSince_concat, if_neg different]
    -- The snippets behind the entry and the new one are distinct, and all used since.
    have names : (rest.map (·.content) ++ [other]).Nodup := by
      apply distinct.2.append (List.nodup_singleton _)
      intro name there new
      obtain ⟨old, behind, rfl⟩ := List.mem_map.mp there
      exact absent old (entries ▸ List.mem_cons_of_mem _ behind) (List.mem_singleton.mp new)
    have since : rest.map (·.content) ++ [other] ⊆
        (usedSince used entry.content ++ [other]).dedup := by
      intro name mem
      apply List.mem_dedup.mpr
      rcases List.mem_append.mp mem with there | new
      · obtain ⟨old, behind, rfl⟩ := List.mem_map.mp there
        have ordered := order.ordered
        rw [entries, List.pairwise_cons] at ordered
        exact List.mem_append_left _ (ordered.1 old behind)
      · exact List.mem_append_right _ new
    have count := (names.subperm since).length_le
    rw [List.length_append, List.length_map, List.length_singleton] at count
    rw [entries, List.length_cons] at full
    omega

/-- What was stored last and is fresh is still there, or it has been overtaken. -/
theorem kept_or_overtaken (wellFormed : t.cache.WellFormed) (empty : t.cache.entries = [])
    {uses before since : List Use} (stored : Stored uses before content d since)
    (forward : t.Forward uses)
    (fresh : (t.run uses).cache.isFresh (t.run uses).clock ⟨content, d, (t.run before).clock⟩) :
    ⟨content, d, (t.run before).clock⟩ ∈ (t.run uses).cache.entries ∨
      (t.run uses).Overtaken (t.used uses) content := by
  induction since using List.reverseRecOn generalizing uses with
  | nil =>
    left
    rw [stored.split, run_concat]
    rcases (t.run before).cache.put_cases (t.run before).clock content d with
      ⟨-, shape, -⟩ | ⟨-, -, shape, -⟩ <;>
    · simp only [after, shape]
      exact List.mem_append_right _ List.mem_cons_self
  | append_singleton since use ih =>
    obtain ⟨earlier, rfl, storedEarlier⟩ := stored.of_concat
    have uncleared : use ≠ .clear := fun same => stored.uncleared (by simp [same])
    have last (other : Detection) : use ≠ .put content other := fun same =>
      stored.last other (by simp [same])
    rw [run_concat] at fresh
    obtain ⟨forwardEarlier, forwardLast⟩ := forward_concat.mp forward
    have freshEarlier := isFresh_of_after forwardLast fresh
    have bounded := wellFormed_run wellFormed earlier
    rw [run_concat, used_concat]
    rcases ih storedEarlier forwardEarlier freshEarlier with kept | overtaken
    · rcases kept_or_evicted bounded kept freshEarlier uncleared last with
        stays | ⟨other, d', rest, rfl, entries, absent, full⟩
      · exact .inl stays
      · right
        exact overtaken_of_evicted bounded (inUseOrder_run empty earlier) entries absent full d'
    · exact .inr (overtaken.after last)

/-- Whatever is done with a new cache while its clock does not go back: the entries are of used
snippets and stand in the order of their last uses; a store that evicts drops the entry used
longest ago, and no other store drops an entry of another snippet; and what was stored for a snippet
last is found as long as it was not cleared, is younger than the maximal age, and fewer other
snippets were used since the snippet itself than there is room for. -/
theorem retention_of_run {maxSize maxAge : Int} {c : Cache}
    (made : Cache.create? maxSize maxAge = some c) {clock : Binary64} {uses : List Use}
    (forward : Forward ⟨c, clock⟩ uses) :
    let start : TimedCache := ⟨c, clock⟩
    let t := start.run uses
    let used := start.used uses
    InUseOrder used t.cache.entries ∧
      (∀ content d, let written := (t.after (.put content d)).cache
        (written.counts.evictions = t.cache.counts.evictions ∧
          written.entries = t.cache.without content ++ [⟨content, d, t.clock⟩]) ∨
        (written.counts.evictions = t.cache.counts.evictions + 1 ∧
          ∃ oldest rest, t.cache.entries = oldest :: rest ∧
            written.entries = rest ++ [⟨content, d, t.clock⟩] ∧
            ∀ other ∈ rest, other.content ∈ usedSince used oldest.content)) ∧
      ∀ before content d since, Stored uses before content d since →
        (Number.float (t.clock.sub (start.run before).clock)).lt (.int maxAge) = true →
        (usedSince used content).dedup.length < maxSize → t.get content = some d := by
  intro start t used
  have wellFormed : start.cache.WellFormed := Cache.wellFormed_create? made
  obtain ⟨-, rfl⟩ := Cache.create?_eq made
  have later : t.cache.WellFormed := wellFormed_run wellFormed uses
  have size : t.cache.maxSize = maxSize := (start.limits_run uses).1
  have age : t.cache.maxAge = maxAge := (start.limits_run uses).2
  have order : InUseOrder used t.cache.entries := inUseOrder_run rfl uses
  refine ⟨order, ?_, ?_⟩
  · intro content d written
    rcases t.cache.put_cases t.clock content d with
      ⟨-, shape, count⟩ | ⟨-, full, shape, count⟩
    · exact .inl ⟨count, shape⟩
    · right
      cases entries : t.cache.entries with
      | nil =>
        have := later.roomy
        simp only [entries, List.length_nil] at full
        omega
      | cons oldest rest =>
        rw [entries] at shape
        have ordered := order.ordered
        rw [entries, List.pairwise_cons] at ordered
        exact ⟨count, oldest, rest, rfl, shape, ordered.1⟩
  · intro before content d since stored young few
    have fresh : t.cache.isFresh t.clock ⟨content, d, (start.run before).clock⟩ = true := by
      rw [Cache.isFresh, age]
      exact young
    rcases kept_or_overtaken wellFormed rfl stored forward fresh with kept | overtaken
    · exact congrArg Prod.fst (later.get_of_mem kept fresh)
    · have passed : maxSize ≤ (usedSince used content).dedup.length := size ▸ overtaken.overtaken
      omega

/-- Two snippets stored and the first one found, before a third takes the room of the second. -/
def crowding : List Use :=
  [.put "x" (detected "python"), .put "y" (detected "java"), .get "x", .setClock Binary64.one,
    .put "z" (detected "bash"), .get "y"]

theorem retention_of_run_crowding : ∃ c, Cache.create? 2 3 = some c ∧
    Forward ⟨c, Binary64.zero⟩ crowding ∧
    ((⟨c, Binary64.zero⟩ : TimedCache).run crowding).get "x" = some (detected "python") ∧
    ((⟨c, Binary64.zero⟩ : TimedCache).run crowding).get "y" = none := by
  have made : Cache.create? 2 3 = some { maxSize := 2, maxAge := 3 } := rfl
  have forward : Forward ⟨{ maxSize := 2, maxAge := 3 }, Binary64.zero⟩ crowding := by
    refine ⟨nofun, nofun, nofun, ?_, nofun, nofun, trivial⟩
    rintro now same
    cases same
    decide
  obtain ⟨-, -, found⟩ := retention_of_run made forward
  refine ⟨_, made, forward, ?_, by decide +kernel⟩
  have stored : Stored crowding [] "x" (detected "python") crowding.tail :=
    ⟨rfl, by simp [crowding], by simp [crowding]⟩
  exact found [] "x" _ _ stored (by decide +kernel) (by decide +kernel)

end SnippetDetect.TimedCache
