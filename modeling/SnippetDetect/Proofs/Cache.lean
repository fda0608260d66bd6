import SnippetDetect.Cache
import Mathlib.Data.List.Nodup

/-!
What a look-up and a store do to the entries of a cache.

All that a look-up can do is in `get_cases`, all that a store can do is in `put_cases`; the rest
follows from these two. A cache that starts empty stays within its size and has at most one entry
for a snippet (`WellFormed`).
-/

namespace SnippetDetect.Cache

variable {c : Cache} {now : Binary64} {content : String} {d : Detection} {entry : CacheEntry}

theorem mem_without : entry ∈ c.without content ↔ entry ∈ c.entries ∧ entry.content ≠ content := by
  simp [without]

theorem without_of_absent (absent : ∀ entry ∈ c.entries, entry.content ≠ content) :
    c.without content = c.entries :=
  List.filter_eq_self.mpr fun entry mem => decide_eq_true (absent entry mem)

theorem isSome_find?_iff : (c.find? content).isSome = true ↔
    ∃ entry ∈ c.entries, entry.content = content := by
  simp [find?]

/-! ### Look-ups -/

/-- A look-up answers by a fresh entry of the snippet, or it misses. -/
theorem get_cases (c : Cache) (now : Binary64) (content : String) :
    (∃ entry ∈ c.entries, entry.content = content ∧ c.isFresh now entry = true ∧
      c.get now content = (some entry.detection, c.hit entry)) ∨
    c.get now content = (none, c.miss content) := by
  unfold get
  cases found : c.find? content with
  | none => exact .inr rfl
  | some entry =>
    dsimp only
    split
    · next fresh =>
      have same : entry.content = content := by simpa using List.find?_some found
      exact .inl ⟨entry, List.mem_of_find?_eq_some found, same, fresh, rfl⟩
    · exact .inr rfl

/-- What is found was stored for the snippet, and is fresh. -/
theorem mem_of_get (found : (c.get now content).1 = some d) :
    ∃ entry ∈ c.entries, entry.content = content ∧ entry.detection = d ∧
      c.isFresh now entry = true := by
  rcases c.get_cases now content with ⟨entry, mem, same, fresh, shape⟩ | shape
  · rw [shape] at found
    exact ⟨entry, mem, same, Option.some.inj found, fresh⟩
  · rw [shape] at found
    cases found

/-- To look up a snippet brings no entries. -/
theorem mem_get (mem : entry ∈ (c.get now content).2.entries) : entry ∈ c.entries := by
  rcases c.get_cases now content with ⟨found, there, -, -, shape⟩ | shape
  · rw [shape] at mem
    rcases List.mem_append.mp mem with old | last
    · exact (mem_without.mp old).1
    · rw [List.mem_singleton.mp last]
      exact there
  · rw [shape] at mem
    exact (mem_without.mp mem).1

theorem limits_get (c : Cache) (now : Binary64) (content : String) :
    (c.get now content).2.maxSize = c.maxSize ∧ (c.get now content).2.maxAge = c.maxAge := by
  rcases c.get_cases now content with ⟨_, -, -, -, shape⟩ | shape
  · rw [shape]
    exact ⟨rfl, rfl⟩
  · rw [shape]
    exact ⟨rfl, rfl⟩

/-! ### Stores -/

/-- A store replaces what there is for the snippet or takes free room, or the snippet is new to a
full cache and the oldest entry goes. -/
theorem put_cases (c : Cache) (now : Binary64) (content : String) (d : Detection) :
    (((∃ entry ∈ c.entries, entry.content = content) ∨ c.entries.length < c.maxSize) ∧
      (c.put now content d).entries = c.without content ++ [⟨content, d, now⟩] ∧
      (c.put now content d).counts.evictions = c.counts.evictions) ∨
    ((∀ entry ∈ c.entries, entry.content ≠ content) ∧ c.maxSize ≤ c.entries.length ∧
      (c.put now content d).entries = c.entries.tail ++ [⟨content, d, now⟩] ∧
      (c.put now content d).counts.evictions = c.counts.evictions + 1) := by
  by_cases known : (c.find? content).isSome = true
  · left
    exact ⟨.inl (isSome_find?_iff.mp known), by simp [put, makeRoom, known],
      by simp [put, makeRoom, known]⟩
  · have absent : ∀ entry ∈ c.entries, entry.content ≠ content := by
      intro entry mem same
      exact known (isSome_find?_iff.mpr ⟨entry, mem, same⟩)
    by_cases full : c.isFull = true
    · right
      have room : c.maxSize ≤ c.entries.length := by simpa [isFull] using full
      refine ⟨absent, room, ?_, ?_⟩ <;> simp [put, makeRoom, known, full]
    · left
      have room : c.entries.length < c.maxSize := by simpa [isFull] using full
      rw [without_of_absent absent]
      refine ⟨.inr room, ?_, ?_⟩ <;> simp [put, makeRoom, known, full]

theorem limits_put (c : Cache) (now : Binary64) (content : String) (d : Detection) :
    (c.put now content d).maxSize = c.maxSize ∧ (c.put now content d).maxAge = c.maxAge := by
  unfold put makeRoom
  split
  · exact ⟨rfl, rfl⟩
  · split <;> exact ⟨rfl, rfl⟩

/-- To put a snippet brings one entry, and of the snippet no other entry is left. -/
theorem mem_put (mem : entry ∈ (c.put now content d).entries) :
    (entry ∈ c.entries ∧ entry.content ≠ content) ∨ entry = ⟨content, d, now⟩ := by
  rcases c.put_cases now content d with ⟨-, shape, -⟩ | ⟨absent, -, shape, -⟩
  · rw [shape] at mem
    rcases List.mem_append.mp mem with old | last
    · exact .inl (mem_without.mp old)
    · exact .inr (List.mem_singleton.mp last)
  · rw [shape] at mem
    rcases List.mem_append.mp mem with old | last
    · have there := List.mem_of_mem_tail old
      exact .inl ⟨there, absent entry there⟩
    · exact .inr (List.mem_singleton.mp last)

/-! ### Size -/

/-- At most as many entries as there is room for, and at most one for a snippet. -/
structure WellFormed (c : Cache) : Prop where
  roomy : 1 ≤ c.maxSize
  bounded : c.entries.length ≤ c.maxSize
  distinct : (c.entries.map (·.content)).Nodup

theorem create?_eq {maxSize maxAge : Int} (made : create? maxSize maxAge = some c) :
    1 ≤ maxSize ∧ c = { maxSize, maxAge } := by
  unfold create? at made
  split at made
  · cases made
  · next roomy =>
    cases made
    exact ⟨by simpa using roomy, rfl⟩

theorem wellFormed_create? {maxSize maxAge : Int} (made : create? maxSize maxAge = some c) :
    c.WellFormed := by
  obtain ⟨roomy, rfl⟩ := create?_eq made
  have bounded : ((0 : Nat) : Int) ≤ maxSize := by omega
  exact ⟨roomy, bounded, List.nodup_nil⟩

namespace WellFormed

/-- Fewer entries, in the order they had. -/
theorem of_sublist (wellFormed : c.WellFormed) {other : Cache} (size : other.maxSize = c.maxSize)
    (sub : other.entries.Sublist c.entries) : other.WellFormed where
  roomy := size ▸ wellFormed.roomy
  bounded := by
    have := sub.length_le
    have := wellFormed.bounded
    omega
  distinct := wellFormed.distinct.sublist (sub.map _)

/-- An entry at the end, when there is room for it and no other of its snippet. -/
theorem of_append (wellFormed : c.WellFormed) {other : Cache} {kept : List CacheEntry}
    (size : other.maxSize = c.maxSize) (shape : other.entries = kept ++ [entry])
    (sub : kept.Sublist c.entries) (absent : ∀ old ∈ kept, old.content ≠ entry.content)
    (room : kept.length < c.maxSize) : other.WellFormed where
  roomy := size ▸ wellFormed.roomy
  bounded := by
    rw [shape, size, List.length_append, List.length_singleton]
    omega
  distinct := by
    rw [shape, List.map_append]
    apply (wellFormed.distinct.sublist (sub.map _)).append (List.nodup_singleton _)
    rintro name there last
    obtain ⟨old, mem, rfl⟩ := List.mem_map.mp there
    exact absent old mem (List.mem_singleton.mp last)

/-- When a snippet has an entry, there is room for one more without it. -/
theorem length_without (wellFormed : c.WellFormed) (mem : entry ∈ c.entries) :
    (c.without entry.content).length < c.maxSize := by
  have fewer : (c.without entry.content).length < c.entries.length := by
    unfold without
    exact List.length_filter_lt_length_iff_exists.mpr ⟨entry, mem, by simp⟩
  have := wellFormed.bounded
  omega

theorem get (wellFormed : c.WellFormed) (now : Binary64) (content : String) :
    (c.get now content).2.WellFormed := by
  rcases c.get_cases now content with ⟨entry, mem, rfl, -, shape⟩ | shape
  · rw [shape]
    exact wellFormed.of_append rfl rfl List.filter_sublist
      (fun old there => (mem_without.mp there).2) (wellFormed.length_without mem)
  · rw [shape]
    exact wellFormed.of_sublist rfl List.filter_sublist

theorem put (wellFormed : c.WellFormed) (now : Binary64) (content : String) (d : Detection) :
    (c.put now content d).WellFormed := by
  have size := (limits_put c now content d).1
  rcases c.put_cases now content d with ⟨room, shape, -⟩ | ⟨absent, -, shape, -⟩
  · apply wellFormed.of_append size shape List.filter_sublist
    · exact fun old there => (mem_without.mp there).2
    · rcases room with ⟨entry, mem, rfl⟩ | room
      · exact wellFormed.length_without mem
      · have : (c.without content).length ≤ c.entries.length := List.length_filter_le _ _
        omega
  · apply wellFormed.of_append size shape (List.tail_sublist _)
    · exact fun old there => absent old (List.mem_of_mem_tail there)
    · have := wellFormed.bounded
      have := wellFormed.roomy
      rw [List.length_tail]
      omega

/-- A fresh entry is found. -/
theorem get_of_mem (wellFormed : c.WellFormed) (mem : entry ∈ c.entries)
    (fresh : c.isFresh now entry = true) :
    c.get now entry.content = (some entry.detection, c.hit entry) := by
  obtain ⟨found, there⟩ := Option.isSome_iff_exists.mp (isSome_find?_iff.mpr ⟨entry, mem, rfl⟩)
  have same : found.content = entry.content := by simpa using List.find?_some there
  have unique : found = entry :=
    List.inj_on_of_nodup_map wellFormed.distinct (List.mem_of_find?_eq_some there) mem same
  rw [Cache.get, there, unique]
  exact if_pos fresh

end WellFormed

end SnippetDetect.Cache
