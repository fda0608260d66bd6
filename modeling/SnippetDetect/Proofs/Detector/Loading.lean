import SnippetDetect.Detector.Fingerprints
import SnippetDetect.Proofs.Entries
import SnippetDetect.Proofs.Text.LowerCase
import Mathlib.Data.List.Sort

/-!
What loading makes of definitions.

The definition that counts for a name is the last one that has the name in lower case
(`definitionOf`). Loaded entries are in strictly ascending order of their names, and there is one
for each definition that counts (`ascending_loaded`, `mem_loaded_iff`). So what is loaded depends on
the definitions that count and not on the order in which they were supplied (`load_congr`,
`definitionOf_perm`).
-/

namespace SnippetDetect

open SnippetDetect.Text

section Entries

variable {α ε β : Type}

/-- Names in ascending order. -/
def Ascending (entries : List (String × α)) : Prop := entries.Pairwise fun a b => a.1 < b.1

theorem Ascending.nodup {entries : List (String × α)} (ascending : Ascending entries) :
    (entryNames entries).Nodup := by
  rw [entryNames, List.nodup_iff_pairwise_ne, List.pairwise_map]
  apply ascending.imp
  intro a b less same
  exact String.lt_irrefl b.1 (same ▸ less)

/-- Entries in ascending order are known by what is among them. -/
theorem Ascending.ext {xs ys : List (String × α)} (ascX : Ascending xs) (ascY : Ascending ys)
    (same : ∀ entry, entry ∈ xs ↔ entry ∈ ys) : xs = ys := by
  have asymm : Std.Antisymm fun a b : String × α => a.1 < b.1 :=
    ⟨fun _ _ less greater => absurd greater (String.lt_asymm less)⟩
  have irrefl : Std.Irrefl fun a b : String × α => a.1 < b.1 := ⟨fun a => String.lt_irrefl a.1⟩
  exact List.Pairwise.eq_of_mem_iff ascX ascY same

/-- Where what a step makes tells what it was made from, a run over a list is known by what it
makes. -/
theorem mapM_eq_ok_iff {step : α → Except ε β} {origin : β → α} {sound : β → Prop}
    (step_iff : ∀ a b, step a = .ok b ↔ a = origin b ∧ sound b) {items : List α} {made : List β} :
    items.mapM step = .ok made ↔ items = made.map origin ∧ ∀ b ∈ made, sound b := by
  induction items generalizing made with
  | nil =>
    rw [List.mapM_nil]
    constructor
    · rintro ⟨⟩
      exact ⟨rfl, fun _ mem => absurd mem List.not_mem_nil⟩
    · rintro ⟨origins, -⟩
      rw [List.map_eq_nil_iff.mp origins.symm]
      rfl
  | cons item rest ih =>
    rw [List.mapM_cons]
    constructor
    · intro succeeded
      cases head : step item with
      | error fault => simp [head, bind, Except.bind] at succeeded
      | ok b =>
        cases tail : rest.mapM step with
        | error fault => simp [head, tail, bind, Except.bind] at succeeded
        | ok bs =>
          simp only [head, tail, bind, Except.bind, pure, Except.pure, Except.ok.injEq] at succeeded
          subst succeeded
          obtain ⟨rfl, soundHead⟩ := (step_iff _ _).mp head
          obtain ⟨rfl, soundTail⟩ := ih.mp tail
          exact ⟨rfl, List.forall_mem_cons.mpr ⟨soundHead, soundTail⟩⟩
    · rintro ⟨origins, sounds⟩
      obtain ⟨b, bs, rfl, rfl, rfl⟩ := List.map_eq_cons_iff.mp origins.symm
      rw [List.forall_mem_cons] at sounds
      rw [(step_iff _ _).mpr ⟨rfl, sounds.1⟩, ih.mpr ⟨rfl, sounds.2⟩]
      rfl

theorem exists_eq_map {origin : β → α} {sound : β → Prop} {items : List α}
    (each : ∀ a ∈ items, ∃ b, a = origin b ∧ sound b) :
    ∃ made : List β, items = made.map origin ∧ ∀ b ∈ made, sound b := by
  induction items with
  | nil => exact ⟨[], rfl, fun _ mem => absurd mem List.not_mem_nil⟩
  | cons item rest ih =>
    rw [List.forall_mem_cons] at each
    obtain ⟨⟨b, rfl, soundHead⟩, eachRest⟩ := each
    obtain ⟨bs, rfl, soundTail⟩ := ih eachRest
    exact ⟨b :: bs, rfl, List.forall_mem_cons.mpr ⟨soundHead, soundTail⟩⟩

end Entries

namespace Fingerprints

/-- The definition that counts for a name: the last one that has the name in lower case. -/
def definitionOf (languages : List Language) (name : String) : Option Language :=
  (languages.filter fun l => lower l.name = name).getLast?

section Definitions

variable {languages others : List Language} {name : String} {l : Language}

theorem definitionOf_spec (counts : definitionOf languages name = some l) :
    l ∈ languages ∧ lower l.name = name := by
  have mem := List.mem_of_getLast? counts
  rwa [List.mem_filter, decide_eq_true_eq] at mem

/-- A definition with a name counts for a name. -/
theorem name_ne_empty_of_definitionOf (named : ∀ l ∈ languages, l.name ≠ "")
    (counts : definitionOf languages name = some l) : name ≠ "" := by
  obtain ⟨supplied, lowered⟩ := definitionOf_spec counts
  rw [← lowered]
  exact lower_ne_empty (named l supplied)

/-- Where no name stands twice, all definitions count. -/
theorem definitionOf_eq_some_iff (distinct : (languages.map fun l => lower l.name).Nodup) :
    definitionOf languages name = some l ↔ l ∈ languages ∧ lower l.name = name := by
  constructor
  · exact definitionOf_spec
  · rintro ⟨mem, named⟩
    cases found : definitionOf languages name with
    | none =>
      rw [definitionOf, List.getLast?_eq_none_iff, List.filter_eq_nil_iff] at found
      have unnamed := found l mem
      rw [decide_eq_true_eq] at unnamed
      exact absurd named unnamed
    | some other =>
      obtain ⟨memOther, namedOther⟩ := definitionOf_spec found
      rw [List.inj_on_of_nodup_map distinct memOther mem (namedOther.trans named.symm)]

/-- In what order definitions of different names are supplied does not matter. -/
theorem definitionOf_perm (same : others.Perm languages)
    (distinct : (languages.map fun l => lower l.name).Nodup) (name : String) :
    definitionOf others name = definitionOf languages name := by
  have renamed := same.map fun l : Language => lower l.name
  have distinctToo := renamed.nodup_iff.mpr distinct
  apply Option.ext
  intro l
  rw [definitionOf_eq_some_iff distinct, definitionOf_eq_some_iff distinctToo, same.mem_iff]

end Definitions

/-! ### Entries by name -/

section ByName

variable {languages others : List Language}

theorem mem_byName {name : String} {l : Language} :
    (name, l) ∈ byName languages ↔ definitionOf languages name = some l := by
  have empty : (entryNames ([] : List (String × Language))).Nodup := List.nodup_nil
  have distinct := nodup_foldl_setEntry (fun l : Language => lower l.name) languages empty
  have found := valueOf?_foldl_setEntry (fun l : Language => lower l.name) languages [] name
  rw [valueOf?_nil, Option.or_none] at found
  rw [byName, List.mem_mergeSort, definitionOf, ← found]
  constructor
  · exact valueOf?_of_mem distinct
  · exact mem_of_valueOf?

theorem ascending_byName (languages : List Language) : Ascending (byName languages) :=
  pairwise_mergeSort_lt (nodup_foldl_setEntry _ languages List.nodup_nil)

theorem byName_congr
    (same : ∀ name, definitionOf others name = definitionOf languages name) :
    byName others = byName languages := by
  apply (ascending_byName others).ext (ascending_byName languages)
  rintro ⟨name, l⟩
  rw [mem_byName, mem_byName, same]

end ByName

/-! ### Loading -/

/-- A definition under its name with its expressions read. -/
def loadEntry (item : String × Language) : Except Fault (String × Loaded) :=
  match regexesOf item.2 with
  | .ok regexes => .ok (item.1, ⟨item.2, regexes⟩)
  | .error refusal => .error (.regex refusal)

/-- A loaded entry without its expressions. -/
def definition (entry : String × Loaded) : String × Language := (entry.1, entry.2.language)

/-- The expressions are those of the definition. -/
def IsRead (entry : String × Loaded) : Prop :=
  regexesOf entry.2.language = .ok entry.2.regexes

theorem loadEntry_eq_ok_iff {item : String × Language} {entry : String × Loaded} :
    loadEntry item = .ok entry ↔ item = definition entry ∧ IsRead entry := by
  obtain ⟨name, language, regexes⟩ := entry
  unfold loadEntry IsRead
  constructor
  · intro loaded
    split at loaded
    · next read =>
      cases loaded
      exact ⟨rfl, read⟩
    · cases loaded
  · rintro ⟨rfl, read⟩
    rw [definition, read]

section Loading

variable {languages others : List Language} {allowed : List String} {f : Fingerprints}

theorem load_eq (languages : List Language) (allowed : List String) :
    load languages allowed =
      ((byName languages).mapM loadEntry).bind fun loaded => .ok ⟨loaded, normalAllowed allowed⟩ := by
  have step : (fun item : String × Language =>
      match regexesOf item.2 with
      | .ok regexes => pure (item.1, ⟨item.2, regexes⟩)
      | .error refusal => throw (Fault.regex refusal)) = loadEntry := by
    funext item
    unfold loadEntry
    cases regexesOf item.2 <;> rfl
  rw [← step]
  rfl

/-- Definitions with the same ones that count are loaded alike. -/
theorem load_congr (same : ∀ name, definitionOf others name = definitionOf languages name)
    (allowed : List String) : load others allowed = load languages allowed := by
  rw [load_eq, load_eq, byName_congr same]

/-- Loading succeeds when the expressions of all definitions that count can be read, and keeps each
of these definitions with its expressions. -/
theorem load_eq_ok_iff : load languages allowed = .ok f ↔
    byName languages = f.loaded.map definition ∧ (∀ entry ∈ f.loaded, IsRead entry) ∧
      f.allowed = normalAllowed allowed := by
  rw [load_eq, ← and_assoc, ← mapM_eq_ok_iff fun _ _ => loadEntry_eq_ok_iff]
  obtain ⟨loaded, enabled⟩ := f
  constructor
  · intro made
    cases run : (byName languages).mapM loadEntry with
    | error fault => simp [run, Except.bind] at made
    | ok entries =>
      rw [run] at made
      cases made
      exact ⟨rfl, rfl⟩
  · rintro ⟨run, rfl⟩
    rw [run]
    rfl

/-- Another allow-list changes nothing else. -/
theorem load_setAllowed (loads : load languages allowed = .ok f) (other : List String) :
    load languages other = .ok (f.setAllowed other) := by
  obtain ⟨entries, read, -⟩ := load_eq_ok_iff.mp loads
  exact load_eq_ok_iff.mpr ⟨entries, read, rfl⟩

theorem ascending_loaded (loads : load languages allowed = .ok f) : Ascending f.loaded := by
  have ascending := ascending_byName languages
  rw [(load_eq_ok_iff.mp loads).1, Ascending, List.pairwise_map] at ascending
  exact ascending

/-- Each definition that counts is loaded. -/
theorem exists_mem_loaded (loads : load languages allowed = .ok f) {name : String} {l : Language}
    (counts : definitionOf languages name = some l) :
    ∃ regexes, (name, Loaded.mk l regexes) ∈ f.loaded := by
  obtain ⟨entries, -⟩ := load_eq_ok_iff.mp loads
  have mem := mem_byName.mpr counts
  rw [entries, List.mem_map] at mem
  obtain ⟨⟨known, language, regexes⟩, mem, same⟩ := mem
  obtain ⟨rfl, rfl⟩ := Prod.mk.inj same
  exact ⟨regexes, mem⟩

/-- What is loaded is each definition that counts, with its expressions. -/
theorem mem_loaded_iff (loads : load languages allowed = .ok f) {entry : String × Loaded} :
    entry ∈ f.loaded ↔
      definitionOf languages entry.1 = some entry.2.language ∧ IsRead entry := by
  obtain ⟨entries, read, -⟩ := load_eq_ok_iff.mp loads
  constructor
  · intro mem
    refine ⟨mem_byName.mp ?_, read entry mem⟩
    rw [entries]
    exact List.mem_map_of_mem mem
  · rintro ⟨counts, readEntry⟩
    obtain ⟨regexes, mem⟩ := exists_mem_loaded loads counts
    have readToo := read _ mem
    rw [IsRead, readEntry] at readToo
    cases readToo
    exact mem

/-- Loading fails only on a definition that counts and has an expression no one can read. -/
theorem exists_load_iff : (∃ f, load languages allowed = .ok f) ↔
    ∀ name l, definitionOf languages name = some l → ∃ regexes, regexesOf l = .ok regexes := by
  constructor
  · rintro ⟨f, loads⟩ name l counts
    obtain ⟨regexes, mem⟩ := exists_mem_loaded loads counts
    exact ⟨regexes, ((mem_loaded_iff loads).mp mem).2⟩
  · intro readable
    have each : ∀ item ∈ byName languages, ∃ entry, item = definition entry ∧ IsRead entry := by
      rintro ⟨name, l⟩ mem
      obtain ⟨regexes, read⟩ := readable name l (mem_byName.mp mem)
      exact ⟨(name, ⟨l, regexes⟩), rfl, read⟩
    obtain ⟨loaded, entries, read⟩ := exists_eq_map each
    exact ⟨⟨loaded, normalAllowed allowed⟩, load_eq_ok_iff.mpr ⟨entries, read, rfl⟩⟩

end Loading

end Fingerprints

end SnippetDetect
