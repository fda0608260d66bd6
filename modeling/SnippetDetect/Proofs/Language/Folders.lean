import SnippetDetect.Language.Catalog
import SnippetDetect.Proofs.Entries
import SnippetDetect.Proofs.Language.Format

/-!
What loading makes of a folder.

A folder is merged file by file in the order of their names (`pairwise_names`, `mem_names_iff`). A
file contributes the definitions among the entries of the value it holds, and nothing if it holds
none (`contribution`). Loading makes exactly the catalog merged from these contributions, unless a
file stops it (`Stops`): bytes that are no text, a number or a nesting beyond the limits of the
reader and block comments without items are not skipped but take all other files down with them.
-/

namespace SnippetDetect

/-- Where a step either fails or answers what `next` does, so does a run of such steps. -/
theorem foldlM_eq_ok_iff {α ε σ : Type} {step : σ → α → Except ε σ} {stops : α → Prop}
    {next : σ → α → σ}
    (step_iff : ∀ s a made, step s a = .ok made ↔ ¬ stops a ∧ made = next s a)
    (items : List α) (s made : σ) :
    items.foldlM step s = .ok made ↔ (∀ a ∈ items, ¬ stops a) ∧ made = items.foldl next s := by
  induction items generalizing s with
  | nil =>
    constructor
    · rintro ⟨⟩
      exact ⟨fun _ mem => absurd mem List.not_mem_nil, rfl⟩
    · rintro ⟨-, rfl⟩
      rfl
  | cons item rest ih =>
    rw [List.foldlM_cons, List.forall_mem_cons, List.foldl_cons]
    constructor
    · intro succeeded
      cases head : step s item with
      | error fault => simp [head, bind, Except.bind] at succeeded
      | ok t =>
        obtain ⟨goes, rfl⟩ := (step_iff _ _ _).mp head
        rw [head] at succeeded
        obtain ⟨others, same⟩ := (ih _).mp succeeded
        exact ⟨⟨goes, others⟩, same⟩
    · rintro ⟨⟨goes, others⟩, same⟩
      rw [(step_iff s item _).mpr ⟨goes, rfl⟩]
      exact (ih _).mpr ⟨others, same⟩

/-! ### The names in a folder -/

namespace Files

variable {fs : Files} {folder : FilePath} {place : List String} {name : String}

/-- Something stands at a place if the place is known or a known one lies below it. -/
theorem isSome_at?_iff :
    (fs.at? place).isSome ↔ ∃ known ∈ fs.entries.map (·.1) ++ [fs.base], place <+: known := by
  simp only [List.mem_append, List.mem_map, List.mem_singleton]
  unfold at?
  cases found : fs.entries.lookup place with
  | some content =>
    obtain ⟨before, after, split, -⟩ := List.lookup_eq_some_iff.mp found
    refine iff_of_true ?_ ⟨place, .inl ⟨(place, content), by simp [split], rfl⟩, place.prefix_refl⟩
    cases content <;> rfl
  | none =>
    simp only [Bool.or_eq_true, List.isPrefixOf_iff_prefix, List.any_eq_true]
    split
    · next below =>
      rcases below with above | ⟨entry, mem, above⟩
      · exact iff_of_true rfl ⟨fs.base, .inr rfl, above⟩
      · exact iff_of_true rfl ⟨entry.1, .inl ⟨entry, mem, rfl⟩, above⟩
    · next apart =>
      simp only [Option.isSome_none, Bool.false_eq_true, false_iff]
      rintro ⟨known, ⟨entry, mem, rfl⟩ | rfl, above⟩
      · exact apart (.inr ⟨entry, mem, above⟩)
      · exact apart (.inl above)

theorem concat_prefix_iff {known : List String} :
    place ++ [name] <+: known ↔ place <+: known ∧ known[place.length]? = some name := by
  constructor
  · rintro ⟨rest, rfl⟩
    exact ⟨⟨name :: rest, by simp⟩, by simp⟩
  · rintro ⟨⟨rest, rfl⟩, next⟩
    rw [List.getElem?_append_right (Nat.le_refl _), Nat.sub_self] at next
    cases rest with
    | nil => cases next
    | cons other rest =>
      cases next
      exact ⟨rest, by simp⟩

/-- The names in a folder are those of the places right below it. -/
theorem mem_names_iff : name ∈ fs.names folder ↔
    ∃ place, fs.resolve folder = .ok place ∧ (fs.at? (place ++ [name])).isSome := by
  unfold names
  cases fs.resolve folder with
  | error fault => simp
  | ok place =>
    rw [List.mem_mergeSort, List.mem_eraseDups, List.mem_filterMap]
    simp only [Except.ok.injEq, exists_eq_left', isSome_at?_iff, concat_prefix_iff]
    constructor
    · rintro ⟨known, mem, next⟩
      split at next
      · next above => exact ⟨known, mem, List.isPrefixOf_iff_prefix.mp above, next⟩
      · cases next
    · rintro ⟨known, mem, above, next⟩
      exact ⟨known, mem, by rwa [if_pos (List.isPrefixOf_iff_prefix.mpr above)]⟩

theorem pairwise_names (fs : Files) (folder : FilePath) : (fs.names folder).Pairwise (· < ·) := by
  unfold names
  cases fs.resolve folder with
  | error fault => exact List.Pairwise.nil
  | ok place =>
    refine @pairwise_mergeSort_lt String id _ ?_
    rw [List.map_id]
    exact nodup_eraseDups _

end Files

namespace Catalog

/-! ### What a file contributes -/

/-- The JSON value that a file holds. -/
def valueIn? (depth : Nat) (fs : Files) (path : FilePath) : Option Json := do
  let bytes ← (fs.bytes path).toOption
  let text ← (Files.decode bytes).toOption
  (Json.parse depth text).toOption

/-- The entries of the value in a file: the items of a list, or the value alone. -/
def entriesOf : Json → List Json
  | .arr entries => entries
  | entry => [entry]

/-- The definitions among entries, in order. -/
def valid (entries : List Json) : List Language :=
  entries.filterMap fun entry => (Language.ofJson entry).toOption

/-- The definitions in a file. -/
def contribution (depth : Nat) (fs : Files) (path : FilePath) : List Language :=
  (valueIn? depth fs path).elim [] fun value => valid (entriesOf value)

/-- The block comments of the entry are of a kind that has no items. -/
def Bare (entry : Json) : Prop := ∃ kind, Language.ofJson entry = .error (.noItems kind)

/-- What in a file stops the loading of its folder. -/
inductive Stops (depth : Nat) (fs : Files) (path : FilePath) : Prop where
  | encoding {bytes : List Nat} {error : Text.Utf8Error} : fs.bytes path = .ok bytes →
      Files.decode bytes = .error error → Stops depth fs path
  | digits {bytes : List Nat} {text : String} {count : Nat} : fs.bytes path = .ok bytes →
      Files.decode bytes = .ok text → Json.parse depth text = .error (.tooManyDigits count) →
      Stops depth fs path
  | depth {bytes : List Nat} {text : String} : fs.bytes path = .ok bytes →
      Files.decode bytes = .ok text → Json.parse depth text = .error .tooDeep → Stops depth fs path
  | entry {value entry : Json} : valueIn? depth fs path = some value → entry ∈ entriesOf value →
      Bare entry → Stops depth fs path

/-! ### Reading a file -/

section Reading

variable {depth : Nat} {fs : Files} {folder path : FilePath} {entries : List Json} {ls : List Language}

theorem foldl_valid (entries : List Json) (read : List Language) :
    entries.foldl (fun read entry => read ++ (Language.ofJson entry).toOption.toList) read =
      read ++ valid entries := by
  induction entries generalizing read with
  | nil => exact (List.append_nil read).symm
  | cons entry rest ih =>
    rw [List.foldl_cons, ih, List.append_assoc, valid, valid, List.filterMap_cons]
    cases (Language.ofJson entry).toOption <;> rfl

theorem definitions_eq_ok_iff :
    definitions entries = .ok ls ↔ (∀ entry ∈ entries, ¬ Bare entry) ∧ ls = valid entries := by
  rw [← List.nil_append (valid entries), ← foldl_valid]
  refine foldlM_eq_ok_iff (fun read entry made => ?_) entries [] ls
  unfold Bare
  cases Language.ofJson entry with
  | ok language => simp [Except.toOption, eq_comm]
  | error fault => cases fault <;> simp [Except.toOption, eq_comm]

theorem ofText_of_value {text : String} {value : Json} (parsed : Json.parse depth text = .ok value) :
    ofText depth text = definitions (entriesOf value) := by
  rw [ofText, parsed]
  cases value <;> rfl

/-- A text that is no JSON holds no definitions; one beyond the limits cannot be read. -/
theorem ofText_of_fault {text : String} {fault : Json.Fault}
    (refused : Json.parse depth text = .error fault) :
    ofText depth text = .ok ls ↔ (∃ problem place, fault = .malformed problem place) ∧ ls = [] := by
  rw [ofText, refused]
  cases fault <;> simp [eq_comm]

theorem valueIn?_of_no_bytes (depth : Nat) {fault : Files.Fault}
    (unreadable : fs.bytes path = .error fault) : valueIn? depth fs path = none := by
  rw [valueIn?, unreadable]
  rfl

theorem valueIn?_of_text {bytes : List Nat} {text : String} (read : fs.bytes path = .ok bytes)
    (decoded : Files.decode bytes = .ok text) :
    valueIn? depth fs path = (Json.parse depth text).toOption := by
  rw [valueIn?, read]
  simp only [Except.toOption, decoded, Option.bind_eq_bind, Option.bind_some]

/-- A text stops the loading by its limits or by its entries. -/
theorem stops_iff_of_text {bytes : List Nat} {text : String} (read : fs.bytes path = .ok bytes)
    (decoded : Files.decode bytes = .ok text) :
    Stops depth fs path ↔ (∃ count, Json.parse depth text = .error (.tooManyDigits count)) ∨
      Json.parse depth text = .error .tooDeep ∨
        ∃ value, Json.parse depth text = .ok value ∧ ∃ entry ∈ entriesOf value, Bare entry := by
  constructor
  · rintro (⟨stands, fails⟩ | ⟨stands, same, parsed⟩ | ⟨stands, same, parsed⟩ | ⟨held, mem, bare⟩)
    · cases read.symm.trans stands
      cases decoded.symm.trans fails
    · cases read.symm.trans stands
      cases decoded.symm.trans same
      exact .inl ⟨_, parsed⟩
    · cases read.symm.trans stands
      cases decoded.symm.trans same
      exact .inr (.inl parsed)
    · rw [valueIn?_of_text read decoded] at held
      cases parsed : Json.parse depth text with
      | error fault =>
        rw [parsed] at held
        cases held
      | ok value =>
        rw [parsed] at held
        cases held
        exact .inr (.inr ⟨_, rfl, _, mem, bare⟩)
  · rintro (⟨count, parsed⟩ | parsed | ⟨value, parsed, entry, mem, bare⟩)
    · exact .digits read decoded parsed
    · exact .depth read decoded parsed
    · refine .entry ?_ mem bare
      rw [valueIn?_of_text read decoded, parsed]
      rfl

/-- A file that stops nothing is read for what it contributes. -/
theorem ofFile_eq_ok_iff :
    ofFile depth fs path = .ok ls ↔ ¬ Stops depth fs path ∧ ls = contribution depth fs path := by
  cases read : fs.bytes path with
  | error fault =>
    have empty := valueIn?_of_no_bytes depth read
    have goes : ¬ Stops depth fs path := by
      rintro (⟨stands, -⟩ | ⟨stands, -, -⟩ | ⟨stands, -, -⟩ | ⟨held, -, -⟩)
      · cases read.symm.trans stands
      · cases read.symm.trans stands
      · cases read.symm.trans stands
      · cases empty.symm.trans held
    rw [ofFile, read, contribution, empty]
    simp [goes, eq_comm]
  | ok bytes =>
    cases decoded : Files.decode bytes with
    | error error =>
      have stops : Stops depth fs path := .encoding read decoded
      rw [ofFile, read]
      simp [decoded, stops]
    | ok text =>
      have file : ofFile depth fs path = ofText depth text := by
        rw [ofFile, read]
        simp only [decoded]
      rw [file, stops_iff_of_text read decoded, contribution, valueIn?_of_text read decoded]
      cases parsed : Json.parse depth text with
      | error fault =>
        rw [ofText_of_fault parsed]
        cases fault <;> simp [Except.toOption]
      | ok value =>
        rw [ofText_of_value parsed, definitions_eq_ok_iff]
        simp [Except.toOption]

end Reading

/-! ### Merging -/

/-- The catalog holds the last definition of each name, the names in the order in which they first
occur. -/
structure IsMerged (c : Catalog) (ls : List Language) : Prop where
  names : entryNames c = (ls.map (·.name)).eraseDups
  values : ∀ name, valueOf? c name = (ls.filter fun l => l.name = name).getLast?

theorem isMerged_addAll (ls : List Language) : IsMerged (addAll [] ls) ls where
  names := entryNames_foldl_setEntry (fun l : Language => l.name) ls [] List.nodup_nil
  values name := by
    have found := valueOf?_foldl_setEntry (fun l : Language => l.name) ls [] name
    rwa [valueOf?_nil, Option.or_none] at found

theorem isMerged_iff {c : Catalog} {ls : List Language} : IsMerged c ls ↔ c = addAll [] ls := by
  constructor
  · intro merged
    have same := isMerged_addAll ls
    apply entries_ext (merged.names.trans same.names.symm)
    · rw [merged.names]
      exact nodup_eraseDups _
    · intro name
      rw [merged.values, same.values]
  · rintro rfl
    exact isMerged_addAll ls

/-! ### Loading a folder -/

section Loading

variable {depth : Nat} {fs : Files} {folder : FilePath} {c : Catalog}

/-- The definitions in the files of a folder, file by file. -/
def contributions (depth : Nat) (fs : Files) (folder : FilePath) : List Language :=
  (sources fs folder).flatMap fun name => contribution depth fs (inside folder name)

theorem foldl_addAll (names : List String) (definitionsOf : String → List Language) (c : Catalog) :
    names.foldl (fun c name => c.addAll (definitionsOf name)) c =
      c.addAll (names.flatMap definitionsOf) := by
  rw [addAll, List.foldl_flatMap]
  rfl

theorem load_eq_ok_iff (stands : fs.isFolder folder = true) : load depth fs folder = .ok c ↔
    (∀ name ∈ sources fs folder, ¬ Stops depth fs (inside folder name)) ∧
      IsMerged c (contributions depth fs folder) := by
  rw [load, if_pos stands, isMerged_iff, contributions, ← foldl_addAll]
  refine foldlM_eq_ok_iff (fun c name made => ?_) _ [] c
  rw [bind_eq_ok_iff]
  simp only [ofFile_eq_ok_iff]
  constructor
  · rintro ⟨_, ⟨goes, rfl⟩, ⟨⟩⟩
    exact ⟨goes, rfl⟩
  · rintro ⟨goes, rfl⟩
    exact ⟨_, ⟨goes, rfl⟩, rfl⟩

theorem mem_sources_iff {name : String} : name ∈ sources fs folder ↔ name.endsWith ".json" = true ∧
    ∃ place, fs.resolve folder = .ok place ∧ (fs.at? (place ++ [name])).isSome := by
  rw [sources, List.mem_filter, Files.mem_names_iff, and_comm]

theorem pairwise_sources (fs : Files) (folder : FilePath) :
    (sources fs folder).Pairwise (· < ·) :=
  (Files.pairwise_names fs folder).filter _

end Loading

/-- A folder is gone through in the order of the names of its files, which are all that stand in it
with the ending of definitions. Unless one of them stops it, loading succeeds and makes the catalog
merged from what they contribute, to which a file that cannot be read or holds no JSON and an entry
that is no definition add nothing. -/
theorem load_of_isFolder (depth : Nat) {fs : Files} {folder : FilePath}
    (stands : fs.isFolder folder = true) :
    ((sources fs folder).Pairwise (· < ·) ∧
      ∀ name, name ∈ sources fs folder ↔ name.endsWith ".json" = true ∧
        ∃ place, fs.resolve folder = .ok place ∧ (fs.at? (place ++ [name])).isSome) ∧
    ∀ c, load depth fs folder = .ok c ↔
      (∀ name ∈ sources fs folder, ¬ Stops depth fs (inside folder name)) ∧
        IsMerged c (contributions depth fs folder) :=
  ⟨⟨pairwise_sources fs folder, fun _ => mem_sources_iff⟩, fun _ => load_eq_ok_iff stands⟩

/-- The bytes of a text of plain characters. -/
def plainBytes (text : String) : List Nat := text.toList.map (·.toNat)

/-- A folder with files in the order of their names. -/
def folderOf (files : List (String × List Nat)) : Files where
  base := []
  entries := files.map fun (name, bytes) => (["patterns", name], some bytes)

/-- The path of that folder. -/
def patterns : FilePath := ⟨0, ["patterns"]⟩

/-- A broken file, a list with an entry that is no definition, and a second definition of a name. -/
def mixed : Files := folderOf
  [("a.json", plainBytes "\x7b"),
    ("b.json", plainBytes "[\x7b\"name\": \"Beta\"\x7d, 7, \x7b\"name\": \"alpha\"\x7d]"),
    ("c.json", plainBytes "\x7b\"name\": \"beta\", \"keywords\": [\"x\"]\x7d"),
    ("notes.txt", plainBytes "x")]

theorem sources_mixed : sources mixed patterns = ["a.json", "b.json", "c.json"] := by
  have names : mixed.names patterns = ["a.json", "b.json", "c.json", "notes.txt"] :=
    List.mergeSort_of_pairwise (by decide)
  rw [sources, names]
  decide +kernel

theorem load_of_isFolder_mixed : mixed.isFolder patterns = true ∧
    load 2 mixed patterns =
      .ok [("beta", { name := "beta", keywords := ["x"] }), ("alpha", { name := "alpha" })] := by
  have stands : mixed.isFolder patterns = true := by decide
  have broken : ofFile 2 mixed (inside patterns "a.json") = .ok [] := by rfl
  have listed : ofFile 2 mixed (inside patterns "b.json") =
      .ok [{ name := "beta" }, { name := "alpha" }] := by rfl
  have single : ofFile 2 mixed (inside patterns "c.json") =
      .ok [{ name := "beta", keywords := ["x"] }] := by rfl
  rw [ofFile_eq_ok_iff] at broken listed single
  refine ⟨stands, ((load_of_isFolder 2 stands).2 _).mpr ⟨?_, ?_⟩⟩
  · simp only [sources_mixed, List.forall_mem_cons]
    exact ⟨broken.1, listed.1, single.1, fun _ mem => absurd mem List.not_mem_nil⟩
  · rw [isMerged_iff, contributions, sources_mixed]
    simp only [List.flatMap_cons, ← broken.2, ← listed.2, ← single.2]
    rfl

/-- A file that is no text beside one with a definition. -/
def spoiled : Files := folderOf
  [("a.json", [255]), ("b.json", plainBytes "\x7b\"name\": \"beta\"\x7d")]

/-- One byte that is no text keeps all other files from being loaded. -/
theorem not_load_skips : ¬ ∃ depth, ∀ fs folder, fs.isFolder folder = true →
    ∃ c, load depth fs folder = .ok c ∧ IsMerged c (contributions depth fs folder) := by
  rintro ⟨depth, skips⟩
  have stands : spoiled.isFolder patterns = true := by decide
  obtain ⟨c, loaded, -⟩ := skips _ _ stands
  have among : "a.json" ∈ sources spoiled patterns :=
    mem_sources_iff.mpr ⟨by decide +kernel, ["patterns"], rfl, rfl⟩
  exact ((load_eq_ok_iff stands).mp loaded).1 _ among (.encoding rfl rfl)

end Catalog

end SnippetDetect
