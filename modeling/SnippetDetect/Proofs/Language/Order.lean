import SnippetDetect.Proofs.Detector.Loading
import SnippetDetect.Proofs.Language.Folders
import Mathlib.Data.List.Induction

/-!
The order of a catalog.

A catalog lists its languages in the order in which their names first occur, file by file. That is
the order of the names only where every definition either repeats a name or comes with one that is
greater than all before it (`Rising`). A folder in which every entry is a definition is loaded in
any case, and the names in it decide whether its catalog is in order (`order_of_load`): neither the
names of the files nor the loading itself puts them in order (`not_load_ascending`).
-/

namespace SnippetDetect

/-! ### First occurrences -/

/-- Each name either repeats one before it or is greater than all of them. -/
def Rising (names : List String) : Prop :=
  ∀ before name after, names = before ++ name :: after →
    name ∈ before ∨ ∀ other ∈ before, other < name

theorem rising_concat_iff {names : List String} {name : String} :
    Rising (names ++ [name]) ↔ Rising names ∧ (name ∈ names ∨ ∀ other ∈ names, other < name) := by
  constructor
  · intro rising
    refine ⟨?_, rising names name [] rfl⟩
    rintro before other after rfl
    exact rising before other (after ++ [name]) (by simp)
  · rintro ⟨rising, last⟩ before other after split
    rcases List.eq_nil_or_concat after with rfl | ⟨inside, final, rfl⟩
    · obtain ⟨rfl, same⟩ := List.append_inj' split rfl
      cases same
      exact last
    · rw [List.concat_eq_append, ← List.cons_append, ← List.append_assoc] at split
      exact rising before other inside (List.append_inj' split rfl).1

/-- First occurrences stand in strictly ascending order exactly where the names rise. -/
theorem pairwise_eraseDups_iff {names : List String} :
    names.eraseDups.Pairwise (· < ·) ↔ Rising names := by
  induction names using List.reverseRecOn with
  | nil =>
    refine iff_of_true List.Pairwise.nil ?_
    intro before name after split
    simp at split
  | append_singleton names name ih =>
    rw [rising_concat_iff, ← ih, eraseDups_concat]
    split
    · next there => simp only [there, true_or, and_true]
    · next fresh => simp [List.pairwise_append, fresh]

theorem ascending_iff {α : Type} {entries : List (String × α)} :
    Ascending entries ↔ (entryNames entries).Pairwise (· < ·) := by
  rw [Ascending, entryNames, List.pairwise_map]

namespace Catalog

/-! ### Folders without a fault -/

section Loading

variable {depth : Nat} {fs : Files} {folder path : FilePath} {c : Catalog}

/-- The file holds one definition or a list of them and nothing else. -/
def IsSound (depth : Nat) (fs : Files) (path : FilePath) : Prop :=
  ∃ value, valueIn? depth fs path = some value ∧
    ∀ entry ∈ entriesOf value, ∃ l, Language.ofJson entry = .ok l

theorem valueIn?_eq_some_iff {value : Json} : valueIn? depth fs path = some value ↔
    ∃ bytes text, fs.bytes path = .ok bytes ∧ Files.decode bytes = .ok text ∧
      Json.parse depth text = .ok value := by
  have found {ε α : Type} {e : Except ε α} {a : α} : e.toOption = some a ↔ e = .ok a := by
    cases e <;> simp [Except.toOption]
  simp [valueIn?, Option.bind_eq_some_iff, found]

theorem IsSound.not_stops (sound : IsSound depth fs path) : ¬ Stops depth fs path := by
  obtain ⟨value, held, all⟩ := sound
  obtain ⟨bytes, text, read, decoded, parsed⟩ := valueIn?_eq_some_iff.mp held
  rw [stops_iff_of_text read decoded, parsed]
  rintro (⟨_, ⟨⟩⟩ | ⟨⟨⟩⟩ | ⟨_, ⟨⟩, entry, mem, kind, failed⟩)
  obtain ⟨l, made⟩ := all entry mem
  cases made.symm.trans failed

/-- The names of the definitions in a folder, file by file. -/
def namesIn (depth : Nat) (fs : Files) (folder : FilePath) : List String :=
  (contributions depth fs folder).map (·.name)

theorem IsMerged.ascending_iff {languages : List Language} (merged : IsMerged c languages) :
    Ascending c ↔ Rising (languages.map (·.name)) := by
  rw [SnippetDetect.ascending_iff, merged.names, pairwise_eraseDups_iff]

end Loading

/-- A folder of definitions is loaded. Its catalog lists the names in the order in which they first
occur, and that is their own order exactly where each definition repeats a name or comes with a
greater one than all before. -/
theorem order_of_load {depth : Nat} {fs : Files} {folder : FilePath}
    (stands : fs.isFolder folder = true)
    (sound : ∀ name ∈ sources fs folder, IsSound depth fs (inside folder name)) :
    ∃ c, load depth fs folder = .ok c ∧ IsMerged c (contributions depth fs folder) ∧
      (Ascending c ↔ Rising (namesIn depth fs folder)) := by
  have merged := isMerged_addAll (contributions depth fs folder)
  have loaded := (load_eq_ok_iff stands).mpr ⟨fun name mem => (sound name mem).not_stops, merged⟩
  exact ⟨_, loaded, merged, merged.ascending_iff⟩

/-- Two files, each with the one language it is named after. -/
def namesakes : Files := folderOf
  [("c++.json", plainBytes "\x7b\"name\": \"c++\"\x7d"),
    ("c.json", plainBytes "\x7b\"name\": \"c\"\x7d")]

theorem isFolder_namesakes : namesakes.isFolder patterns = true := by decide

theorem sources_namesakes : sources namesakes patterns = ["c++.json", "c.json"] := by
  have names : namesakes.names patterns = ["c++.json", "c.json"] :=
    List.mergeSort_of_pairwise (by decide)
  rw [sources, names]
  decide +kernel

theorem isSound_namesakes :
    ∀ name ∈ sources namesakes patterns, IsSound 1 namesakes (inside patterns name) := by
  simp only [sources_namesakes, List.forall_mem_cons]
  refine ⟨⟨.obj [("name", .str "c++")], rfl, ?_⟩, ⟨.obj [("name", .str "c")], rfl, ?_⟩, nofun⟩
  · exact List.forall_mem_singleton.mpr ⟨{ name := "c++" }, rfl⟩
  · exact List.forall_mem_singleton.mpr ⟨{ name := "c" }, rfl⟩

theorem namesIn_namesakes : namesIn 1 namesakes patterns = ["c++", "c"] := by
  rw [namesIn, contributions, sources_namesakes]
  rfl

/-- A plus stands before the point of an ending, but nothing stands before the end of a name. -/
theorem not_rising_namesakes : ¬ Rising (namesIn 1 namesakes patterns) := by
  rw [namesIn_namesakes, ← pairwise_eraseDups_iff]
  decide

theorem order_of_load_namesakes :
    ∃ c, load 1 namesakes patterns = .ok c ∧ entryNames c = ["c++", "c"] ∧ ¬ Ascending c := by
  obtain ⟨c, loaded, merged, ascending_iff⟩ := order_of_load isFolder_namesakes isSound_namesakes
  refine ⟨c, loaded, ?_, fun ascending => not_rising_namesakes (ascending_iff.mp ascending)⟩
  have names : (contributions 1 namesakes patterns).map (·.name) = ["c++", "c"] := namesIn_namesakes
  rw [merged.names, names]
  decide

/-- Files in the order of their names do not put their languages in order. -/
theorem not_load_ascending : ¬ ∀ depth fs folder, fs.isFolder folder = true →
    (∀ name ∈ sources fs folder, IsSound depth fs (inside folder name)) →
      ∃ c, load depth fs folder = .ok c ∧ Ascending c := by
  intro promised
  obtain ⟨c, loaded, ascending⟩ := promised _ _ _ isFolder_namesakes isSound_namesakes
  have merged := ((load_eq_ok_iff isFolder_namesakes).mp loaded).2
  exact not_rising_namesakes (merged.ascending_iff.mp ascending)

end Catalog

end SnippetDetect
