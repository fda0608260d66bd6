import SnippetDetect.Json.Basic

/-!
Named entries: what a look-up finds after an entry is set or erased, and how both act on a
list whose values are changed one by one.

Where no name stands twice, a list of entries is given by its names in order and by what a look-up
finds (`entries_ext`). Items that are set under their names in turn stand in the order in which
these first occur, and the last item of a name is found (`entryNames_foldl_setEntry`,
`valueOf?_foldl_setEntry`).
-/

namespace SnippetDetect

variable {α β : Type}

/-- The names of entries, in order. -/
def entryNames (entries : List (String × α)) : List String := entries.map (·.1)

/-- Entries with every value changed and every name kept. -/
def mapEntries (f : α → β) (entries : List (String × α)) : List (String × β) :=
  entries.map fun (name, value) => (name, f value)

@[simp] theorem valueOf?_nil (name : String) : valueOf? ([] : List (String × α)) name = none := rfl

theorem valueOf?_cons (entry : String × α) (rest : List (String × α)) (name : String) :
    valueOf? (entry :: rest) name = if name = entry.1 then some entry.2 else valueOf? rest name := by
  obtain ⟨n, v⟩ := entry
  by_cases same : name = n
  · simp [valueOf?, same]
  · have differ : (name == n) = false := beq_false_of_ne same
    simp [valueOf?, List.lookup_cons, differ, same]

/-! ### Names without repetitions -/

section Names

theorem nodup_eraseDups (names : List String) : names.eraseDups.Nodup := by
  induction size : names.length using Nat.strongRecOn generalizing names with
  | _ n ih =>
    cases names with
    | nil => exact List.nodup_nil
    | cons name rest =>
      have fewer := List.length_filter_le (fun other => !other == name) rest
      have short : (rest.filter fun other => !other == name).length < n := by
        rw [← size, List.length_cons]
        omega
      rw [List.eraseDups_cons, List.nodup_cons]
      exact ⟨by simp, ih _ short _ rfl⟩

/-- A list without repetitions is kept. -/
theorem eraseDups_of_nodup {names : List String} (distinct : names.Nodup) :
    names.eraseDups = names := by
  induction names with
  | nil => rfl
  | cons name rest ih =>
    rw [List.nodup_cons] at distinct
    have kept : rest.filter (fun other => !other == name) = rest := by
      rw [List.filter_eq_self]
      intro other mem
      have differ : other ≠ name := fun same => distinct.1 (same ▸ mem)
      simpa using differ
    rw [List.eraseDups_cons, kept, ih distinct.2]

/-- A name at the end is kept unless it stands before. -/
theorem eraseDups_concat (names : List String) (name : String) :
    (names ++ [name]).eraseDups =
      if name ∈ names then names.eraseDups else names.eraseDups ++ [name] := by
  rw [List.eraseDups_append]
  split
  · next there => simp [List.removeAll, there]
  · next fresh =>
    have kept : [name].removeAll names = [name] := by simp [List.removeAll, fresh]
    rw [kept, eraseDups_of_nodup (List.nodup_cons.mpr ⟨List.not_mem_nil, List.nodup_nil⟩)]

/-- Items without equal keys stand in strictly ascending order once they are sorted by them. -/
theorem pairwise_mergeSort_lt {key : α → String} {items : List α}
    (distinct : (items.map key).Nodup) :
    (items.mergeSort fun a b => !decide (key b < key a)).Pairwise fun a b => key a < key b := by
  have sorted : (items.mergeSort fun a b => !decide (key b < key a)).Pairwise
      fun a b => !decide (key b < key a) := by
    apply List.pairwise_mergeSort
    · intro a b c first second
      simp only [Bool.not_eq_true', decide_eq_false_iff_not, String.not_lt] at first second ⊢
      exact String.le_trans first second
    · intro a b
      simp only [Bool.or_eq_true, Bool.not_eq_true', decide_eq_false_iff_not, String.not_lt]
      exact String.le_total (key a) (key b)
  have differ := ((items.mergeSort_perm fun a b => !decide (key b < key a)).map key).nodup_iff.mpr
    distinct
  rw [List.nodup_iff_pairwise_ne, List.pairwise_map] at differ
  apply (sorted.and differ).imp
  rintro a b ⟨notGreater, differ⟩
  simp only [Bool.not_eq_true', decide_eq_false_iff_not, String.not_lt] at notGreater
  exact Decidable.byContradiction fun notLess =>
    differ (String.le_antisymm notGreater (String.not_lt.mp notLess))

end Names

/-! ### Looking up -/

theorem mem_of_valueOf? {entries : List (String × α)} {name : String} {value : α}
    (found : valueOf? entries name = some value) : (name, value) ∈ entries := by
  induction entries with
  | nil => simp at found
  | cons entry rest ih =>
    rw [valueOf?_cons] at found
    split at found
    · next same =>
      obtain ⟨n, v⟩ := entry
      cases found
      simp [same]
    · exact List.mem_cons_of_mem _ (ih found)

theorem valueOf?_isSome_iff {entries : List (String × α)} {name : String} :
    (valueOf? entries name).isSome ↔ name ∈ entryNames entries := by
  induction entries with
  | nil => simp [entryNames]
  | cons entry rest ih =>
    rw [valueOf?_cons]
    by_cases same : name = entry.1
    · simp [entryNames, same]
    · simpa [entryNames, same] using ih

theorem valueOf?_eq_none_iff {entries : List (String × α)} {name : String} :
    valueOf? entries name = none ↔ name ∉ entryNames entries := by
  rw [← valueOf?_isSome_iff, Bool.not_eq_true, Option.isSome_eq_false_iff, Option.isNone_iff_eq_none]

/-- Where no name stands twice, every entry is found. -/
theorem valueOf?_of_mem {entries : List (String × α)} {name : String} {value : α}
    (distinct : (entryNames entries).Nodup) (mem : (name, value) ∈ entries) :
    valueOf? entries name = some value := by
  induction entries with
  | nil => simp at mem
  | cons entry rest ih =>
    simp only [entryNames, List.map_cons, List.nodup_cons] at distinct
    rw [valueOf?_cons]
    rcases List.mem_cons.mp mem with rfl | later
    · simp
    · have other : name ≠ entry.1 := by
        rintro rfl
        exact distinct.1 (List.mem_map_of_mem (f := (·.1)) later)
      simpa [other] using ih distinct.2 later

theorem nodup_entryNames_of_perm {xs ys : List (String × α)} (same : xs.Perm ys)
    (distinct : (entryNames ys).Nodup) : (entryNames xs).Nodup :=
  (same.map Prod.fst).nodup_iff.mpr distinct

/-- Entries with the same names, none of them twice, and the same findings are the same. -/
theorem entries_ext {xs ys : List (String × α)} (names : entryNames xs = entryNames ys)
    (distinct : (entryNames xs).Nodup) (found : ∀ name, valueOf? xs name = valueOf? ys name) :
    xs = ys := by
  induction xs generalizing ys with
  | nil => cases ys with
    | nil => rfl
    | cons y ys => simp [entryNames] at names
  | cons x xs ih =>
    cases ys with
    | nil => simp [entryNames] at names
    | cons y ys =>
      simp only [entryNames, List.map_cons, List.cons.injEq, List.nodup_cons] at names distinct
      have value : x.2 = y.2 := by
        have := found x.1
        rw [valueOf?_cons, valueOf?_cons] at this
        simpa [names.1] using this
      have tails : xs = ys := by
        refine ih names.2 distinct.2 fun name => ?_
        have := found name
        rw [valueOf?_cons, valueOf?_cons, ← names.1] at this
        by_cases same : name = x.1
        · -- The name of the head stands in neither tail.
          have left : valueOf? xs name = none := valueOf?_eq_none_iff.mpr (same ▸ distinct.1)
          have right : valueOf? ys name = none := by
            apply valueOf?_eq_none_iff.mpr
            rw [entryNames, ← names.2, same]
            exact distinct.1
          rw [left, right]
        · simpa [same] using this
      rw [Prod.ext names.1 value, tails]

/-! ### Setting an entry -/

theorem valueOf?_setEntry (name other : String) (value : α) (entries : List (String × α)) :
    valueOf? (setEntry name value entries) other =
      if other = name then some value else valueOf? entries other := by
  induction entries with
  | nil => simp [setEntry, valueOf?_cons]
  | cons entry rest ih =>
    obtain ⟨n, v⟩ := entry
    by_cases head : n = name
    · subst head
      by_cases same : other = n <;> simp [setEntry, valueOf?_cons, same]
    · by_cases same : other = n
      · subst same
        simp [setEntry, valueOf?_cons, head]
      · simp [setEntry, valueOf?_cons, head, same, ih]

/-- To set an entry to the value it has changes nothing. -/
theorem setEntry_eq_self {name : String} {value : α} {entries : List (String × α)}
    (found : valueOf? entries name = some value) : setEntry name value entries = entries := by
  induction entries with
  | nil => simp at found
  | cons entry rest ih =>
    obtain ⟨n, v⟩ := entry
    rw [valueOf?_cons] at found
    by_cases same : name = n
    · simp_all [setEntry]
    · have rest_found : valueOf? rest name = some value := by simpa [same] using found
      simp [setEntry, Ne.symm same, ih rest_found]

theorem entryNames_setEntry_of_mem {name : String} {entries : List (String × α)}
    (mem : name ∈ entryNames entries) (value : α) :
    entryNames (setEntry name value entries) = entryNames entries := by
  induction entries with
  | nil => simp [entryNames] at mem
  | cons entry rest ih =>
    obtain ⟨n, v⟩ := entry
    by_cases head : n = name
    · simp [setEntry, entryNames, head]
    · have later : name ∈ entryNames rest := by
        simpa [entryNames, Ne.symm head] using mem
      simpa [setEntry, entryNames, head] using ih later

theorem setEntry_of_not_mem {name : String} {entries : List (String × α)}
    (fresh : name ∉ entryNames entries) (value : α) :
    setEntry name value entries = entries ++ [(name, value)] := by
  induction entries with
  | nil => rfl
  | cons entry rest ih =>
    obtain ⟨n, v⟩ := entry
    simp only [entryNames, List.map_cons, List.mem_cons, not_or] at fresh
    simpa [setEntry, Ne.symm fresh.1] using ih fresh.2

/-- Of two values that are set the later one counts. -/
theorem setEntry_setEntry (name : String) (earlier later : α) (entries : List (String × α)) :
    setEntry name later (setEntry name earlier entries) = setEntry name later entries := by
  induction entries with
  | nil => simp [setEntry]
  | cons entry rest ih =>
    obtain ⟨n, v⟩ := entry
    by_cases head : n = name
    · simp [setEntry, head]
    · simp [setEntry, head, ih]

theorem nodup_entryNames_setEntry {name : String} {value : α} {entries : List (String × α)}
    (distinct : (entryNames entries).Nodup) : (entryNames (setEntry name value entries)).Nodup := by
  by_cases known : name ∈ entryNames entries
  · rw [entryNames_setEntry_of_mem known]
    exact distinct
  · rw [setEntry_of_not_mem known, entryNames, List.map_append]
    refine List.nodup_append.mpr ⟨distinct, by simp, ?_⟩
    rintro other mem fresh here rfl
    rw [List.map_singleton, List.mem_singleton] at here
    subst here
    exact known mem

theorem mem_setEntry {name : String} {value : α} {entries : List (String × α)}
    {entry : String × α} (mem : entry ∈ setEntry name value entries) :
    entry = (name, value) ∨ entry ∈ entries := by
  induction entries with
  | nil => simpa [setEntry] using mem
  | cons first rest ih =>
    obtain ⟨n, v⟩ := first
    by_cases head : n = name
    · rw [setEntry, if_pos head, List.mem_cons] at mem
      exact mem.imp_right (List.mem_cons_of_mem _)
    · rw [setEntry, if_neg head, List.mem_cons] at mem
      rcases mem with here | later
      · exact .inr (here ▸ List.mem_cons_self)
      · exact (ih later).imp_right (List.mem_cons_of_mem _)

/-- Where items are set under their names in turn, the last item of a name is found. -/
theorem valueOf?_foldl_setEntry (key : α → String) (items : List α) (known : List (String × α))
    (name : String) :
    valueOf? (items.foldl (fun known item => setEntry (key item) item known) known) name =
      (items.filter fun item => key item = name).getLast?.or (valueOf? known name) := by
  induction items generalizing known with
  | nil => rfl
  | cons item rest ih =>
    rw [List.foldl_cons, ih, valueOf?_setEntry]
    by_cases same : key item = name
    · rw [if_pos same.symm, List.filter_cons_of_pos (by simpa using same), List.getLast?_cons]
      cases (rest.filter fun item => key item = name).getLast? <;> rfl
    · rw [if_neg (Ne.symm same), List.filter_cons_of_neg (by simpa using same)]

theorem nodup_foldl_setEntry (key : α → String) (items : List α) {known : List (String × α)}
    (distinct : (entryNames known).Nodup) :
    (entryNames (items.foldl (fun known item => setEntry (key item) item known) known)).Nodup := by
  induction items generalizing known with
  | nil => exact distinct
  | cons item rest ih => exact ih (nodup_entryNames_setEntry distinct)

/-- Where items are set under their names in turn, the names stand in the order of their first
occurrences. -/
theorem entryNames_foldl_setEntry (key : α → String) (items : List α) (known : List (String × α))
    (distinct : (entryNames known).Nodup) :
    entryNames (items.foldl (fun known item => setEntry (key item) item known) known) =
      (entryNames known ++ items.map key).eraseDups := by
  induction items generalizing known with
  | nil =>
    rw [List.foldl_nil, List.map_nil, List.append_nil, eraseDups_of_nodup distinct]
  | cons item rest ih =>
    rw [List.foldl_cons, ih _ (nodup_entryNames_setEntry distinct), List.map_cons, List.append_cons]
    by_cases there : key item ∈ entryNames known
    · -- A name that is known already counts for nothing.
      have named : ∀ name, (entryNames known ++ [key item]).contains name =
          (entryNames known).contains name := by
        intro name
        by_cases same : name = key item <;> simp [same, there]
      rw [entryNames_setEntry_of_mem there, List.eraseDups_append, List.eraseDups_append,
        eraseDups_concat, if_pos there]
      simp only [List.removeAll, List.elem_eq_contains, named]
    · rw [setEntry_of_not_mem there, entryNames, List.map_append]
      rfl

/-! ### Erasing an entry -/

theorem valueOf?_eraseEntry (name other : String) (entries : List (String × α)) :
    valueOf? (eraseEntry name entries) other =
      if other = name then none else valueOf? entries other := by
  induction entries with
  | nil => simp [eraseEntry]
  | cons entry rest ih =>
    obtain ⟨n, v⟩ := entry
    by_cases head : n = name
    · subst head
      by_cases same : other = n <;> simp_all [eraseEntry, valueOf?_cons]
    · by_cases same : other = n
      · subst same
        simp [eraseEntry, valueOf?_cons, head]
      · simpa [eraseEntry, valueOf?_cons, head, same] using ih

theorem entryNames_eraseEntry (name : String) (entries : List (String × α)) :
    entryNames (eraseEntry name entries) = (entryNames entries).filter (· ≠ name) := by
  simp [entryNames, eraseEntry, List.filter_map, Function.comp_def]

/-! ### Changing every value -/

theorem entryNames_mapEntries (f : α → β) (entries : List (String × α)) :
    entryNames (mapEntries f entries) = entryNames entries := by
  simp [entryNames, mapEntries]

theorem valueOf?_mapEntries (f : α → β) (entries : List (String × α)) (name : String) :
    valueOf? (mapEntries f entries) name = (valueOf? entries name).map f := by
  induction entries with
  | nil => rfl
  | cons entry rest ih =>
    rw [mapEntries, List.map_cons, valueOf?_cons, valueOf?_cons]
    by_cases same : name = entry.1
    · simp [same]
    · simpa [same, mapEntries] using ih

theorem mapEntries_setEntry (f : α → β) (name : String) (value : α) (entries : List (String × α)) :
    mapEntries f (setEntry name value entries) = setEntry name (f value) (mapEntries f entries) := by
  induction entries with
  | nil => rfl
  | cons entry rest ih =>
    obtain ⟨n, v⟩ := entry
    by_cases head : n = name
    · simp [mapEntries, setEntry, head]
    · simpa [mapEntries, setEntry, head] using ih

theorem mapEntries_eraseEntry (f : α → β) (name : String) (entries : List (String × α)) :
    mapEntries f (eraseEntry name entries) = eraseEntry name (mapEntries f entries) := by
  simp [mapEntries, eraseEntry, List.filter_map, Function.comp_def]

theorem mapEntries_congr {f g : α → β} {entries : List (String × α)}
    (same : ∀ entry ∈ entries, f entry.2 = g entry.2) :
    mapEntries f entries = mapEntries g entries := by
  apply List.map_congr_left
  intro entry mem
  exact congrArg (entry.1, ·) (same entry mem)

theorem mapEntries_eq_self {f : α → α} {entries : List (String × α)}
    (same : ∀ entry ∈ entries, f entry.2 = entry.2) : mapEntries f entries = entries :=
  (mapEntries_congr (g := id) same).trans (List.map_id entries)

theorem mapEntries_mapEntries {γ : Type} (g : β → γ) (f : α → β) (entries : List (String × α)) :
    mapEntries g (mapEntries f entries) = mapEntries (fun value => g (f value)) entries := by
  simp [mapEntries]

/-- To set one entry to another change of its value is to change the values that way. -/
theorem setEntry_mapEntries {entries : List (String × α)} {name : String} {value : α}
    (distinct : (entryNames entries).Nodup) (found : valueOf? entries name = some value)
    {f g : α → β} (elsewhere : ∀ entry ∈ entries, entry.1 ≠ name → g entry.2 = f entry.2) :
    setEntry name (g value) (mapEntries f entries) = mapEntries g entries := by
  apply entries_ext
  · rw [entryNames_setEntry_of_mem, entryNames_mapEntries, entryNames_mapEntries]
    rw [entryNames_mapEntries]
    exact valueOf?_isSome_iff.mp (by rw [found, Option.isSome_some])
  · rw [entryNames_setEntry_of_mem, entryNames_mapEntries]
    · exact distinct
    · rw [entryNames_mapEntries]
      exact valueOf?_isSome_iff.mp (by rw [found, Option.isSome_some])
  · intro other
    rw [valueOf?_setEntry, valueOf?_mapEntries, valueOf?_mapEntries]
    split
    · next same => rw [same, found, Option.map_some]
    · next differ =>
      cases there : valueOf? entries other with
      | none => rfl
      | some v => rw [Option.map_some, Option.map_some, elsewhere _ (mem_of_valueOf? there) differ]

end SnippetDetect
