import SnippetDetect.Proofs.Entries
import SnippetDetect.Proofs.Json.NumberText
import SnippetDetect.Proofs.Json.StringText

/-!
JSON text read back.

A value that the reader can give (`Readable`) is read back from its text, on one line or laid
out (`parse_text`). The reader gives no object in which a name stands twice, no integer of too many
digits and no value in which containers nest too deep; every other value is readable.
-/

namespace SnippetDetect.Json

/-- A value that the reader gives when containers may nest at most `depth` deep. -/
inductive Readable : (depth : Nat) → Json → Prop
  | null {depth : Nat} : Readable depth .null
  | bool {depth : Nat} (b : Bool) : Readable depth (.bool b)
  | num {depth : Nat} {n : Number} (short : ∀ m, n = .int m → IsShort m) : Readable depth (.num n)
  | str {depth : Nat} (s : String) : Readable depth (.str s)
  | arr {depth : Nat} {items : List Json} (each : ∀ item ∈ items, Readable depth item) :
      Readable (depth + 1) (.arr items)
  | obj {depth : Nat} {members : Members} (each : ∀ entry ∈ members, Readable depth entry.2)
      (distinct : (entryNames members).Nodup) : Readable (depth + 1) (.obj members)

/-! ### Where values begin -/

/-- A text that begins with a value: with no space, no closing bracket or brace, no mark. -/
def Starts (cs : List Char) : Prop :=
  ∃ c rest, cs = c :: rest ∧ c ∉ [' ', '\t', '\n', '\r', ']', '\x7d', '\ufeff']

theorem Starts.append {cs : List Char} (starts : Starts cs) (rest : List Char) :
    Starts (cs ++ rest) := by
  obtain ⟨c, behind, rfl, other⟩ := starts
  exact ⟨c, behind ++ rest, rfl, other⟩

theorem Starts.skipSpaces_eq {cs : List Char} (starts : Starts cs) : skipSpaces cs = cs := by
  obtain ⟨c, rest, rfl, other⟩ := starts
  have solid : isSpace c = false := by
    simp only [List.mem_cons, not_or] at other
    simp [isSpace, other]
  rw [skipSpaces, List.dropWhile_cons_of_neg (by simp [solid])]

/-- What is read as a value without quotes and brackets does not begin with them. -/
theorem head_of_readPlain {cs : List Char} {answer : Json × List Char}
    (read : readPlain cs = .ok answer) :
    ∃ c rest, cs = c :: rest ∧
      c ∉ [' ', '\t', '\n', '\r', ']', '\x7d', '\ufeff', '"', '[', '\x7b'] := by
  cases cs with
  | nil => cases read
  | cons c rest =>
    refine ⟨c, rest, rfl, fun mem => ?_⟩
    simp only [List.mem_cons, List.not_mem_nil, or_false] at mem
    rcases mem with rfl | rfl | rfl | rfl | rfl | rfl | rfl | rfl | rfl | rfl <;> cases read

theorem readValue_plain {c : Char} {rest : List Char} (other : c ∉ ['"', '[', '\x7b'])
    (depth : Nat) : readValue depth (c :: rest) = readPlain (c :: rest) := by
  rw [readValue.eq_def]
  dsimp only
  split
  · next same =>
    cases same
    exact absurd (by decide) other
  · next same =>
    cases same
    exact absurd (by decide) other
  · next same =>
    cases same
    exact absurd (by decide) other
  · rfl

theorem readValue_of_readPlain {cs : List Char} {answer : Json × List Char}
    (read : readPlain cs = .ok answer) (depth : Nat) : readValue depth cs = .ok answer := by
  obtain ⟨c, rest, rfl, other⟩ := head_of_readPlain read
  have plain : c ∉ ['"', '[', '\x7b'] := fun mem =>
    other (List.mem_append_right [' ', '\t', '\n', '\r', ']', '\x7d', '\ufeff'] mem)
  rw [readValue_plain plain, read]

theorem starts_of_readPlain {cs : List Char} {answer : Json × List Char}
    (read : readPlain cs = .ok answer) : Starts cs := by
  obtain ⟨c, rest, same, other⟩ := head_of_readPlain read
  exact ⟨c, rest, same, fun mem => other (List.mem_append_left ['"', '[', '\x7b'] mem)⟩

theorem starts_quotedChars (s : String) : Starts (quotedChars s) :=
  ⟨'"', _, rfl, by decide⟩

theorem quotedChars_append (s : String) (tail : List Char) :
    quotedChars s ++ tail = '"' :: (s.toList.flatMap escapeChar ++ '"' :: tail) := by
  rw [quotedChars, List.cons_append, List.cons_append, List.append_assoc, List.singleton_append]

theorem ends_nil : Ends [] := nofun

theorem starts_write {depth : Nat} {v : Json} (readable : Readable depth v) (step : Option Nat)
    (place : Nat) : Starts (write step place v) := by
  cases readable with
  | null => exact ⟨'n', _, rfl, by decide⟩
  | bool b => cases b <;> exact ⟨_, _, rfl, by decide⟩
  | num short =>
    have read := readPlain_number short ends_nil
    rw [List.append_nil] at read
    exact starts_of_readPlain read
  | str s => exact starts_quotedChars s
  | arr each =>
    rename_i items
    cases items <;> exact ⟨'[', _, rfl, by decide⟩
  | obj each distinct =>
    rename_i members
    cases members <;> exact ⟨'\x7b', _, rfl, by decide⟩

/-! ### Space between values -/

theorem skipSpaces_lineBreak (step : Option Nat) (place : Nat) (cs : List Char) :
    skipSpaces (lineBreak step place ++ cs) = skipSpaces cs := by
  cases step with
  | none => rfl
  | some n =>
    rw [skipSpaces, List.dropWhile_append_of_pos]
    · rfl
    · intro c mem
      rcases List.mem_cons.mp mem with rfl | mem
      · rfl
      · rw [List.eq_of_mem_replicate mem]
        rfl

/-- A separator is a comma and some space. -/
theorem separator_eq (step : Option Nat) (place : Nat) :
    ∃ gap, separator step place = ',' :: gap ∧
      ∀ cs, skipSpaces (gap ++ cs) = skipSpaces cs := by
  cases step with
  | none => exact ⟨[' '], rfl, fun _ => rfl⟩
  | some n => exact ⟨lineBreak (some n) place, rfl, skipSpaces_lineBreak (some n) place⟩

theorem ends_lineBreak (step : Option Nat) (place : Nat) {closing : Char} (rest : List Char)
    (close : closing = ']' ∨ closing = '\x7d') :
    Ends (lineBreak step place ++ closing :: rest) := by
  cases step with
  | none =>
    rintro c ⟨⟩
    rcases close with rfl | rfl
    · exact .inr (.inl rfl)
    · exact .inr (.inr (.inl rfl))
  | some n =>
    rintro c ⟨⟩
    exact .inr (.inr (.inr rfl))

theorem ends_separator (step : Option Nat) (place : Nat) (rest : List Char) :
    Ends (separator step place ++ rest) := by
  obtain ⟨gap, split, -⟩ := separator_eq step place
  rw [split]
  rintro c ⟨⟩
  exact .inl rfl

/-! ### Lists and objects -/

section Containers

variable {value : List Char → Except Stop (Json × List Char)} {step : Option Nat}
  {place : Nat} (outer : Nat)

/-- A value is read back from its text, whatever may stand behind it. -/
def ReadsBack (value : List Char → Except Stop (Json × List Char)) (step : Option Nat)
    (place : Nat) (v : Json) : Prop :=
  Starts (write step place v) ∧
    ∀ rest, Ends rest → value (write step place v ++ rest) = .ok (v, rest)

/-- The items of a list are read back one after the other. -/
theorem readItems_write {item : Json} {items : List Json}
    (each : ∀ v ∈ item :: items, ReadsBack value step place v) {fuel : Nat}
    (enough : items.length < fuel) (read : List Json) (rest : List Char) :
    readItems value fuel read (write step place item ++ (writeItems step place items ++
      (lineBreak step outer ++ ']' :: rest))) = .ok (.arr (read.reverse ++ item :: items), rest) := by
  induction items generalizing item fuel read with
  | nil =>
    obtain ⟨fuel, rfl⟩ := Nat.exists_eq_succ_of_ne_zero (Nat.ne_of_gt enough)
    have first := (each item List.mem_cons_self).2 _ (ends_lineBreak step outer rest (.inl rfl))
    have behind : skipSpaces (lineBreak step outer ++ ']' :: rest) = ']' :: rest :=
      skipSpaces_lineBreak step outer _
    rw [writeItems, List.nil_append, readItems, first]
    simp only [bind, Except.bind, behind, List.reverse_cons]
  | cons next items ih =>
    obtain ⟨fuel, rfl⟩ := Nat.exists_eq_succ_of_ne_zero (Nat.ne_of_gt (Nat.zero_lt_of_lt enough))
    obtain ⟨gap, split, skip⟩ := separator_eq step place
    have others : ∀ v ∈ next :: items, ReadsBack value step place v := fun v mem =>
      each v (List.mem_cons_of_mem _ mem)
    have later := ih others (Nat.lt_of_succ_lt_succ enough) (item :: read)
    have text : writeItems step place (next :: items) ++ (lineBreak step outer ++ ']' :: rest) =
        separator step place ++ (write step place next ++ (writeItems step place items ++
          (lineBreak step outer ++ ']' :: rest))) := by
      simp only [writeItems, List.append_assoc]
    have first := (each item List.mem_cons_self).2 _ (ends_separator step place
      (write step place next ++ (writeItems step place items ++
        (lineBreak step outer ++ ']' :: rest))))
    have start := ((each next (by simp)).1.append (writeItems step place items ++
      (lineBreak step outer ++ ']' :: rest))).skipSpaces_eq
    have comma (cs : List Char) : skipSpaces (',' :: cs) = ',' :: cs := rfl
    rw [text, readItems, first]
    simp only [bind, Except.bind, split, List.cons_append, comma, skip, start, later]
    simp

/-- A name that does not stand yet is added at the end. -/
theorem setEntry_append {read : Members} {entry : String × Json} {members : Members}
    (distinct : (entryNames (read ++ entry :: members)).Nodup) :
    setEntry entry.1 entry.2 read = read ++ [entry] := by
  apply setEntry_of_not_mem
  rw [entryNames, List.map_append, List.map_cons, List.nodup_append] at distinct
  intro mem
  exact distinct.2.2 _ mem _ List.mem_cons_self rfl

theorem skipSpaces_colon (cs : List Char) : skipSpaces (':' :: cs) = ':' :: cs := rfl

theorem skipSpaces_blank (cs : List Char) : skipSpaces (' ' :: cs) = skipSpaces cs := rfl

section Member

variable {entry : String × Json} (back : ReadsBack value step place entry.2) (fuel : Nat)
  (read : Members) {tail behind : List Char} (ends : Ends tail)

include back ends

/-- A member before the closing brace is the last one. -/
theorem readMembers_last (closed : skipSpaces tail = '\x7d' :: behind) :
    readMembers value (fuel + 1) read
        (quotedChars entry.1 ++ ([':', ' '] ++ (write step place entry.2 ++ tail))) =
      .ok (.obj (setEntry entry.1 entry.2 read), behind) := by
  rw [quotedChars_append, readMembers]
  simp only [bind, Except.bind, readString_escaped, List.cons_append, List.nil_append,
    skipSpaces_colon, skipSpaces_blank, (back.1.append tail).skipSpaces_eq, back.2 tail ends,
    closed]

/-- Behind a member and a comma the next member is read. -/
theorem readMembers_next (comma : skipSpaces tail = ',' :: behind) :
    readMembers value (fuel + 1) read
        (quotedChars entry.1 ++ ([':', ' '] ++ (write step place entry.2 ++ tail))) =
      readMembers value fuel (setEntry entry.1 entry.2 read) (skipSpaces behind) := by
  rw [quotedChars_append, readMembers]
  simp only [bind, Except.bind, readString_escaped, List.cons_append, List.nil_append,
    skipSpaces_colon, skipSpaces_blank, (back.1.append tail).skipSpaces_eq, back.2 tail ends,
    comma]

end Member

/-- The members of an object are read back one after the other. -/
theorem readMembers_write {entry : String × Json} {members : Members}
    (each : ∀ other ∈ entry :: members, ReadsBack value step place other.2) {fuel : Nat}
    (enough : members.length < fuel) (read : Members)
    (distinct : (entryNames (read ++ entry :: members)).Nodup) (rest : List Char) :
    readMembers value fuel read (quotedChars entry.1 ++ ([':', ' '] ++ (write step place entry.2 ++
      (writeMembers step place members ++ (lineBreak step outer ++ '\x7d' :: rest))))) =
        .ok (.obj (read ++ entry :: members), rest) := by
  induction members generalizing entry fuel read with
  | nil =>
    obtain ⟨fuel, rfl⟩ := Nat.exists_eq_succ_of_ne_zero (Nat.ne_of_gt enough)
    have last := readMembers_last (each entry List.mem_cons_self) fuel read
      (ends_lineBreak step outer rest (.inr rfl)) (skipSpaces_lineBreak step outer _)
    rw [writeMembers, List.nil_append, last, setEntry_append distinct]
  | cons next members ih =>
    obtain ⟨fuel, rfl⟩ := Nat.exists_eq_succ_of_ne_zero (Nat.ne_of_gt (Nat.zero_lt_of_lt enough))
    obtain ⟨gap, split, skip⟩ := separator_eq step place
    have moved : read ++ entry :: next :: members = read ++ [entry] ++ next :: members := by simp
    have others : ∀ other ∈ next :: members, ReadsBack value step place other.2 :=
      fun other mem => each other (List.mem_cons_of_mem _ mem)
    have later := ih others (Nat.lt_of_succ_lt_succ enough) (read ++ [entry]) (moved ▸ distinct)
    set behind := quotedChars next.1 ++ ([':', ' '] ++ (write step place next.2 ++
      (writeMembers step place members ++ (lineBreak step outer ++ '\x7d' :: rest)))) with hbehind
    have text : writeMembers step place (next :: members) ++ (lineBreak step outer ++
        '\x7d' :: rest) = separator step place ++ behind := by
      simp only [writeMembers, List.append_assoc, hbehind]
    have start : skipSpaces behind = behind :=
      ((starts_quotedChars next.1).append _).skipSpaces_eq
    have comma : skipSpaces (separator step place ++ behind) = ',' :: (gap ++ behind) := by
      rw [split]
      rfl
    have first := readMembers_next (each entry List.mem_cons_self) fuel read
      (ends_separator step place behind) comma
    rw [text, first, skip, start, setEntry_append distinct, later, moved]

end Containers

/-! ### Whole values -/

theorem readValue_string (depth : Nat) (s : String) (rest : List Char) :
    readValue depth (quotedChars s ++ rest) = .ok (.str s, rest) := by
  rw [quotedChars_append, readValue.eq_def]
  simp only [readString_escaped]
  rfl

theorem length_le_writeItems (step : Option Nat) (place : Nat) (items : List Json) :
    items.length ≤ (writeItems step place items).length := by
  induction items with
  | nil => exact Nat.le_refl 0
  | cons item items ih =>
    obtain ⟨gap, split, -⟩ := separator_eq step place
    simp only [writeItems, split, List.length_append, List.length_cons]
    omega

theorem length_le_writeMembers (step : Option Nat) (place : Nat) (members : Members) :
    members.length ≤ (writeMembers step place members).length := by
  induction members with
  | nil => exact Nat.le_refl 0
  | cons entry members ih =>
    obtain ⟨gap, split, -⟩ := separator_eq step place
    simp only [writeMembers, split, List.length_append, List.length_cons]
    omega

theorem readValue_list {depth : Nat} {step : Option Nat} {place : Nat} {items : List Json}
    (each : ∀ item ∈ items, ReadsBack (readValue depth) step (place + 1) item)
    (rest : List Char) :
    readValue (depth + 1) (write step place (.arr items) ++ rest) = .ok (.arr items, rest) := by
  cases items with
  | nil => rfl
  | cons item items =>
    set ahead := write step (place + 1) item ++ (writeItems step (place + 1) items ++
      (lineBreak step place ++ ']' :: rest)) with hahead
    have text : write step place (.arr (item :: items)) ++ rest =
        '[' :: (lineBreak step (place + 1) ++ ahead) := by
      simp [write, hahead]
    have start : Starts ahead := (each item List.mem_cons_self).1.append _
    have skip : skipSpaces (lineBreak step (place + 1) ++ ahead) = ahead :=
      (skipSpaces_lineBreak _ _ _).trans start.skipSpaces_eq
    have enough : items.length < ahead.length + 1 := by
      have few := length_le_writeItems step (place + 1) items
      simp only [hahead, List.length_append]
      omega
    have reads := readItems_write place each enough [] rest
    rw [← hahead] at reads
    rw [text, readValue.eq_def]
    clear_value ahead
    simp only [skip]
    split
    · obtain ⟨c, _, first, other⟩ := start
      cases first
      simp at other
    · exact reads

theorem readValue_object {depth : Nat} {step : Option Nat} {place : Nat} {members : Members}
    (each : ∀ entry ∈ members, ReadsBack (readValue depth) step (place + 1) entry.2)
    (distinct : (entryNames members).Nodup) (rest : List Char) :
    readValue (depth + 1) (write step place (.obj members) ++ rest) = .ok (.obj members, rest) := by
  cases members with
  | nil => rfl
  | cons entry members =>
    set ahead := quotedChars entry.1 ++ ([':', ' '] ++ (write step (place + 1) entry.2 ++
      (writeMembers step (place + 1) members ++ (lineBreak step place ++ '\x7d' :: rest))))
      with hahead
    have text : write step place (.obj (entry :: members)) ++ rest =
        '\x7b' :: (lineBreak step (place + 1) ++ ahead) := by
      simp [write, hahead]
    have start : Starts ahead := (starts_quotedChars entry.1).append _
    have skip : skipSpaces (lineBreak step (place + 1) ++ ahead) = ahead :=
      (skipSpaces_lineBreak _ _ _).trans start.skipSpaces_eq
    have enough : members.length < ahead.length + 1 := by
      have few := length_le_writeMembers step (place + 1) members
      simp only [hahead, List.length_append]
      omega
    have reads := readMembers_write place each enough [] distinct rest
    rw [← hahead] at reads
    rw [text, readValue.eq_def]
    clear_value ahead
    simp only [skip]
    split
    · obtain ⟨c, _, first, other⟩ := start
      cases first
      simp at other
    · exact reads

/-- A readable value is read back from its text. -/
theorem readsBack_of_readable {depth : Nat} {v : Json} (readable : Readable depth v)
    (step : Option Nat) (place : Nat) : ReadsBack (readValue depth) step place v := by
  induction readable generalizing place with
  | null =>
    exact ⟨starts_write (@Readable.null 0) step place, fun _ _ => readValue_of_readPlain rfl _⟩
  | bool b =>
    refine ⟨starts_write (@Readable.bool 0 b) step place, fun rest _ => ?_⟩
    cases b <;> exact readValue_of_readPlain rfl _
  | num short =>
    refine ⟨starts_write (@Readable.num 0 _ short) step place, fun rest ends => ?_⟩
    exact readValue_of_readPlain (readPlain_number short ends) _
  | str s => exact ⟨starts_quotedChars s, fun rest _ => readValue_string _ s rest⟩
  | arr each ih =>
    refine ⟨starts_write (.arr each) step place, fun rest _ => ?_⟩
    exact readValue_list (fun item mem => ih item mem _) rest
  | obj each distinct ih =>
    refine ⟨starts_write (.obj each distinct) step place, fun rest _ => ?_⟩
    exact readValue_object (fun entry mem => ih entry mem _) distinct rest

/-- A readable value is read back from a text of its own. -/
theorem parse_text {depth : Nat} {v : Json} (readable : Readable depth v) (step : Option Nat) :
    parse depth (v.text step) = .ok v := by
  obtain ⟨starts, reads⟩ := readsBack_of_readable readable step 0
  have read := reads [] ends_nil
  rw [List.append_nil] at read
  have skip := starts.skipSpaces_eq
  obtain ⟨c, rest, split, other⟩ := starts
  have whole : readText depth (write step 0 v) = .ok v := by
    rw [split] at read skip ⊢
    rw [readText]
    · simp only [skip, read]
      rfl
    · rintro behind same
      cases same
      simp at other
  rw [parse, text, String.toList_ofList, whole]
  rfl

end SnippetDetect.Json
