import SnippetDetect.Language.Reader
import Mathlib.Data.List.Forall2

/-!
The format of definitions.

`DefinesWith` says of the members of an object that they are a definition of a language: a name,
lists of strings, and comments with lists of their own. What may stand for the list of block
comments is left open, because the reader is looser there than the format (`IsBlocks`): it takes
an empty text or an empty object for a list without blocks (`IsHollow`), and a value that has no
items is a failure of its own and not a fault of the definition (`IsBare`). Apart from that it
accepts exactly the format (`ofJson_iff_format`).
-/

namespace SnippetDetect

/-! ### Steps that may fail -/

theorem bind_eq_ok_iff {ε α β : Type} {step : Except ε α} {next : α → Except ε β} {b : β} :
    (step >>= next) = .ok b ↔ ∃ a, step = .ok a ∧ next a = .ok b := by
  cases step with
  | error fault => exact ⟨nofun, fun ⟨_, made, _⟩ => nomatch made⟩
  | ok a =>
    constructor
    · intro made
      exact ⟨a, rfl, made⟩
    · rintro ⟨_, ⟨⟩, made⟩
      exact made

/-- Steps that succeed alike go on alike. -/
theorem bind_congr_ok {ε α β : Type} {step : Except ε α} {next other : α → Except ε β}
    (same : ∀ a, step = .ok a → next a = other a) : (step >>= next) = step >>= other := by
  cases step with
  | error fault => rfl
  | ok a => exact same a rfl

theorem bind_map_ok {ε α β γ : Type} (step : Except ε α) (next : α → Except ε β) (f : β → γ) :
    (step >>= next).map f = step >>= fun a => (next a).map f := by
  cases step <;> rfl

theorem map_bind_ok {ε α β γ : Type} (step : Except ε α) (f : α → β) (next : β → Except ε γ) :
    step.map f >>= next = step >>= fun a => next (f a) := by
  cases step <;> rfl

theorem bind_eq_error_iff {ε α β : Type} {step : Except ε α} {next : α → Except ε β} {fault : ε} :
    (step >>= next) = .error fault ↔
      step = .error fault ∨ ∃ a, step = .ok a ∧ next a = .error fault := by
  cases step with
  | error other =>
    constructor
    · rintro ⟨⟩
      exact .inl rfl
    · rintro (⟨⟨⟩⟩ | ⟨_, made, _⟩)
      · rfl
      · cases made
  | ok a =>
    constructor
    · intro failed
      exact .inr ⟨a, rfl, failed⟩
    · rintro (failed | ⟨_, ⟨⟩, failed⟩)
      · cases failed
      · exact failed

theorem mapM_eq_some_iff {α β : Type} {step : α → Option β} {items : List α} {made : List β} :
    items.mapM step = some made ↔ List.Forall₂ (fun a b => step a = some b) items made := by
  induction items generalizing made with
  | nil => simp [eq_comm]
  | cons item rest ih =>
    rw [List.mapM_cons, List.forall₂_cons_left_iff]
    constructor
    · intro succeeded
      obtain ⟨b, head, succeeded⟩ := Option.bind_eq_some_iff.mp succeeded
      obtain ⟨bs, tail, same⟩ := Option.bind_eq_some_iff.mp succeeded
      exact ⟨b, bs, head, ih.mp tail, (Option.some.inj same).symm⟩
    · rintro ⟨b, bs, head, tail, rfl⟩
      rw [head, ih.mpr tail]
      rfl

theorem Json.stringList?_eq_some_iff {value : Json} {strings : List String} :
    value.stringList? = some strings ↔ value = .ofStrings strings := by
  cases value with
  | arr items =>
    rw [stringList?, strings?, mapM_eq_some_iff, ofStrings, Json.arr.injEq,
      ← List.forall₂_eq_eq_eq, List.forall₂_map_right_iff]
    constructor
    · refine .imp fun item s read => ?_
      cases item <;> cases read
      rfl
    · refine .imp fun item s same => ?_
      rw [same]
  | _ => simp [stringList?, ofStrings]

namespace Language

open SnippetDetect.Text

/-! ### The format -/

/-- The member is absent, or it is the list of these strings. -/
def IsStrings (member : Option Json) (strings : List String) : Prop :=
  member = none ∧ strings = [] ∨ member = some (.ofStrings strings)

/-- The value is an object with the texts around a comment, neither of them empty. -/
def IsBlock (value : Json) (block : BlockComment) : Prop :=
  ∃ members, value = .obj members ∧ valueOf? members "start" = some (.str block.opening) ∧
    valueOf? members "end" = some (.str block.closing) ∧ block.opening ≠ "" ∧ block.closing ≠ ""

/-- The member is absent, or it is the list of these blocks. -/
def IsBlocks (member : Option Json) (blocks : List BlockComment) : Prop :=
  member = none ∧ blocks = [] ∨
    ∃ items, member = some (.arr items) ∧ List.Forall₂ IsBlock items blocks

/-- An empty text or an empty object stands where a list of blocks should. -/
def IsHollow (member : Option Json) (blocks : List BlockComment) : Prop :=
  (member = some (.str "") ∨ member = some (.obj [])) ∧ blocks = []

/-- A value of a kind that has no items stands where a list of blocks should. -/
def IsBare (kind : String) (member : Option Json) (blocks : List BlockComment) : Prop :=
  (∃ value, member = some value ∧ value.kindName = kind ∧
    (value = .null ∨ (∃ b, value = .bool b) ∨ ∃ n, value = .num n)) ∧ blocks = []

/-- The member is absent, or it is an object whose lists are these line comments, the empty ones
aside, and these block comments. -/
def IsComments (isBlocks : Option Json → List BlockComment → Prop) (member : Option Json)
    (comments : CommentStyle) : Prop :=
  ∃ members tokens, (member = none ∧ members = [] ∨ member = some (.obj members)) ∧
    IsStrings (valueOf? members "line") tokens ∧
    comments.line = tokens.filter (fun token => !token.isEmpty) ∧
    isBlocks (valueOf? members "block") comments.block

/-- The members define the language. The name is written with something that is not blank and stands
without blank ends and in lower case; the lists are as they are written. -/
structure DefinesWith (isBlocks : Option Json → List BlockComment → Prop) (members : Members)
    (l : Language) : Prop where
  name : ∃ written, valueOf? members "name" = some (.str written) ∧ isBlankText written = false ∧
    l.name = lower (strip written)
  keywords : IsStrings (valueOf? members "keywords") l.keywords
  patterns : IsStrings (valueOf? members "patterns") l.patterns
  imports : IsStrings (valueOf? members "imports") l.imports
  builtins : IsStrings (valueOf? members "builtins") l.builtins
  extensions : IsStrings (valueOf? members "extensions") l.extensions
  operators : IsStrings (valueOf? members "operators") l.operators
  comments : IsComments isBlocks (valueOf? members "comments") l.comments

/-- The value defines the language. -/
def Defines (isBlocks : Option Json → List BlockComment → Prop) (value : Json) (l : Language) :
    Prop :=
  ∃ members, value = .obj members ∧ DefinesWith isBlocks members l

/-! ### Reading the parts -/

section Parts

variable {members : Members} {field language : String}

theorem stringField_eq_ok_iff (language : String) {strings : List String} :
    stringField members field language = .ok strings ↔
      IsStrings (valueOf? members field) strings := by
  unfold stringField IsStrings
  cases valueOf? members field with
  | none => simp [eq_comm]
  | some value =>
    simp only [reduceCtorEq, false_and, false_or, Option.some.injEq,
      ← Json.stringList?_eq_some_iff]
    cases value.stringList? <;> simp

/-- A list of strings fails on its form only. -/
theorem stringField_error {fault : Fault}
    (failed : stringField members field language = .error fault) :
    fault = .notStrings language field := by
  unfold stringField at failed
  split at failed
  · cases failed
  · split at failed <;> cases failed
    rfl

theorem blockOf?_eq_some_iff {value : Json} {block : BlockComment} :
    blockOf? value = some block ↔ IsBlock value block := by
  unfold blockOf? IsBlock
  constructor
  · intro read
    split at read
    · next members =>
      split at read
      · next opening closing start ending =>
        split at read
        · cases read
        · next named =>
          cases read
          rw [Bool.or_eq_true, not_or, String.isEmpty_iff, String.isEmpty_iff] at named
          exact ⟨members, rfl, start, ending, named⟩
      · cases read
    · cases read
  · rintro ⟨members, rfl, start, ending, opens, closes⟩
    simp [start, ending, opens, closes]

/-- What the reader takes for a list of block comments. -/
def TakenForBlocks (member : Option Json) (blocks : List BlockComment) : Prop :=
  IsBlocks member blocks ∨ IsHollow member blocks

theorem blocksOf_eq_ok_iff (language : String) {member : Option Json} {blocks : List BlockComment} :
    blocksOf language (member.getD (.arr [])) = .ok blocks ↔ TakenForBlocks member blocks := by
  unfold blocksOf TakenForBlocks IsBlocks IsHollow
  cases member with
  | none => simp [eq_comm]
  | some value =>
    cases value with
    | arr items =>
      have read : items.mapM blockOf? = some blocks ↔ List.Forall₂ IsBlock items blocks := by
        rw [mapM_eq_some_iff]
        simp only [blockOf?_eq_some_iff]
      simp only [reduceCtorEq, false_and, false_or, or_false, Option.some.injEq, Json.arr.injEq,
        exists_eq_left', ← read, Option.getD_some]
      split
      · next made => simp [made]
      · next failed => simp [failed]
    | str s =>
      by_cases empty : s = ""
      · simp [empty]
      · simp [empty]
    | obj members =>
      by_cases empty : members = []
      · simp [empty]
      · simp [empty]
    | _ => simp

theorem blocksOf_eq_noItems_iff {member : Option Json} {kind : String} :
    blocksOf language (member.getD (.arr [])) = .error (.noItems kind) ↔ IsBare kind member [] := by
  unfold blocksOf IsBare
  cases member with
  | none => simp
  | some value =>
    cases value with
    | arr items =>
      dsimp only [Option.getD_some]
      split <;> simp
    | str s => by_cases empty : s = "" <;> simp [empty]
    | obj members => by_cases empty : members = [] <;> simp [empty]
    | _ => simp

theorem getD_obj_iff {member : Option Json} :
    member.getD (.obj []) = .obj members ↔
      member = none ∧ members = [] ∨ member = some (.obj members) := by
  cases member <;> simp [eq_comm]

theorem commentsOf_eq_ok_iff {comments : CommentStyle} :
    commentsOf members language = .ok comments ↔
      IsComments TakenForBlocks (valueOf? members "comments") comments := by
  unfold commentsOf IsComments
  simp only [← getD_obj_iff, ← stringField_eq_ok_iff language,
    ← blocksOf_eq_ok_iff language]
  cases (valueOf? members "comments").getD (.obj []) with
  | obj inner =>
    simp only [bind_eq_ok_iff, Json.obj.injEq, exists_and_left, exists_eq_left']
    constructor
    · rintro ⟨tokens, line, block, blocks, ⟨⟩⟩
      exact ⟨tokens, line, rfl, blocks⟩
    · rintro ⟨tokens, line, same, blocks⟩
      refine ⟨tokens, line, comments.block, blocks, ?_⟩
      rw [← same]
      rfl
  | _ => simp

theorem commentsOf_eq_noItems_iff {kind : String} :
    commentsOf members language = .error (.noItems kind) ↔
      ∃ comments, IsComments (IsBare kind) (valueOf? members "comments") comments := by
  unfold commentsOf IsComments
  simp only [← getD_obj_iff, ← stringField_eq_ok_iff language]
  cases (valueOf? members "comments").getD (.obj []) with
  | obj inner =>
    simp only [bind_eq_error_iff, Json.obj.injEq, exists_and_left, exists_eq_left']
    constructor
    · rintro (failed | ⟨tokens, line, bare | ⟨_, _, ⟨⟩⟩⟩)
      · cases stringField_error failed
      · exact ⟨⟨tokens.filter fun token => !token.isEmpty, []⟩, tokens, line, rfl,
          blocksOf_eq_noItems_iff.mp bare⟩
    · rintro ⟨comments, tokens, line, -, bare, none⟩
      exact .inr ⟨tokens, line, .inl (blocksOf_eq_noItems_iff.mpr ⟨bare, rfl⟩)⟩
  | _ => simp

end Parts

/-! ### Reading a definition -/

section Definitions

variable {members : Members} {written : String}

/-- A definition with a name is read field by field. -/
theorem ofJson_obj (named : valueOf? members "name" = some (.str written))
    (some : isBlankText written = false) :
    ofJson (.obj members) = (do
      let name := normalName written
      let keywords ← stringField members "keywords" name
      let patterns ← stringField members "patterns" name
      let imports ← stringField members "imports" name
      let builtins ← stringField members "builtins" name
      let extensions ← stringField members "extensions" name
      let operators ← stringField members "operators" name
      let comments ← commentsOf members name
      return { name, keywords, patterns, imports, builtins, comments, extensions, operators }) := by
  rw [ofJson, named]
  simp only [some]
  rfl

/-- What is no object with a name is refused for that. -/
theorem ofJson_cases (value : Json) :
    ofJson value = .error .notAnObject ∨ ofJson value = .error .noName ∨
      ∃ members written, value = .obj members ∧
        valueOf? members "name" = some (.str written) ∧ isBlankText written = false := by
  cases value with
  | obj members =>
    right
    rw [ofJson]
    split
    · next written named =>
      cases blank : isBlankText written with
      | true => exact .inl rfl
      | false => exact .inr ⟨members, written, rfl, named, blank⟩
    · exact .inl rfl
  | _ => exact .inl rfl

/-- What defines a language is an object with a name. -/
theorem defines_iff {isBlocks : Option Json → List BlockComment → Prop} {l : Language}
    (named : valueOf? members "name" = some (.str written)) (some : isBlankText written = false) :
    Defines isBlocks (.obj members) l ↔ l.name = normalName written ∧
      IsStrings (valueOf? members "keywords") l.keywords ∧
      IsStrings (valueOf? members "patterns") l.patterns ∧
      IsStrings (valueOf? members "imports") l.imports ∧
      IsStrings (valueOf? members "builtins") l.builtins ∧
      IsStrings (valueOf? members "extensions") l.extensions ∧
      IsStrings (valueOf? members "operators") l.operators ∧
      IsComments isBlocks (valueOf? members "comments") l.comments := by
  constructor
  · rintro ⟨_, ⟨⟩, ⟨_, here, -, name⟩, keywords, patterns, imports, builtins, extensions, operators,
      comments⟩
    rw [named] at here
    cases here
    exact ⟨name, keywords, patterns, imports, builtins, extensions, operators, comments⟩
  · rintro ⟨name, keywords, patterns, imports, builtins, extensions, operators, comments⟩
    exact ⟨members, rfl, ⟨written, named, some, name⟩, keywords, patterns, imports, builtins,
      extensions, operators, comments⟩

theorem exists_name_of_defines {isBlocks : Option Json → List BlockComment → Prop} {value : Json}
    {l : Language} (defines : Defines isBlocks value l) : ∃ members written, value = .obj members ∧
      valueOf? members "name" = some (.str written) ∧ isBlankText written = false := by
  obtain ⟨members, rfl, ⟨written, named, some, -⟩, -⟩ := defines
  exact ⟨members, written, rfl, named, some⟩

theorem ofJson_eq_ok_iff {value : Json} {l : Language} :
    ofJson value = .ok l ↔ Defines TakenForBlocks value l := by
  constructor
  · intro read
    rcases ofJson_cases value with refused | refused | ⟨members, written, rfl, named, some⟩
    · cases refused.symm.trans read
    · cases refused.symm.trans read
    · rw [ofJson_obj named some] at read
      simp only [bind_eq_ok_iff, stringField_eq_ok_iff, commentsOf_eq_ok_iff] at read
      obtain ⟨_, keywords, _, patterns, _, imports, _, builtins, _, extensions, _, operators, _,
        comments, made⟩ := read
      obtain rfl := Except.ok.inj made
      rw [defines_iff named some]
      exact ⟨rfl, keywords, patterns, imports, builtins, extensions, operators, comments⟩
  · intro defines
    obtain ⟨members, written, rfl, named, some⟩ := exists_name_of_defines defines
    obtain ⟨name, keywords, patterns, imports, builtins, extensions, operators, comments⟩ :=
      (defines_iff named some).mp defines
    rw [ofJson_obj named some]
    simp only [bind_eq_ok_iff, stringField_eq_ok_iff, commentsOf_eq_ok_iff]
    refine ⟨_, keywords, _, patterns, _, imports, _, builtins, _, extensions, _, operators, _,
      comments, ?_⟩
    rw [← name]
    rfl

theorem ofJson_eq_noItems_iff {value : Json} {kind : String} :
    ofJson value = .error (.noItems kind) ↔ ∃ l, Defines (IsBare kind) value l := by
  -- A list of strings never fails so, and the comments are read last.
  have strings {α : Type} {members : Members} {field language : String}
      {next : List String → Except Fault α} :
      (stringField members field language >>= next) = .error (.noItems kind) ↔
        ∃ strings, IsStrings (valueOf? members field) strings ∧
          next strings = .error (.noItems kind) := by
    rw [bind_eq_error_iff]
    simp only [stringField_eq_ok_iff]
    constructor
    · rintro (failed | found)
      · cases stringField_error failed
      · exact found
    · exact .inr
  constructor
  · intro failed
    rcases ofJson_cases value with refused | refused | ⟨members, written, rfl, named, some⟩
    · cases refused.symm.trans failed
    · cases refused.symm.trans failed
    · rw [ofJson_obj named some] at failed
      simp only [strings, bind_eq_error_iff, commentsOf_eq_noItems_iff] at failed
      obtain ⟨keywords, hk, patterns, hp, imports, hi, builtins, hb, extensions, he, operators, ho,
        ⟨comments, hc⟩ | ⟨_, _, ⟨⟩⟩⟩ := failed
      refine ⟨⟨normalName written, keywords, patterns, imports, builtins, comments, extensions,
        operators⟩, ?_⟩
      rw [defines_iff named some]
      exact ⟨rfl, hk, hp, hi, hb, he, ho, hc⟩
  · rintro ⟨l, defines⟩
    obtain ⟨members, written, rfl, named, some⟩ := exists_name_of_defines defines
    obtain ⟨-, keywords, patterns, imports, builtins, extensions, operators, comments⟩ :=
      (defines_iff named some).mp defines
    rw [ofJson_obj named some]
    simp only [strings, bind_eq_error_iff, commentsOf_eq_noItems_iff]
    exact ⟨_, keywords, _, patterns, _, imports, _, builtins, _, extensions, _, operators,
      .inl ⟨_, comments⟩⟩

theorem defines_takenForBlocks_iff {value : Json} {l : Language} :
    Defines TakenForBlocks value l ↔ Defines IsBlocks value l ∨ Defines IsHollow value l := by
  constructor
  · rintro ⟨members, rfl, ⟨named, keywords, patterns, imports, builtins, extensions, operators,
      inner, tokens, object, line, kept, listed | hollow⟩⟩
    · exact .inl ⟨members, rfl, named, keywords, patterns, imports, builtins, extensions, operators,
        inner, tokens, object, line, kept, listed⟩
    · exact .inr ⟨members, rfl, named, keywords, patterns, imports, builtins, extensions, operators,
        inner, tokens, object, line, kept, hollow⟩
  · rintro (⟨members, rfl, defines⟩ | ⟨members, rfl, defines⟩)
    · obtain ⟨inner, tokens, object, line, kept, listed⟩ := defines.comments
      exact ⟨members, rfl,
        { defines with comments := ⟨inner, tokens, object, line, kept, .inl listed⟩ }⟩
    · obtain ⟨inner, tokens, object, line, kept, hollow⟩ := defines.comments
      exact ⟨members, rfl,
        { defines with comments := ⟨inner, tokens, object, line, kept, .inr hollow⟩ }⟩

end Definitions

/-- A value is read as a language exactly when it defines this language in the format, or would if
an empty list stood where it has an empty text or an empty object for the block comments. A value
of a kind without items in that place is the only failure that does not tell what is wrong with
the form of the definition, and it comes about exactly when all else is as in the format. -/
theorem ofJson_iff_format (value : Json) :
    (∀ l, ofJson value = .ok l ↔ Defines IsBlocks value l ∨ Defines IsHollow value l) ∧
    ∀ kind, ofJson value = .error (.noItems kind) ↔ ∃ l, Defines (IsBare kind) value l := by
  constructor
  · intro l
    rw [ofJson_eq_ok_iff, defines_takenForBlocks_iff]
  · intro kind
    exact ofJson_eq_noItems_iff

/-- A definition without anything but block comments. -/
def onlyBlocks (blocks : Json) : Json :=
  .obj [("name", .str "alpha"), ("comments", .obj [("block", blocks)])]

/-- An empty text is accepted for a list of block comments, and a null is refused without a word on
the form of the definition. -/
theorem not_ofJson_iff_format :
    (¬ ∀ value l, ofJson value = .ok l ↔ Defines IsBlocks value l) ∧
    ¬ ∀ value fault, ofJson value = .error fault → ∀ kind, fault ≠ .noItems kind := by
  constructor
  · intro exact
    have read : ofJson (onlyBlocks (.str "")) = .ok { name := "alpha" } := by decide
    obtain ⟨members, ⟨⟩, defines⟩ := (exact _ _).mp read
    obtain ⟨inner, tokens, object, -, -, listed⟩ := defines.comments
    rcases object with ⟨absent, -⟩ | object
    · cases absent
    · cases object
      rcases listed with ⟨absent, -⟩ | ⟨items, list, -⟩
      · cases absent
      · cases list
  · intro formal
    exact formal (onlyBlocks .null) _ rfl "NoneType" rfl

end Language

end SnippetDetect
