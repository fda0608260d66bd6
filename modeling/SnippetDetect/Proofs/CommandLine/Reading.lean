import SnippetDetect.CommandLine.Command
import SnippetDetect.Proofs.Language.Format
import SnippetDetect.Proofs.Text.Runs

/-!
An option in front of the other words.

A word `name=value` says the same wherever it is classified (`classify?_optionWord`). In front of the
other words of a command it is one more use in front of theirs (`interpret_optionWord`), and a
command line that begins with `detect` hands all that follows to the command
(`read_detect`). So to write such a word right behind `detect` is to start from a request that has
the value (`read_detect_optionWord`).
-/

namespace SnippetDetect.CommandLine

open SnippetDetect.Text

/-- An option with its value in the same word. -/
def optionWord (name value : String) : String := name ++ "=" ++ value

/-- Two dashes, and no equals sign behind them. -/
def IsLongName (name : String) : Prop := ['-', '-'].isPrefixOf name.toList ∧ '=' ∉ name.toList

instance (name : String) : Decidable (IsLongName name) :=
  inferInstanceAs (Decidable (_ ∧ _))

namespace Grammar

variable {Part : Type} (g : Grammar Part)

/-! ### Words -/

theorem words?_cons {text : String} (word : text ≠ "--") (rest : List String) :
    g.words? (text :: rest) =
      (g.classify? text).bind fun kind => (g.words? rest).map (⟨text, kind⟩ :: ·) := by
  rw [words?, if_neg word]
  cases g.classify? text <;> cases g.words? rest <;> rfl

/-- Words keep their texts. -/
theorem map_text_words? {args : List String} {ws : List (Word Part)}
    (read : g.words? args = some ws) : ws.map (·.text) = args := by
  induction args generalizing ws with
  | nil =>
    cases read
    rfl
  | cons text rest ih =>
    by_cases dash : text = "--"
    · rw [words?, if_pos dash] at read
      cases read
      rw [List.map_cons, List.map_map]
      exact congrArg _ (List.map_id rest)
    · rw [words?_cons g dash] at read
      obtain ⟨kind, -, read⟩ := Option.bind_eq_some_iff.mp read
      obtain ⟨others, readRest, rfl⟩ := Option.map_eq_some_iff.mp read
      rw [List.map_cons, ih readRest]

section OptionWord

variable {g} {name : String} (long : IsLongName name) (value : String)
include long

theorem toList_optionWord : ∃ others, name.toList = '-' :: '-' :: others ∧
    (optionWord name value).toList = '-' :: '-' :: (others ++ '=' :: value.toList) := by
  obtain ⟨others, split⟩ := List.isPrefixOf_iff_prefix.mp long.1
  refine ⟨others, split.symm, ?_⟩
  rw [optionWord, String.toList_append, String.toList_append, ← split]
  simp

theorem optionWord_ne_dashes : optionWord name value ≠ "--" := by
  obtain ⟨others, -, word⟩ := toList_optionWord long value
  intro same
  rw [same] at word
  simp at word

/-- What stands before and from the equals sign on. -/
theorem split_optionWord :
    (optionWord name value).toList.takeWhile (· ≠ '=') = name.toList ∧
      (optionWord name value).toList.dropWhile (· ≠ '=') = '=' :: value.toList := by
  have split : (optionWord name value).toList = name.toList ++ '=' :: value.toList := by
    rw [optionWord, String.toList_append, String.toList_append, List.append_assoc]
    rfl
  have plain : ∀ c ∈ name.toList, decide (c ≠ '=') = true := by
    intro c mem
    rw [decide_eq_true_iff]
    rintro rfl
    exact long.2 mem
  have stop : ∀ c ∈ ('=' :: value.toList).head?, decide (c ≠ '=') = false := by simp
  rw [split]
  exact ⟨takeWhile_append_of_stop plain stop, dropWhile_append_of_stop plain stop⟩

omit long in
/-- No option has such a word for its full name. -/
theorem lookup_optionWord (plain : ∀ n ∈ g.names, '=' ∉ n.1.toList) :
    g.names.lookup (optionWord name value) = none := by
  rw [List.lookup_eq_none_iff]
  intro n mem
  rw [bne_iff_ne]
  intro same
  apply plain n mem
  rw [← same, optionWord, String.toList_append, String.toList_append]
  simp

/-- Such a word is the option of that name, or what the name may be short for. -/
theorem classify?_optionWord (plain : ∀ n ∈ g.names, '=' ∉ n.1.toList) :
    ∃ others, g.classify? (optionWord name value) =
      match g.names.lookup name with
      | some part => some (.option part true (some ⟨true, value.toList⟩))
      | none => g.guessOption? (optionWord name value) '-' others name.toList
          (some ⟨true, value.toList⟩) := by
  obtain ⟨before, after⟩ := split_optionWord long value
  obtain ⟨others, -, word⟩ := toList_optionWord long value
  refine ⟨others ++ '=' :: value.toList, ?_⟩
  unfold classify?
  split
  · next letter rest found =>
    rw [word] at found
    cases found
    rw [lookup_optionWord value plain, before, after]
    cases named : g.names.lookup name <;> simp only [String.ofList_toList, decide_true, named]
  · next other => exact absurd word (other _ _)

/-- What no name begins with has some meaning, if not that of an option. -/
theorem isSome_classify?_optionWord (plain : ∀ n ∈ g.names, '=' ∉ n.1.toList)
    (unknown : ∀ n ∈ g.names, name.toList.isPrefixOf n.1.toList = false) :
    (g.classify? (optionWord name value)).isSome := by
  obtain ⟨others, meaning⟩ := classify?_optionWord long value plain
  have absent : g.names.lookup name = none := by
    rw [List.lookup_eq_none_iff]
    intro n mem
    rw [bne_iff_ne]
    rintro rfl
    have begins := List.isPrefixOf_iff_prefix.mpr (List.prefix_refl n.1.toList)
    rw [unknown n mem] at begins
    cases begins
  have candidates : g.longCandidates name.toList (some ⟨true, value.toList⟩) = [] := by
    rw [longCandidates, List.filter_eq_nil_iff.mpr fun n mem => by simp [unknown n mem]]
    rfl
  rw [meaning, absent]
  simp only [guessOption?, if_true, candidates]
  split <;> rfl

end OptionWord

/-! ### Readings -/

/-- An option with a value in front of the other words. -/
theorem readWords_cons_option {part : Part} (takes : g.takesValue part = true) (text : String)
    (value : List Char) (places : List (Part × Place)) (ws : List (Word Part)) :
    g.readWords places (⟨text, .option part true (some ⟨true, value⟩)⟩ :: ws) =
      (g.readWords places ws).after [⟨part, [String.ofList value]⟩] true := by
  have said : g.cluster? part true (some ⟨true, value⟩) =
      some ⟨[⟨part, [String.ofList value]⟩], none, true⟩ := by
    simp [cluster?, takes]
  rw [readWords]
  simp only [said]

/-- A use in front of the others is taken first. -/
theorem interpret_after {State : Type} {step : State → Use Part → Except Stop State}
    {start next : State} {use : Use Part} (first : step start use = .ok next) (r : Reading Part) :
    (r.after [use] true).interpret step start = r.interpret step next := by
  unfold Reading.interpret Reading.after
  rw [List.singleton_append, List.foldlM_cons, first, Bool.true_and]
  rfl

/-- To read an option in front of the other words is to begin with the use of it, whether the other
words can be read or not. -/
theorem interpret_optionWord {State : Type} {step : State → Use Part → Except Stop State}
    {start next : State} {name value : String} {part : Part} (long : IsLongName name)
    (plain : ∀ n ∈ g.names, '=' ∉ n.1.toList) (named : g.names.lookup name = some part)
    (takes : g.takesValue part = true) (first : step start ⟨part, [value]⟩ = .ok next)
    (args : List String) :
    (g.read (optionWord name value :: args)).interpret step start =
      (g.read args).interpret step next := by
  obtain ⟨_, meaning⟩ := classify?_optionWord long value plain
  rw [named] at meaning
  have words := g.words?_cons (optionWord_ne_dashes long value) args
  rw [meaning, Option.bind_some] at words
  unfold read
  rw [words]
  cases g.words? args with
  | none => rfl
  | some ws =>
    rw [Option.map_some]
    dsimp only
    rw [readWords_cons_option g takes, String.ofList_toList]
    exact interpret_after first _

/-- Where one place takes all words, it takes them from the first operand on. -/
theorem readWords_rest {part : Part} {w : Word Part} (operand : w.kind = .operand)
    (ws : List (Word Part)) :
    g.readWords [(part, .rest)] (w :: ws) = ⟨[⟨part, (w :: ws).map (·.text)⟩], true⟩ := by
  have filled : fill [(part, .rest)] (w :: ws) =
      ⟨[⟨part, (w :: ws).map (·.text)⟩], [], []⟩ := by
    simp [fill, take?, given, Word.isOperand, Word.isDoubleDash, operand]
  rw [readWords]
  simp only [operand, filled]
  simp [readWords, Reading.after]

end Grammar

/-! ### Interpreting -/

section Interpret

variable {Part State : Type} {step : State → Use Part → Except Stop State} {r : Reading Part}

/-- A change that no part of the reading looks at can be made before or after. -/
theorem Reading.interpret_map {change : State → State}
    (commutes : ∀ use ∈ r.uses, ∀ state, step (change state) use = (step state use).map change)
    (start : State) :
    r.interpret step (change start) = (r.interpret step start).map change := by
  have taken : r.uses.foldlM step (change start) = (r.uses.foldlM step start).map change := by
    revert commutes
    generalize r.uses = uses
    intro commutes
    induction uses generalizing start with
    | nil => rfl
    | cons use rest ih =>
      rw [List.foldlM_cons, List.foldlM_cons, commutes use List.mem_cons_self]
      cases step start use with
      | error stop => rfl
      | ok next => exact ih next fun other mem => commutes other (List.mem_cons_of_mem _ mem)
  rw [Reading.interpret, taken, Reading.interpret]
  cases r.uses.foldlM step start with
  | error stop => rfl
  | ok state => cases complete : r.complete <;> rfl

/-- What every part of the reading keeps holds in the end. -/
theorem Reading.interpret_keeps (holds : State → Prop)
    (kept : ∀ use ∈ r.uses, ∀ state next, holds state → step state use = .ok next → holds next)
    {start last : State} (before : holds start) (interpreted : r.interpret step start = .ok last) :
    holds last := by
  obtain ⟨state, taken, given⟩ := bind_eq_ok_iff.mp interpreted
  obtain rfl : state = last := by
    split at given <;> cases given
    rfl
  clear interpreted given
  revert kept taken
  generalize r.uses = uses
  intro kept taken
  induction uses generalizing start with
  | nil =>
    cases taken
    exact before
  | cons use rest ih =>
    rw [List.foldlM_cons] at taken
    obtain ⟨next, first, taken⟩ := bind_eq_ok_iff.mp taken
    exact ih (kept use List.mem_cons_self _ _ before first)
      (fun other mem => kept other (List.mem_cons_of_mem _ mem)) taken

end Interpret

/-! ### Commands -/

/-- A command line that begins with `detect` has no other parts, unless a word may mean several
options of the program itself. -/
theorem read_mainGrammar (args : List String) :
    mainGrammar.read ("detect" :: args) =
      if (mainGrammar.words? args).isSome then ⟨[⟨.command, "detect" :: args⟩], true⟩
      else .broken := by
  have first : mainGrammar.classify? "detect" = some .operand := rfl
  have word : "detect" ≠ "--" := by decide
  have words := mainGrammar.words?_cons word args
  rw [first, Option.bind_some] at words
  unfold Grammar.read
  rw [words]
  cases read : mainGrammar.words? args with
  | none => rfl
  | some ws =>
    have reading : mainGrammar.readWords mainGrammar.places (⟨"detect", .operand⟩ :: ws) = _ :=
      mainGrammar.readWords_rest rfl ws
    rw [Option.map_some, Option.isSome_some, if_pos rfl]
    dsimp only
    rw [reading, List.map_cons, mainGrammar.map_text_words? read]

/-- What follows `detect` is read by the command. -/
theorem read_detect (args : List String) :
    Command.read ("detect" :: args) =
      if (mainGrammar.words? args).isSome then
        ((detectGrammar.read args).interpret DetectRequest.take {}).map .detect
      else .error .misuse := by
  have given : takeMainPart none ⟨.command, "detect" :: args⟩ =
      (((detectGrammar.read args).interpret DetectRequest.take {}).map .detect).map some := by
    show ((detectGrammar.read args).interpret DetectRequest.take {} >>= _).map some = _
    cases (detectGrammar.read args).interpret DetectRequest.take {} <;> rfl
  rw [Command.read, read_mainGrammar]
  split
  · rw [Reading.interpret, List.foldlM_cons, given]
    cases (detectGrammar.read args).interpret DetectRequest.take {} <;> rfl
  · rfl

/-- An option with its value right behind `detect` is taken before all else, if it is none of the
program itself. -/
theorem read_detect_optionWord {name value : String} {part : DetectPart} {r : DetectRequest}
    (long : IsLongName name) (named : detectGrammar.names.lookup name = some part)
    (takes : detectGrammar.takesValue part = true)
    (foreign : ∀ n ∈ mainGrammar.names, name.toList.isPrefixOf n.1.toList = false)
    (first : DetectRequest.take {} ⟨part, [value]⟩ = .ok r) (args : List String) :
    Command.read ("detect" :: optionWord name value :: args) =
      if (mainGrammar.words? args).isSome then
        ((detectGrammar.read args).interpret DetectRequest.take r).map .detect
      else .error .misuse := by
  have plain : ∀ n ∈ detectGrammar.names, '=' ∉ n.1.toList := by decide
  have plainMain : ∀ n ∈ mainGrammar.names, '=' ∉ n.1.toList := by decide
  obtain ⟨kind, meaning⟩ := Option.isSome_iff_exists.mp
    (Grammar.isSome_classify?_optionWord long value plainMain foreign)
  have words : (mainGrammar.words? (optionWord name value :: args)).isSome =
      (mainGrammar.words? args).isSome := by
    rw [mainGrammar.words?_cons (Grammar.optionWord_ne_dashes long value), meaning,
      Option.bind_some, Option.isSome_map]
  rw [read_detect, words, detectGrammar.interpret_optionWord long plain named takes first]

end SnippetDetect.CommandLine
