import SnippetDetect.Detector.Words
import SnippetDetect.Proofs.Entries
import SnippetDetect.Proofs.Regex.Reader
import SnippetDetect.Proofs.Text.Runs

/-!
The identifiers of a snippet.

The expression for them (`spells_identifier`) may match in many ways and is looked for at one place
after the other. What it finds has a plain description all the same: the runs of word characters
that are spelled as identifiers (`IsIdentifier`). No place inside a run is a word boundary, so the
expression matches the whole of a run or nothing (`matchEnd?_eq_some_iff`), and no run is passed
over between two places where it is looked for (`mem_wordsFrom_iff`).
-/

namespace SnippetDetect

open SnippetDetect.Text SnippetDetect.Regex

namespace Text.Point

/-- A letter, digit or numeral of any script, or an underscore; a lone half is none. -/
def isWord (p : Point) : Bool := p.char?.any Text.isWord

def isAsciiWord (p : Point) : Bool := p.char?.any Text.isAsciiWord

def isAsciiDigit (p : Point) : Bool := p.char?.any Char.isDigit

end Text.Point

/-- Nothing but ASCII letters, digits and underscores, and no digit at the start. -/
structure IsIdentifier (word : List Point) : Prop where
  ascii : ∀ p ∈ word, p.isAsciiWord = true
  start : ∀ p ∈ word.head?, p.isAsciiDigit = false

/-! ### Characters -/

theorem between_iff {c : Char} {low high : UInt32} :
    (decide (low ≤ c.val) && decide (c.val ≤ high)) = true ↔
      low.toNat ≤ c.toNat ∧ c.toNat ≤ high.toNat := by
  rw [Bool.and_eq_true, decide_eq_true_eq, decide_eq_true_eq]
  rfl

theorem isDigit_iff {c : Char} : c.isDigit = true ↔ 0x30 ≤ c.toNat ∧ c.toNat ≤ 0x39 := between_iff

theorem isAsciiWord_iff {c : Char} : isAsciiWord c = true ↔
    0x30 ≤ c.toNat ∧ c.toNat ≤ 0x39 ∨ 0x61 ≤ c.toNat ∧ c.toNat ≤ 0x7A ∨
      0x41 ≤ c.toNat ∧ c.toNat ≤ 0x5A ∨ c.toNat = 0x5F := by
  have underscore : c = '_' ↔ c.toNat = 0x5F := by
    rw [← Char.toNat_inj]
    rfl
  have letter : c.isAlpha = (c.isUpper || c.isLower) := rfl
  have upper : c.isUpper = true ↔ 0x41 ≤ c.toNat ∧ c.toNat ≤ 0x5A := decide_eq_true_iff
  have lower : c.isLower = true ↔ 0x61 ≤ c.toNat ∧ c.toNat ≤ 0x7A := between_iff
  simp only [isAsciiWord, Char.isAlphanum, letter, Bool.or_eq_true, upper, lower, isDigit_iff,
    beq_iff_eq, underscore]
  omega

theorem isWord_of_isAsciiWord {c : Char} (ascii : isAsciiWord c = true) : isWord c = true := by
  have small : c.toNat < 0x80 := by
    rw [isAsciiWord_iff] at ascii
    omega
  rw [isWord]
  simp only [small, if_true]
  exact ascii

/-! ### Code points -/

namespace Text.Point

variable {p : Point}

theorem isWord_of_isAsciiWord (ascii : p.isAsciiWord = true) : p.isWord = true := by
  cases p with
  | char c => exact SnippetDetect.isWord_of_isAsciiWord ascii
  | half index => cases ascii

theorem isChar_of_isAsciiWord (ascii : p.isAsciiWord = true) : p.isChar = true := by
  cases p with
  | char c => rfl
  | half index => cases ascii

theorem isAsciiWord_of_not_isWord (other : p.isWord = false) : p.isAsciiWord = false := by
  rw [← Bool.not_eq_true] at other ⊢
  exact fun ascii => other (isWord_of_isAsciiWord ascii)

/-- A lone half is above the whole of ASCII. -/
theorem isAsciiWord_iff : p.isAsciiWord = true ↔
    0x30 ≤ p.toNat ∧ p.toNat ≤ 0x39 ∨ 0x61 ≤ p.toNat ∧ p.toNat ≤ 0x7A ∨
      0x41 ≤ p.toNat ∧ p.toNat ≤ 0x5A ∨ p.toNat = 0x5F := by
  cases p with
  | char c => exact SnippetDetect.isAsciiWord_iff
  | half index =>
    refine iff_of_false Bool.false_ne_true ?_
    simp only [toNat]
    omega

theorem isAsciiDigit_iff : p.isAsciiDigit = true ↔ 0x30 ≤ p.toNat ∧ p.toNat ≤ 0x39 := by
  cases p with
  | char c => exact isDigit_iff
  | half index =>
    refine iff_of_false Bool.false_ne_true ?_
    simp only [toNat]
    omega

end Text.Point

theorem accepts_identifierTail (p : Point) :
    (CharTest.set .exact false identifierTail).accepts p = p.isAsciiWord := by
  rw [Bool.eq_iff_iff, Point.isAsciiWord_iff]
  simp [CharTest.accepts, identifierTail, identifierHead, SetItem.admits]

theorem accepts_identifierHead (p : Point) :
    (CharTest.set .exact false identifierHead).accepts p =
      (p.isAsciiWord && !p.isAsciiDigit) := by
  rw [Bool.eq_iff_iff, Bool.and_eq_true, Bool.not_eq_true', ← Bool.not_eq_true,
    Point.isAsciiWord_iff, Point.isAsciiDigit_iff]
  simp only [CharTest.accepts, identifierHead, SetItem.admits, if_true, List.any_cons, List.any_nil,
    Bool.or_false, Bool.bne_false, Bool.or_eq_true, Bool.and_eq_true, decide_eq_true_eq]
  omega

/-! ### The source of the expression -/

/-- The source for an identifier between word boundaries. -/
def identifierSource : String := "\\b[a-zA-Z_][a-zA-Z0-9_]*\\b"

/-- The characters an identifier may go on with, in the order of the source. -/
def spelledTail : List SetItem := [.range 0x61 0x7A, .range 0x41 0x5A, .range 0x30 0x39, .one 0x5F]

theorem accepts_spelledTail : (CharTest.set .exact false spelledTail).accepts =
    (CharTest.set .exact false identifierTail).accepts := by
  funext p
  rw [accepts_identifierTail, Bool.eq_iff_iff, Point.isAsciiWord_iff]
  simp only [CharTest.accepts, spelledTail, SetItem.admits, if_true, List.any_cons, List.any_nil,
    Bool.or_false, Bool.bne_false, Bool.or_eq_true, Bool.and_eq_true, decide_eq_true_eq]
  omega

/-- The expression for identifiers is what the source is read as. -/
theorem spells_identifier : Spells {} identifierSource identifier := by
  refine ⟨⟨.ofList [.anchor (.boundary false), .char (.set .exact false identifierHead),
    .run .greedy 0 none (.set .exact false spelledTail), .anchor (.boundary false)], 0⟩, rfl, ?_⟩
  funext text start
  simp only [matchEnd?, identifier, step_ofList_cons, step_run_congr accepts_spelledTail]

/-! ### Word boundaries -/

/-- A text that a word character may go on with. -/
def EndsInWord (before : List Point) : Prop := before.getLast?.any Point.isWord = true

theorem EndsInWord.append {before part : List Point} (ends : EndsInWord before)
    (words : ∀ c ∈ part, c.isWord = true) : EndsInWord (before ++ part) := by
  rw [EndsInWord, List.getLast?_append]
  cases last : part.getLast? with
  | none => exact ends
  | some c => exact words c (List.mem_of_getLast? last)

theorem wordAt_append (before after : List Point) :
    wordAt (before ++ after).toArray false before.length = after.head?.any Point.isWord := by
  rw [wordAt, List.getElem?_toArray, List.getElem?_append_right (Nat.le_refl _), Nat.sub_self,
    ← List.head?_eq_getElem?]
  cases after.head? <;> rfl

theorem wordAt_append_pred (before after : List Point) :
    (decide (0 < before.length) && wordAt (before ++ after).toArray false (before.length - 1)) =
      before.getLast?.any Point.isWord := by
  rw [wordAt, List.getElem?_toArray, List.getLast?_eq_getElem?]
  cases before with
  | nil => rfl
  | cons c rest =>
    rw [List.getElem?_append_left (by simp)]
    cases (c :: rest)[(c :: rest).length - 1]? <;> simp [Category.contains, Category.holds, Point.isWord]

/-- A place is a word boundary when a word character stands on one side of it only. -/
theorem holds_boundary (before after : List Point) :
    (Anchor.boundary false).holds (before ++ after).toArray before.length =
      (before.getLast?.any Point.isWord != after.head?.any Point.isWord) := by
  rw [Anchor.holds, wordEdge, wordAt_append_pred, wordAt_append]
  cases before with
  | nil => cases after <;> simp
  | cons => simp

/-- No place inside a run is a word boundary. -/
theorem not_holds_boundary_inside {before : List Point} (ends : EndsInWord before)
    {part : List Point} (words : ∀ c ∈ part, c.isWord = true) {more : List Point}
    (goesOn : more.head?.any Point.isWord = true) :
    (Anchor.boundary false).holds (before ++ (part ++ more)).toArray
      (before.length + part.length) = false := by
  have boundary := holds_boundary (before ++ part) more
  rw [List.append_assoc, List.length_append, goesOn, ends.append words] at boundary
  exact boundary

/-! ### One match -/

/-- Behind the first character, all that may belong to an identifier is taken, or there is none. -/
theorem step_identifierTail {before : List Point} (ends : EndsInWord before) (tail : List Point)
    (marks : Marks) :
    (Node.run .greedy 0 none (.set .exact false identifierTail)).step (before ++ tail).toArray
      ((Node.anchor (.boundary false)).step (before ++ tail).toArray some) ⟨before.length, marks⟩ =
      if (tail.dropWhile Point.isAsciiWord).head?.any Point.isWord then none
      else some ⟨before.length + (tail.takeWhile Point.isAsciiWord).length, marks⟩ := by
  obtain ⟨part, isPart⟩ : ∃ part, part = tail.takeWhile Point.isAsciiWord := ⟨_, rfl⟩
  obtain ⟨more, isMore⟩ : ∃ more, more = tail.dropWhile Point.isAsciiWord := ⟨_, rfl⟩
  have split : tail = part ++ more := by
    rw [isPart, isMore, List.takeWhile_append_dropWhile]
  have words : ∀ c ∈ part, c.isWord = true := fun c mem =>
    Point.isWord_of_isAsciiWord (List.all_eq_true.mp List.all_takeWhile c (isPart ▸ mem))
  have length : runLength (before ++ tail).toArray (.set .exact false identifierTail)
      ((before ++ tail).toArray.size - before.length) before.length = part.length := by
    have accepts : (CharTest.set Folding.exact false identifierTail).accepts = Point.isAsciiWord :=
      funext accepts_identifierTail
    simp [runLength_eq, accepts, isPart]
  have boundary := holds_boundary (before ++ part) more
  rw [List.append_assoc, ← split, List.length_append, ends.append words] at boundary
  have shorter : ∀ k < part.length, (Anchor.boundary false).holds (before ++ tail).toArray
      (before.length + k) = false := by
    intro k less
    have goesOn : (part.drop k ++ more).head?.any Point.isWord = true := by
      rw [List.drop_eq_getElem_cons less]
      exact words _ (List.getElem_mem less)
    have inside := not_holds_boundary_inside ends
      (fun c mem => words c (List.mem_of_mem_take (i := k) mem)) goesOn
    rwa [← List.append_assoc (part.take k), List.take_append_drop, ← split, List.length_take,
      Nat.min_eq_left less.le] at inside
  simp only [Node.step, runStep, Option.elim, length, Nat.not_lt_zero, if_false]
  rw [tryDown_eq]
  · simp only [boundary, ← isPart, ← isMore]
    cases more.head?.any Point.isWord <;> rfl
  · intro k less
    simp only [shorter k less, Bool.false_eq_true, if_false]

theorem matchEnd?_eq (text : Array Point) (start : Nat) :
    identifier.matchEnd? text start =
      (if (Anchor.boundary false).holds text start then
        match text[start]? with
        | some c =>
            if (CharTest.set .exact false identifierHead).accepts c then
              (Node.run .greedy 0 none (.set .exact false identifierTail)).step text
                ((Node.anchor (.boundary false)).step text some)
                ⟨start + 1, Array.replicate 2 none⟩
            else none
        | none => none
      else none).map (·.pos) := rfl

/-- At one place the expression matches a whole word that begins there, or nothing. -/
theorem matchEnd?_cons (before : List Point) (c : Point) (tail : List Point) :
    identifier.matchEnd? (before ++ c :: tail).toArray before.length =
      if before.getLast?.any Point.isWord = false ∧ (c.isAsciiWord = true ∧ c.isAsciiDigit = false) ∧
          (tail.dropWhile Point.isAsciiWord).head?.any Point.isWord = false then
        some (before.length + 1 + (tail.takeWhile Point.isAsciiWord).length)
      else none := by
  have here : (before ++ c :: tail).toArray[before.length]? = some c := by simp
  have opens := holds_boundary before (c :: tail)
  rw [List.head?_cons, Option.any_some] at opens
  rw [matchEnd?_eq, here, opens]
  simp only [accepts_identifierHead]
  by_cases first : c.isAsciiWord = true ∧ c.isAsciiDigit = false
  · have ends : EndsInWord (before ++ [c]) := by
      rw [EndsInWord, List.getLast?_concat]
      exact Point.isWord_of_isAsciiWord first.1
    have goesOn := step_identifierTail ends tail (Array.replicate 2 none)
    rw [List.append_assoc, List.singleton_append, List.length_append, List.length_singleton]
      at goesOn
    rw [goesOn]
    simp only [first, Point.isWord_of_isAsciiWord first.1]
    cases before.getLast?.any Point.isWord <;>
      cases (tail.dropWhile Point.isAsciiWord).head?.any Point.isWord <;> simp
  · have refused : (c.isAsciiWord && !c.isAsciiDigit) = false := by
      simpa using first
    simp only [refused, first]
    simp

/-! ### All matches -/

theorem any_isWord_eq_false_iff {place : Option Point} :
    place.any Point.isWord = false ↔ ∀ c ∈ place, c.isWord = false := by
  cases place <;> simp

section Matches

variable {before rest : List Point}

/-- What the expression matches at a place is a run that begins there and is an identifier. -/
theorem matchEnd?_eq_some_iff {stop : Nat} :
    identifier.matchEnd? (before ++ rest).toArray before.length = some stop ↔
      ∃ run after, rest = run ++ after ∧ IsRun Point.isWord before run after ∧ IsIdentifier run ∧
        stop = before.length + run.length := by
  cases rest with
  | nil =>
    have nothing : (before ++ []).toArray[before.length]? = none := by simp
    rw [matchEnd?_eq, nothing]
    simp only [ite_self, Option.map_none]
    constructor
    · rintro ⟨⟩
    · rintro ⟨run, after, ended, isRun, -⟩
      exact absurd (List.append_eq_nil_iff.mp ended.symm).1 isRun.nonempty
  | cons c tail =>
    rw [matchEnd?_cons]
    constructor
    · intro found
      split at found
      · next holds =>
        obtain ⟨opens, ⟨ascii, noDigit⟩, closes⟩ := holds
        have spelled : ∀ x ∈ c :: tail.takeWhile Point.isAsciiWord, x.isAsciiWord = true :=
          List.forall_mem_cons.mpr ⟨ascii, List.all_eq_true.mp List.all_takeWhile⟩
        refine ⟨c :: tail.takeWhile Point.isAsciiWord, tail.dropWhile Point.isAsciiWord, ?_, ?_, ?_, ?_⟩
        · rw [List.cons_append, List.takeWhile_append_dropWhile]
        · exact {
            nonempty := List.cons_ne_nil _ _
            all := fun x mem => Point.isWord_of_isAsciiWord (spelled x mem)
            left := any_isWord_eq_false_iff.mp opens
            right := any_isWord_eq_false_iff.mp closes }
        · exact ⟨spelled, by simpa using noDigit⟩
        · rw [← Option.some.inj found, List.length_cons]
          omega
      · cases found
    · rintro ⟨run, after, split, isRun, spelled, rfl⟩
      obtain ⟨part, rfl, rfl⟩ : ∃ part, run = c :: part ∧ tail = part ++ after := by
        rcases List.cons_eq_append_iff.mp split with ⟨empty, -⟩ | found
        · exact absurd empty isRun.nonempty
        · exact found
      obtain ⟨ascii, asciiRest⟩ := List.forall_mem_cons.mp spelled.ascii
      have stop : ∀ x ∈ after.head?, x.isAsciiWord = false := fun x mem =>
        Point.isAsciiWord_of_not_isWord (isRun.right x mem)
      rw [takeWhile_append_of_stop asciiRest stop, dropWhile_append_of_stop asciiRest stop, if_pos]
      · rw [List.length_cons, Nat.add_assoc, Nat.add_comm 1]
      · exact ⟨any_isWord_eq_false_iff.mpr isRun.left, ⟨ascii, spelled.start c rfl⟩,
          any_isWord_eq_false_iff.mpr isRun.right⟩

/-- The word is an identifier and a run that begins at the place between the two or behind it. -/
def StandsIn (before rest word : List Point) : Prop :=
  ∃ skipped after, rest = skipped ++ (word ++ after) ∧ IsRun Point.isWord (before ++ skipped) word after ∧
    IsIdentifier word

theorem not_standsIn_nil {word : List Point} : ¬ StandsIn before [] word := by
  rintro ⟨skipped, after, ended, isRun, -⟩
  exact isRun.nonempty (List.append_eq_nil_iff.mp (List.append_eq_nil_iff.mp ended.symm).2).1

/-- Past a whole run. -/
theorem standsIn_run {run after word : List Point} (isRun : IsRun Point.isWord before run after)
    (spelled : IsIdentifier run) :
    StandsIn before (run ++ after) word ↔ word = run ∨ StandsIn (before ++ run) after word := by
  constructor
  · rintro ⟨skipped, others, split, isOther, spelledOther⟩
    rcases isRun.append_eq_cases isOther split with ⟨-, rfl, -⟩ | ⟨between, rfl, rfl⟩
    · exact .inl rfl
    · exact .inr ⟨between, others, rfl, by simpa using isOther, spelledOther⟩
  · rintro (rfl | ⟨skipped, others, rfl, isOther, spelledOther⟩)
    · exact ⟨[], after, rfl, by simpa using isRun, spelled⟩
    · exact ⟨run ++ skipped, others, by simp, by simpa using isOther, spelledOther⟩

/-- Past a character where the expression does not match. -/
theorem standsIn_cons {c : Point} {tail word : List Point}
    (unmatched : identifier.matchEnd? (before ++ c :: tail).toArray before.length = none) :
    StandsIn before (c :: tail) word ↔ StandsIn (before ++ [c]) tail word := by
  constructor
  · rintro ⟨skipped, after, split, isRun, spelled⟩
    cases skipped with
    | nil =>
      -- A run that begins here would have been matched.
      have matched := matchEnd?_eq_some_iff.mpr
        ⟨word, after, split, by simpa using isRun, spelled, rfl⟩
      rw [unmatched] at matched
      cases matched
    | cons x skipped =>
      cases split
      exact ⟨skipped, after, rfl, by simpa using isRun, spelled⟩
  · rintro ⟨skipped, after, rfl, isRun, spelled⟩
    exact ⟨c :: skipped, after, rfl, by simpa using isRun, spelled⟩

/-- The identifiers from a place on are the runs that begin there or behind it. -/
theorem mem_wordsFrom_iff (before rest : List Point) {word : String} {fuel : Nat}
    (enough : rest.length ≤ fuel) :
    word ∈ wordsFrom (before ++ rest).toArray fuel before.length ↔
      StandsIn before rest (points word) := by
  induction fuel generalizing before rest with
  | zero =>
    rw [List.length_eq_zero_iff.mp (Nat.le_zero.mp enough)]
    exact iff_of_false List.not_mem_nil not_standsIn_nil
  | succ fuel ih =>
    rw [wordsFrom]
    cases found : identifier.matchEnd? (before ++ rest).toArray before.length with
    | some stop =>
      obtain ⟨run, after, rfl, isRun, isIdentifier, rfl⟩ := matchEnd?_eq_some_iff.mp found
      have longer : 0 < run.length := List.length_pos_iff.mpr isRun.nonempty
      have taken : ((before ++ (run ++ after)).toArray.extract before.length
          (before.length + run.length)).toList = run := by simp
      rw [List.length_append] at enough
      have behind := ih (before ++ run) after (by omega)
      rw [List.append_assoc, List.length_append] at behind
      have inText : ¬ (before ++ (run ++ after)).toArray.size ≤ before.length := by
        simp only [List.size_toArray, List.length_append]
        omega
      have named : word = spelled (before ++ (run ++ after)).toArray before.length
          (before.length + run.length) ↔ points word = run := by
        rw [spelled, taken, ← points_injective.eq_iff, points_ofList]
        exact fun p mem => Point.isChar_of_isAsciiWord (isIdentifier.ascii p mem)
      rw [if_neg inText]
      simp only [Nat.lt_add_right_iff_pos, longer, if_true]
      rw [List.mem_cons, behind, standsIn_run isRun isIdentifier, named]
    | none =>
      cases rest with
      | nil =>
        rw [if_pos (by simp)]
        exact iff_of_false List.not_mem_nil not_standsIn_nil
      | cons c tail =>
        have behind := ih (before ++ [c]) tail (Nat.le_of_succ_le_succ enough)
        rw [List.append_assoc, List.length_append, List.singleton_append] at behind
        have inText : ¬ (before ++ c :: tail).toArray.size ≤ before.length := by simp
        rw [if_neg inText, standsIn_cons found]
        exact behind

end Matches

/-- Wherever the expression matches, it matches a whole run. -/
theorem matchEnd?_toArray_iff {text : List Point} {start stop : Nat} :
    identifier.matchEnd? text.toArray start = some stop ↔
      ∃ before run after, text = before ++ (run ++ after) ∧ IsRun Point.isWord before run after ∧
        IsIdentifier run ∧ start = before.length ∧ stop = before.length + run.length := by
  constructor
  · intro found
    have inText : start ≤ text.length := by
      by_contra beyond
      have nothing : text.toArray[start]? = none := by
        rw [List.getElem?_toArray]
        exact List.getElem?_eq_none (Nat.le_of_not_le beyond)
      rw [matchEnd?_eq, nothing] at found
      simp at found
    have place : (text.take start).length = start := List.length_take_of_le inText
    have split := List.take_append_drop start text
    have here : identifier.matchEnd? (text.take start ++ text.drop start).toArray
        (text.take start).length = some stop := by
      rw [split, place]
      exact found
    obtain ⟨run, after, rest, isRun, spelled, rfl⟩ := matchEnd?_eq_some_iff.mp here
    exact ⟨text.take start, run, after, by rw [← rest, split], isRun, spelled, place.symm, rfl⟩
  · rintro ⟨before, run, after, rfl, isRun, spelled, rfl, rfl⟩
    exact matchEnd?_eq_some_iff.mpr ⟨run, after, rfl, isRun, spelled, rfl⟩

theorem mem_wordsOf_iff {code : Snippet} {word : String} :
    word ∈ wordsOf code ↔ ∃ before after, code.points = before ++ (points word ++ after) ∧
      IsRun Point.isWord before (points word) after ∧ IsIdentifier (points word) :=
  mem_wordsFrom_iff [] code.points (Nat.le_refl _)

/-- The expression matches the runs of word characters, of all scripts, that are spelled as
identifiers, each as a whole and no part of another one. So these runs are the identifiers of a
snippet, and its set of them lists each once. -/
theorem identifiers_are_runs (code : Snippet) :
    (∀ start stop, identifier.matchEnd? code.text start = some stop ↔
      ∃ before run after, code.points = before ++ (run ++ after) ∧
        IsRun Point.isWord before run after ∧ IsIdentifier run ∧ start = before.length ∧
        stop = before.length + run.length) ∧
    (∀ word, word ∈ wordsOf code ↔
      ∃ before after, code.points = before ++ (points word ++ after) ∧
        IsRun Point.isWord before (points word) after ∧ IsIdentifier (points word)) ∧
    (sortedSet (wordsOf code)).Pairwise (· < ·) ∧
    ∀ word, word ∈ sortedSet (wordsOf code) ↔ word ∈ wordsOf code := by
  refine ⟨fun _ _ => matchEnd?_toArray_iff, fun _ => mem_wordsOf_iff, ?_, fun word => ?_⟩
  · refine @pairwise_mergeSort_lt String id _ ?_
    rw [List.map_id]
    exact nodup_eraseDups _
  · rw [sortedSet, List.mem_mergeSort, List.mem_eraseDups]

example : wordsOf "naïve x2 2x, x_1é _" = ["x2", "_"] := by decide +kernel

end SnippetDetect
