import SnippetDetect.Detector.Fingerprints
import SnippetDetect.Proofs.Number.HalfUp
import SnippetDetect.Proofs.Regex.Reader
import Mathlib.Data.List.DropRight

/-!
The comment score.

A line comment is looked for with an expression whose blank part may itself cross lines and whose
text, which the source quotes, may hold any characters (`spells_lineStart`). It occurs exactly where
the text opens a line (`OpensLine`): whatever the blank part takes from earlier lines, it ends with
all of the last one up to the text (`occursIn_lineStart_iff`). So the score counts the checks that
apply and those that pass (`CommentStyle.configured`, `CommentStyle.passed`).
-/

namespace SnippetDetect

open SnippetDetect.Text SnippetDetect.Regex

/-- The text stands at a position with nothing but blank characters between the start of its line
and the position. -/
def OpensLine (token code : List Point) : Prop :=
  ∃ position ≤ code.length, token <+: code.drop position ∧
    ∀ p ∈ (code.take position).rtakeWhile (· ≠ .char '\n'), p.isBlank = true

instance (token code : List Point) : Decidable (OpensLine token code) :=
  inferInstanceAs (Decidable (∃ position ≤ code.length, token <+: code.drop position ∧
    ∀ p ∈ (code.take position).rtakeWhile (· ≠ .char '\n'), p.isBlank = true))

namespace CommentStyle

variable (comments : CommentStyle) (code : List Point)

/-- Some text that begins a comment opens a line. -/
def LineCommentIn : Prop := ∃ token ∈ comments.line, OpensLine (points token) code

/-- Both texts around some comment stand in the code, wherever. -/
def BlockCommentIn : Prop :=
  ∃ block ∈ comments.block, points block.opening <:+: code ∧ points block.closing <:+: code

instance : Decidable (comments.LineCommentIn code) :=
  inferInstanceAs (Decidable (∃ token ∈ comments.line, OpensLine (points token) code))

instance : Decidable (comments.BlockCommentIn code) :=
  inferInstanceAs (Decidable (∃ block ∈ comments.block,
    points block.opening <:+: code ∧ points block.closing <:+: code))

/-- How many of the two checks have something to look for. -/
def configured : Nat :=
  (if comments.line = [] then 0 else 1) + (if comments.block = [] then 0 else 1)

/-- How many of the two checks find it. -/
def passed : Nat :=
  (if comments.LineCommentIn code then 1 else 0) + (if comments.BlockCommentIn code then 1 else 0)

end CommentStyle

/-! ### The source of the expression -/

section Source

variable (token : String)

/-- The source for a text at the start of a line, blank characters before it aside. -/
def lineStartSource (token : String) : String := "^\\s*" ++ quote token

theorem tokens_lineStartSource : tokens (lineStartSource token).toList =
    .plain '^' :: .escaped 's' :: .plain '*' :: token.toList.map quotedToken := by
  rw [← tokens_quoted, lineStartSource, String.toList_append, quote, String.toList_ofList]
  simp [tokens]

/-- The source is read as an anchor, a run of blank characters and the characters of the text: what
is quoted does not change how the star before it repeats. -/
theorem readSequence_lineStartSource {p : Progress} (fuel : Nat)
    (ahead : p.ahead = tokens (lineStartSource token).toList)
    (options : p.options = { multiline := true }) :
    readSequence (token.toList.length + fuel + 1 + 3) .whole [] p =
      .ok (.ofList (.anchor .lineStart ::
          .run .greedy 0 none (.set .exact false [.category .space false false]) ::
          token.toList.map fun c => .char (.letter .exact false c.toNat)),
        { p with ahead := [], repetition := true }) := by
  rw [tokens_lineStartSource] at ahead
  have goesOn := head?_map_quotedToken_ne quotedToken_ne_dangling token.toList
  have notLazy := head?_map_quotedToken_ne (quotedToken_ne_plain (d := '?') (by decide))
    token.toList
  have notPossessive := head?_map_quotedToken_ne (quotedToken_ne_plain (d := '+') (by decide))
    token.toList
  obtain ⟨quoted, isQuoted⟩ : ∃ quoted, quoted = token.toList.map quotedToken := ⟨_, rfl⟩
  rw [← isQuoted] at ahead goesOn notLazy notPossessive
  have inWhole : Context.whole.optionsAt p = { multiline := true } := options
  have caret := readSequence_caret (token.toList.length + fuel + 3) [] inWhole ahead (by simp)
  have blank := readSequence_escaped (p := { p with ahead := .escaped 's' :: .plain '*' :: quoted })
    (token.toList.length + fuel + 2) [⟨.anchor .lineStart, .anchor⟩] inWhole rfl (by simp) rfl rfl
  have star := readSequence_star (p := { p with ahead := .plain '*' :: quoted })
    (token.toList.length + fuel + 1) [⟨.anchor .lineStart, .anchor⟩] .whole
    (.char (.set .exact false [.category .space false false])) rfl goesOn notLazy notPossessive
  have text := readSequence_quoted (p := { p with ahead := quoted, repetition := true }) fuel
    [⟨.run .greedy 0 none (.set .exact false [.category .space false false]), .repeated⟩,
      ⟨.anchor .lineStart, .anchor⟩] token.toList inWhole isQuoted
  exact caret.trans (blank.trans (star.trans text))

/-- So the expression for a line comment is what the source is read as. -/
theorem spells_lineStart :
    Spells { multiline := true } (lineStartSource token) (Fingerprints.lineStart token) := by
  have enough : 4 * (tokens (lineStartSource token).toList).length + 3 =
      token.toList.length + (3 * token.toList.length + 11) + 1 + 3 := by
    rw [tokens_lineStartSource]
    simp only [List.length_cons, List.length_map]
    omega
  have reads := readSequence_lineStartSource token (3 * token.toList.length + 11)
    (p := .start { multiline := true } (lineStartSource token)) rfl rfl
  rw [← enough] at reads
  refine ⟨_, parse_of_readSequence ?_ reads rfl (checkWhole_eq nofun rfl rfl rfl nofun) rfl, ?_⟩
  · rw [tokens_lineStartSource]
    simp
  · funext text start
    simp only [matchEnd?, Fingerprints.lineStart, step_ofList_cons]
    rfl

end Source

/-! ### The start of a line -/

theorem accepts_space (p : Point) :
    (CharTest.set .exact false [.category .space false false]).accepts p = p.isBlank := by
  simp [CharTest.accepts, SetItem.admits, Category.contains, Category.holds, Point.isBlank]

/-- A line starts at the start of the text and behind a newline. -/
theorem holds_lineStart_iff (before after : List Point) :
    Anchor.lineStart.holds (before ++ after).toArray before.length = true ↔
      ∀ p ∈ before.getLast?, p = .char '\n' := by
  rw [Anchor.holds, List.getElem?_toArray, List.getLast?_eq_getElem?]
  cases before with
  | nil => simp
  | cons c rest =>
    rw [List.getElem?_append_left (by simp)]
    simp

/-- Behind the start of a line, the text matches after any number of blank characters. -/
theorem isSome_matchEnd?_lineStart_iff (token : String) (before rest : List Point) :
    ((Fingerprints.lineStart token).matchEnd? (before ++ rest).toArray before.length).isSome ↔
      (∀ p ∈ before.getLast?, p = .char '\n') ∧
        ∃ indent after, rest = indent ++ (points token ++ after) ∧
          ∀ p ∈ indent, p.isBlank = true := by
  have accepts : (CharTest.set .exact false [.category .space false false]).accepts =
      Point.isBlank := funext accepts_space
  have row : token.toList.map .char = points token := rfl
  rw [matchEnd?, Option.isSome_map, Fingerprints.lineStart, step_ofList_cons, step_ofList_cons]
  change (if Anchor.lineStart.holds (before ++ rest).toArray before.length then _ else none).isSome ↔ _
  split
  · next starts =>
    rw [holds_lineStart_iff] at starts
    rw [isSome_step_run, accepts, List.drop_left]
    simp only [Node.ofList, step_ofText, row]
    constructor
    · rintro ⟨k, le, found⟩
      split at found
      · next opens =>
        obtain ⟨after, split⟩ := opens
        rw [List.drop_length_add_append] at split
        have taken : rest.take k <+: rest.takeWhile Point.isBlank :=
          List.prefix_of_prefix_length_le (List.take_prefix k rest) (List.takeWhile_prefix _)
            ((List.length_take_le _ _).trans le)
        refine ⟨starts, rest.take k, after, ?_, fun p mem => ?_⟩
        · rw [split, List.take_append_drop]
        · exact List.mem_takeWhile_imp (taken.subset mem)
      · cases found
    · rintro ⟨-, indent, after, rfl, blank⟩
      refine ⟨indent.length, ?_, ?_⟩
      · rw [List.takeWhile_append_of_pos blank, List.length_append]
        exact Nat.le_add_right ..
      · rw [List.drop_length_add_append, List.drop_left, if_pos (List.prefix_append ..)]
        rfl
  · next within =>
    rw [holds_lineStart_iff] at within
    exact iff_of_false Bool.false_ne_true fun found => within found.1

/-! ### The last line -/

section LastLine

variable {α : Type} {p : α → Bool}

/-- What stands behind a character of another kind is not prolonged by what stands before. -/
theorem rtakeWhile_append_of_stop {xs : List α} (stop : ∀ x ∈ xs.getLast?, p x = false)
    (ys : List α) : (xs ++ ys).rtakeWhile p = ys.rtakeWhile p := by
  have ended : xs.reverse.takeWhile p = [] := by
    cases behind : xs.reverse with
    | nil => rfl
    | cons x rest =>
      have last : xs.getLast? = some x := by rw [← List.head?_reverse, behind, List.head?_cons]
      rw [List.takeWhile_cons_of_neg (by simp [stop x last])]
  rw [List.rtakeWhile, List.rtakeWhile, List.reverse_append, List.takeWhile_append, ended]
  split
  · next whole => rw [List.append_nil, (List.takeWhile_prefix p).eq_of_length whole]
  · rfl

theorem rdropWhile_stop (xs : List α) : ∀ x ∈ (xs.rdropWhile p).getLast?, p x = false := by
  intro x last
  obtain ⟨nonempty, rfl⟩ := List.mem_getLast?_eq_getLast last
  simpa using List.rdropWhile_last_not p xs nonempty

end LastLine

/-- The expression for a comment up to the end of its line occurs exactly where its text opens a
line. -/
theorem occursIn_lineStart_iff (token : String) (code : List Point) :
    (Fingerprints.lineStart token).occursIn code.toArray = true ↔ OpensLine (points token) code := by
  rw [occursIn_eq_true_iff]
  constructor
  · rintro ⟨start, inside, found⟩
    obtain ⟨before, rest, rfl, rfl⟩ : ∃ before rest, code = before ++ rest ∧ start = before.length :=
      ⟨code.take start, code.drop start, (List.take_append_drop start code).symm,
        (List.length_take_of_le inside).symm⟩
    obtain ⟨starts, indent, after, rfl, blank⟩ :=
      (isSome_matchEnd?_lineStart_iff token before rest).mp found
    refine ⟨(before ++ indent).length, ?_, ?_, fun p mem => ?_⟩
    · simp
    · rw [← List.append_assoc, List.drop_left]
      exact List.prefix_append ..
    · -- All of the last line up to the text is among the blank characters that were taken.
      rw [← List.append_assoc, List.take_left, rtakeWhile_append_of_stop] at mem
      · exact blank p ((List.rtakeWhile_suffix _ _).subset mem)
      · simpa using starts
  · rintro ⟨position, -, ⟨after, opens⟩, blank⟩
    have whole : code = (code.take position).rdropWhile (· ≠ .char '\n') ++
        ((code.take position).rtakeWhile (· ≠ .char '\n') ++ (points token ++ after)) := by
      rw [← List.append_assoc, List.rdropWhile_append_rtakeWhile, opens, List.take_append_drop]
    have starts : ∀ c ∈ ((code.take position).rdropWhile (· ≠ .char '\n')).getLast?, c = .char '\n' := by
      simpa using rdropWhile_stop (p := (· ≠ Point.char '\n')) (code.take position)
    obtain ⟨before, indent, rfl, starts, blank⟩ : ∃ before indent,
        code = before ++ (indent ++ (points token ++ after)) ∧
          (∀ p ∈ before.getLast?, p = .char '\n') ∧ ∀ p ∈ indent, p.isBlank = true :=
      ⟨_, _, whole, starts, blank⟩
    refine ⟨before.length, ?_, ?_⟩
    · rw [List.length_append]
      exact Nat.le_add_right ..
    · rw [isSome_matchEnd?_lineStart_iff]
      exact ⟨starts, indent, after, rfl, blank⟩

/-! ### The two checks -/

/-- The search finds a text exactly where it stands in one piece. -/
theorem occursIn_iff_infix {needle code : List Point} :
    Text.occursIn needle code = true ↔ needle <:+: code := by
  induction code with
  | nil => rw [Text.occursIn, List.isEmpty_iff, List.infix_nil]
  | cons c rest ih =>
    rw [Text.occursIn, Bool.or_eq_true, List.isPrefixOf_iff_prefix, ih, List.infix_cons_iff]

theorem hasLineComment_iff {comments : CommentStyle} {code : List Point} :
    Fingerprints.hasLineComment code.toArray comments.line = true ↔ comments.LineCommentIn code := by
  simp only [Fingerprints.hasLineComment, List.any_eq_true, occursIn_lineStart_iff,
    CommentStyle.LineCommentIn]

theorem hasBlockComment_iff {comments : CommentStyle} {code : List Point} :
    Fingerprints.hasBlockComment code comments.block = true ↔ comments.BlockCommentIn code := by
  simp only [Fingerprints.hasBlockComment, List.any_eq_true, Bool.and_eq_true, occursIn_iff_infix,
    CommentStyle.BlockCommentIn]

namespace CommentStyle

variable {comments : CommentStyle} {code : List Point}

theorem line_ne_nil (found : comments.LineCommentIn code) : comments.line ≠ [] :=
  let ⟨_, mem, _⟩ := found
  List.ne_nil_of_mem mem

theorem block_ne_nil (found : comments.BlockCommentIn code) : comments.block ≠ [] :=
  let ⟨_, mem, _⟩ := found
  List.ne_nil_of_mem mem

/-- A check that finds something has something to look for, so fifty for each one found divides by
the number of those that apply. -/
theorem configured_dvd (comments : CommentStyle) (code : List Point) :
    comments.configured ∣ 50 * comments.passed code := by
  unfold configured passed
  by_cases line : comments.line = [] <;> by_cases block : comments.block = []
  · have noLine : ¬ comments.LineCommentIn code := fun found => line_ne_nil found line
    have noBlock : ¬ comments.BlockCommentIn code := fun found => block_ne_nil found block
    simp [noLine, noBlock]
  · simp [line, block]
  · simp [line, block]
  · simp only [line, block, if_false]
    omega

theorem passed_le (comments : CommentStyle) (code : List Point) : comments.passed code ≤ 2 := by
  unfold passed
  split <;> split <;> simp

end CommentStyle

/-! ### The score -/

/-- A multiple of a number, divided by it. -/
theorem Binary64.divNat_ofNat_mul {q n : Nat} (pos : 0 < n) (short : n * q ≤ 2 ^ 53) :
    (Binary64.ofNat (n * q)).divNat n = Binary64.ofNat q := by
  obtain ⟨units, isUnits, count⟩ := Binary64.ofNat_whole short
  rw [isUnits, Binary64.divNat, count, Binary64.ofNat, Binary64.ofRatio]
  apply Binary64.ofUnitRatio_congr false pos Nat.one_pos
  rw [Nat.mul_one, Nat.mul_comm n q, Nat.mul_right_comm]

theorem length_filter_pair {α : Type} (p : α → Bool) (x y : α) :
    ([x, y].filter p).length = (if p x then 1 else 0) + (if p y then 1 else 0) := by
  cases first : p x <;> cases second : p y <;> simp [first, second]

/-- The score in terms of the two counts. -/
theorem commentScore_eq_divNat (code : List Point) (comments : CommentStyle) :
    Fingerprints.commentScore code.toArray comments =
      if comments.configured = 0 then Binary64.zero
      else (Binary64.ofNat (50 * comments.passed code)).divNat comments.configured := by
  have line : (Fingerprints.hasLineComment code.toArray comments.line && !comments.line.isEmpty) =
      decide (comments.LineCommentIn code) := by
    rw [Bool.eq_iff_iff, Bool.and_eq_true, hasLineComment_iff, decide_eq_true_iff]
    exact and_iff_left_of_imp fun found => by simpa using CommentStyle.line_ne_nil found
  have block : (Fingerprints.hasBlockComment code comments.block && !comments.block.isEmpty) =
      decide (comments.BlockCommentIn code) := by
    rw [Bool.eq_iff_iff, Bool.and_eq_true, hasBlockComment_iff, decide_eq_true_iff]
    exact and_iff_left_of_imp fun found => by simpa using CommentStyle.block_ne_nil found
  obtain ⟨checks, isChecks⟩ : ∃ checks, checks =
      [(!comments.line.isEmpty, Fingerprints.hasLineComment code.toArray comments.line),
        (!comments.block.isEmpty, Fingerprints.hasBlockComment code comments.block)] := ⟨_, rfl⟩
  have applies : (checks.filter (·.1)).length = comments.configured := by
    rw [isChecks, length_filter_pair]
    simp [CommentStyle.configured]
  have passes : ((checks.filter (·.1)).filter (·.2)).length = comments.passed code := by
    rw [List.filter_filter, isChecks, length_filter_pair, line, block]
    simp [CommentStyle.passed]
  have score : Fingerprints.commentScore code.toArray comments =
      if (checks.filter (·.1)).isEmpty then Binary64.zero
      else (Binary64.ofNat (50 * ((checks.filter (·.1)).filter (·.2)).length)).divNat
        (checks.filter (·.1)).length := by
    rw [isChecks]
    rfl
  simp only [score, passes, List.isEmpty_iff_length_eq_zero, applies]

/-- The comment score is zero when neither check has anything to look for. Otherwise it is fifty for
each check that passes divided by the number of checks that apply, which is a whole number. The
check of lines passes when some text that begins a comment opens a line, and the check of blocks
when both texts of some pair stand in the code. -/
theorem commentScore_eq (code : Snippet) (comments : CommentStyle) :
    Fingerprints.commentScore code.text comments =
        (if comments.configured = 0 then Binary64.zero
        else Binary64.ofNat (50 * comments.passed code.points / comments.configured)) ∧
      comments.configured ∣ 50 * comments.passed code.points := by
  obtain ⟨q, product⟩ := comments.configured_dvd code.points
  have short : 50 * comments.passed code.points ≤ 2 ^ 53 :=
    (Nat.mul_le_mul_left 50 (comments.passed_le code.points)).trans (by decide)
  refine ⟨?_, q, product⟩
  rw [Snippet.text, commentScore_eq_divNat]
  split
  · rfl
  · next some =>
    have pos := Nat.pos_of_ne_zero some
    rw [product] at short ⊢
    rw [Nat.mul_div_cancel_left q pos, Binary64.divNat_ofNat_mul pos short]

end SnippetDetect
