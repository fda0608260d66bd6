import SnippetDetect.Proofs.Regex.Matcher
import SnippetDetect.Regex.Reader
import Mathlib.Tactic.FinCases
import Mathlib.Tactic.IntervalCases

/-!
What sources are read as.

A text is quoted by a backslash before every character that means something in a source. Whatever
the options are, a quoted text is read as its characters and nothing else (`parse_quote`), and so it
is behind other parts of a sequence (`readSequence_quoted`). The reading of a sequence is followed
token by token: each kind of token has one lemma that says which piece it adds.
-/

namespace SnippetDetect.Regex

open SnippetDetect.Text

/-- The source is read as an expression that matches like this one. -/
def Spells (o : Options) (source : String) (r : Regex) : Prop :=
  ∃ read, parse o source = .ok read ∧ read.matchEnd? = r.matchEnd?

/-! ### Quoted texts -/

/-- The characters that mean something in some source, those that only a verbose one passes over
among them. -/
def special : List Char :=
  ['(', ')', '[', ']', '\x7b', '\x7d', '?', '*', '+', '-', '|', '^', '$', '\\', '.', '&', '~', '#',
    ' ', '\t', '\n', '\r', '\x0b', '\x0c']

def quoteChar (c : Char) : List Char := if c ∈ special then ['\\', c] else [c]

/-- A source for the text itself. -/
def quote (text : String) : String := String.ofList (text.toList.flatMap quoteChar)

/-- The token of a quoted character. -/
def quotedToken (c : Char) : Token := if c ∈ special then .escaped c else .plain c

theorem tokens_quoted (cs : List Char) : tokens (cs.flatMap quoteChar) = cs.map quotedToken := by
  induction cs with
  | nil => rfl
  | cons c cs ih =>
    rw [List.flatMap_cons, List.map_cons, ← ih, quoteChar, quotedToken]
    split
    · rw [List.cons_append, List.cons_append, List.nil_append, tokens]
    · next plain =>
      -- A plain character is no backslash, so it is a token of its own whatever comes next.
      rw [List.cons_append, List.nil_append, tokens]
      · rintro rfl
        exact absurd (by decide) plain
      · rintro _ _ rfl
        exact absurd (by decide) plain

theorem quotedToken_ne_dangling (c : Char) : quotedToken c ≠ .dangling := by
  rw [quotedToken]
  split <;> nofun

theorem quotedToken_ne_plain {d : Char} (isSpecial : d ∈ special) (c : Char) :
    quotedToken c ≠ .plain d := by
  rw [quotedToken]
  split
  · nofun
  · next plain =>
    rintro ⟨⟩
    exact plain isSpecial

theorem head?_map_quotedToken_ne {t : Token} (other : ∀ c, quotedToken c ≠ t) (cs : List Char) :
    (cs.map quotedToken).head? ≠ some t := by
  rw [List.head?_map]
  intro first
  obtain ⟨c, -, same⟩ := Option.map_eq_some_iff.mp first
  exact other c same

/-- What a verbose source passes over is quoted too. -/
theorem mem_special_of_isFiller {c : Char} (filler : isFiller c = true) : c ∈ special := by
  rw [isFiller, decide_eq_true_iff] at filler
  rcases filler with rfl | ⟨least, most⟩
  · decide
  · rw [← Char.ofNat_toNat c]
    generalize c.toNat = n at least most
    interval_cases n <;> decide

/-- Only special characters ask for repetition. -/
theorem readQuantifier_of_not_special {c : Char} (plain : c ∉ special) :
    readQuantifier c = pure none := by
  unfold readQuantifier
  split
  · exact absurd (by decide) plain
  · exact absurd (by decide) plain
  · exact absurd (by decide) plain
  · exact absurd (by decide) plain
  · rfl

/-- A special character behind a backslash is that character. -/
theorem readEscape_of_special (o : Options) {c : Char} (isSpecial : c ∈ special) :
    anchorEscape? o c = none ∧ readEscape o c = pure (letter o c.toNat) := by
  unfold special at isSpecial
  fin_cases isSpecial <;> exact ⟨rfl, rfl⟩

/-! ### Sequences -/

section Sequences

variable {p : Progress} {rest : List Token} {c : Char} (fuel : Nat) {ctx : Context} {o : Options}
  (read : List Piece)

/-- An escape that is no anchor adds what is read of it. -/
theorem readSequence_escaped {node : Node} (options : ctx.optionsAt p = o)
    (ahead : p.ahead = .escaped c :: rest) (goesOn : rest.head? ≠ some .dangling)
    (noAnchor : anchorEscape? o c = none)
    (reads : readEscape o c { p with ahead := rest } = .ok (node, { p with ahead := rest })) :
    readSequence (fuel + 1) ctx read p =
      readSequence fuel ctx (⟨node, .plain⟩ :: read) { p with ahead := rest } := by
  rw [readSequence, bind_eq (current_eq ctx p), bind_eq (peek_eq p), ahead, options]
  simp only [List.head?_cons]
  rw [bind_eq (discard_eq (take_eq ahead goesOn))]
  simp only [noAnchor]
  rw [bind_eq reads]

/-- A character that means nothing else adds itself. -/
theorem readSequence_plain (options : ctx.optionsAt p = o) (ahead : p.ahead = .plain c :: rest)
    (goesOn : rest.head? ≠ some .dangling) (plain : c ∉ special) :
    readSequence (fuel + 1) ctx read p =
      readSequence fuel ctx (⟨letter o c.toNat, .plain⟩ :: read)
        { p with ahead := rest } := by
  have differs {d : Char} (isSpecial : d ∈ special) : c ≠ d := fun same => plain (same ▸ isSpecial)
  have filler : isFiller c = false :=
    Bool.eq_false_iff.mpr fun filler => plain (mem_special_of_isFiller filler)
  have quantifier : readQuantifier c { p with ahead := rest } =
      .ok (none, { p with ahead := rest }) := by
    rw [readQuantifier_of_not_special plain]
    rfl
  rw [readSequence, bind_eq (current_eq ctx p), bind_eq (peek_eq p), ahead, options]
  simp only [List.head?_cons, Token.plain.injEq, differs (d := '|') (by decide),
    differs (d := ')') (by decide), imp_self]
  rw [bind_eq (discard_eq (take_eq ahead goesOn))]
  simp only [filler, differs (d := '#') (by decide), differs (d := '[') (by decide),
    differs (d := '.') (by decide), differs (d := '^') (by decide), differs (d := '$') (by decide),
    differs (d := '(') (by decide), and_false, if_false, Bool.false_eq_true]
  rw [bind_eq quantifier]

/-- A caret adds an anchor. -/
theorem readSequence_caret (options : ctx.optionsAt p = o) (ahead : p.ahead = .plain '^' :: rest)
    (goesOn : rest.head? ≠ some .dangling) :
    readSequence (fuel + 1) ctx read p =
      readSequence fuel ctx
        (⟨.anchor (if o.multiline then .lineStart else .textStart), .anchor⟩ :: read)
        { p with ahead := rest } := by
  have filler : isFiller '^' = false := rfl
  rw [readSequence, bind_eq (current_eq ctx p), bind_eq (peek_eq p), ahead, options]
  simp only [List.head?_cons, Token.plain.injEq, Char.reduceEq, imp_self]
  rw [bind_eq (discard_eq (take_eq ahead goesOn))]
  simp only [filler, and_false, if_false, if_true, Bool.false_eq_true]

/-- A star repeats the last piece. -/
theorem readSequence_star (ctx : Context) (node : Node) (ahead : p.ahead = .plain '*' :: rest)
    (goesOn : rest.head? ≠ some .dangling) (notLazy : rest.head? ≠ some (.plain '?'))
    (notPossessive : rest.head? ≠ some (.plain '+')) :
    readSequence (fuel + 1) ctx (⟨node, .plain⟩ :: read) p =
      readSequence fuel ctx (⟨.repeated .greedy 0 none node, .repeated⟩ :: read)
        { p with ahead := rest, repetition := true } := by
  have filler : isFiller '*' = false := rfl
  have star : readQuantifier '*' { p with ahead := rest } =
    .ok (some (0, none), { p with ahead := rest }) := rfl
  have greed : readGreed { p with ahead := rest } = .ok (.greedy, { p with ahead := rest }) := by
    rw [readGreed, bind_eq (takeIf_eq_false notLazy)]
    simp only [Bool.false_eq_true, if_false]
    rw [bind_eq (takeIf_eq_false notPossessive)]
    rfl
  have repeats : repeatLast 0 none (⟨node, .plain⟩ :: read) { p with ahead := rest } =
      .ok (⟨.repeated .greedy 0 none node, .repeated⟩ :: read,
        { p with ahead := rest, repetition := true }) := by
    rw [repeatLast, bind_eq greed]
    rfl
  rw [readSequence, bind_eq (current_eq ctx p), bind_eq (peek_eq p), ahead]
  simp only [List.head?_cons, Token.plain.injEq, Char.reduceEq, imp_self]
  rw [bind_eq (discard_eq (take_eq ahead goesOn))]
  simp only [filler, and_false, if_false, Bool.false_eq_true]
  rw [bind_eq star]
  dsimp only
  rw [bind_eq repeats]

theorem readSequence_quotedToken (options : ctx.optionsAt p = o)
    (ahead : p.ahead = quotedToken c :: rest)
    (goesOn : rest.head? ≠ some .dangling) :
    readSequence (fuel + 1) ctx read p =
      readSequence fuel ctx (⟨letter o c.toNat, .plain⟩ :: read)
        { p with ahead := rest } := by
  rw [quotedToken] at ahead
  split at ahead
  · next isSpecial =>
    obtain ⟨noAnchor, reads⟩ := readEscape_of_special o isSpecial
    refine readSequence_escaped fuel read options ahead goesOn noAnchor ?_
    rw [reads]
    rfl
  · next plain => exact readSequence_plain fuel read options ahead goesOn plain

/-- A quoted text adds its characters, one by one. -/
theorem readSequence_quoted (cs : List Char) (options : ctx.optionsAt p = o)
    (ahead : p.ahead = cs.map quotedToken) :
    readSequence (cs.length + fuel + 1) ctx read p =
      .ok (.ofList (read.reverse.map (·.node) ++ cs.map fun c => letter o c.toNat),
        { p with ahead := [] }) := by
  induction cs generalizing read p with
  | nil =>
    rw [readSequence_end _ ctx read ahead, List.map_nil, List.append_nil]
    cases p
    cases ahead
    rfl
  | cons c cs ih =>
    have goesOn := head?_map_quotedToken_ne quotedToken_ne_dangling cs
    have sameOptions : ctx.optionsAt { p with ahead := cs.map quotedToken } = o := options
    rw [List.length_cons, Nat.add_right_comm cs.length 1 fuel,
      readSequence_quotedToken _ read options ahead goesOn, ih _ sameOptions rfl]
    simp

end Sequences

/-! ### Whole expressions -/

section Whole

variable {o : Options} {source : String} {node : Node} {q : Progress}

/-- The state in which the reading of a source begins. -/
def Progress.start (o : Options) (source : String) : Progress where
  ahead := tokens source.toList
  options := o
  groups := #[none]
  names := []
  groupsBefore := none
  asked := []
  repetition := false
  variableBehind := false

/-- The context of a whole expression. -/
def Context.whole : Context := ⟨false, true, {}⟩

theorem checkWhole_eq (agree : ¬ (q.options.asciiOnly = true ∧ q.options.unicode = true))
    (ended : q.ahead = []) (unasked : q.asked = []) (fixed : q.variableBehind = false)
    (allowed : ¬ (q.options.plainOnly = true ∧ q.repetition = true)) :
    checkWhole q = .ok ((), q) := by
  rw [checkWhole, bind_eq (get_eq q)]
  simp only [if_neg agree, ended, ne_eq, not_true_eq_false, if_false, unasked, List.any_nil,
    Bool.false_eq_true, fixed, false_or, if_neg allowed]
  rfl

/-- An expression without groups is the sequence it is read as. -/
theorem parse_of_readSequence (goesOn : (tokens source.toList).head? ≠ some .dangling)
    (reads : readSequence (4 * (tokens source.toList).length + 3) .whole [] (.start o source) =
      .ok (node, q))
    (ended : q.ahead = []) (passes : checkWhole q = .ok ((), q)) (noGroups : q.groups = #[none]) :
    parse o source = .ok ⟨node, 0⟩ := by
  have noBar : takeIf '|' q = .ok (false, q) := takeIf_eq_false (by rw [ended]; nofun)
  have alternatives :
      readAlternatives (4 * (tokens source.toList).length + 4) .whole (.start o source) =
        .ok (node, q) := by
    rw [readAlternatives, bind_eq reads, bind_eq noBar]
    rfl
  have whole : readWhole (.start o source) = .ok (node, q) := by
    rw [readWhole, bind_eq (checkDangling_eq goesOn), bind_eq (get_eq _)]
    change (readAlternatives (4 * (tokens source.toList).length + 4) .whole >>= fun node => _) _ = _
    rw [bind_eq alternatives, bind_eq passes]
    rfl
  change (readWhole (.start o source)).bind _ = _
  rw [whole]
  change Except.ok (Regex.mk node (q.groups.size - 1)) = _
  rw [noGroups]
  rfl

/-- A quoted text is read as its characters, whatever the options that do not contradict each
other. -/
theorem parse_quote (agree : ¬ (o.asciiOnly = true ∧ o.unicode = true)) (text : String) :
    parse o (quote text) = .ok ⟨.ofList (text.toList.map fun c => letter o c.toNat), 0⟩ := by
  have split : tokens (quote text).toList = text.toList.map quotedToken := by
    rw [quote, String.toList_ofList, tokens_quoted]
  have enough : 4 * (tokens (quote text).toList).length + 3 =
      text.toList.length + (3 * text.toList.length + 2) + 1 := by
    rw [split, List.length_map]
    omega
  have reads : readSequence (4 * (tokens (quote text).toList).length + 3) .whole []
      (.start o (quote text)) = .ok (.ofList (text.toList.map fun c => letter o c.toNat),
        { Progress.start o (quote text) with ahead := [] }) := by
    rw [enough]
    exact readSequence_quoted _ [] text.toList rfl split
  refine parse_of_readSequence ?_ reads rfl (checkWhole_eq agree rfl rfl rfl nofun) rfl
  rw [split]
  exact head?_map_quotedToken_ne quotedToken_ne_dangling _

end Whole

end SnippetDetect.Regex
