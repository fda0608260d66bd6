import SnippetDetect.Proofs.Json.RoundTrip

/-!
The limits of the JSON reader.

Besides a malformed text, the reader refuses containers that nest too deep and integers of too
many digits. Each of these shows in the text itself: it has more opening brackets than containers
may nest, or a row of more digits than an integer may have (`parse_limits`). Every part of the
reader is shown to answer with an end of the text it was given (`Reads`), so what shows in the
text that is left shows in the whole one. Within the limits only a malformed text is refused
(`malformed_of_withinLimits`); an integer of too many digits is refused wherever it is a whole text
(`parse_long`).
-/

namespace SnippetDetect.Json

open SnippetDetect.Number (maxDigits)

/-! ### What shows in a text -/

/-- The brackets that open a container. -/
def isOpening (c : Char) : Bool := c = '[' ∨ c = '\x7b'

/-- A limit that a text exceeds shows in it; `depth` more containers may nest. -/
def Stop.Shows (depth : Nat) (cs : List Char) : Stop → Prop
  | .malformed _ _ => True
  | .tooManyDigits count =>
      maxDigits < count ∧ ∃ row, Row row ∧ row.length = count ∧ row <:+: cs
  | .tooDeep => depth < cs.countP isOpening

theorem Stop.Shows.mono {depth : Nat} {behind cs : List Char} {stop : Stop}
    (tail : behind <:+ cs) (shows : stop.Shows depth behind) : stop.Shows depth cs := by
  cases stop with
  | malformed problem left => trivial
  | tooManyDigits count =>
    obtain ⟨long, row, isRow, same, part⟩ := shows
    exact ⟨long, row, isRow, same, part.trans tail.isInfix⟩
  | tooDeep => exact Nat.lt_of_lt_of_le shows (tail.sublist.countP_le)

/-- One more container may nest around a text than inside it. -/
theorem Stop.Shows.nest {depth : Nat} {c : Char} {cs : List Char} {stop : Stop}
    (opening : isOpening c = true) (shows : stop.Shows depth cs) :
    stop.Shows (depth + 1) (c :: cs) := by
  cases stop with
  | malformed problem left => trivial
  | tooManyDigits count => exact shows.mono (List.suffix_cons c cs)
  | tooDeep =>
    have counted : (c :: cs).countP isOpening = cs.countP isOpening + 1 :=
      List.countP_cons_of_pos opening
    rw [Stop.Shows, counted]
    exact Nat.succ_lt_succ shows

theorem Stop.shows_opening {c : Char} (opening : isOpening c = true) (cs : List Char) :
    Stop.tooDeep.Shows 0 (c :: cs) := by
  rw [Stop.Shows, List.countP_cons_of_pos opening]
  exact Nat.succ_pos _

/-- What is left ahead is an end of the text, and a limit that was met shows in the text. -/
def Reads {α : Type} (depth : Nat) (cs : List Char) : Except Stop (α × List Char) → Prop
  | .ok (_, rest) => rest <:+ cs
  | .error stop => stop.Shows depth cs

namespace Reads

variable {α β : Type} {depth : Nat} {behind cs : List Char}

theorem faultAt (problem : Problem) (ahead : List Char) :
    Reads depth cs (faultAt problem ahead : Except Stop (α × List Char)) := trivial

theorem mono {outcome : Except Stop (α × List Char)} (tail : behind <:+ cs)
    (reads : Reads depth behind outcome) : Reads depth cs outcome := by
  match outcome with
  | .ok (_, _) => exact List.IsSuffix.trans reads tail
  | .error _ => exact Stop.Shows.mono tail reads

theorem nest {outcome : Except Stop (α × List Char)} {c : Char} (opening : isOpening c = true)
    (reads : Reads depth cs outcome) : Reads (depth + 1) (c :: cs) outcome := by
  match outcome with
  | .ok (_, _) => exact List.IsSuffix.trans reads (List.suffix_cons c cs)
  | .error _ => exact Stop.Shows.nest opening reads

theorem bind {outcome : Except Stop (α × List Char)}
    {next : α × List Char → Except Stop (β × List Char)} (reads : Reads depth cs outcome)
    (nextReads : ∀ value rest, Reads depth rest (next (value, rest))) :
    Reads depth cs (outcome >>= next) := by
  match outcome with
  | .ok (value, rest) => exact mono reads (nextReads value rest)
  | .error _ => exact reads

end Reads

/-! ### Strings -/

theorem skipSpaces_suffix (cs : List Char) : skipSpaces cs <:+ cs := List.dropWhile_suffix _

/-- What stands behind the spaces after the first character is an end of the text. -/
theorem suffix_of_skipSpaces {cs behind : List Char} {c : Char}
    (skipped : skipSpaces cs = c :: behind) : behind <:+ cs :=
  (List.suffix_cons c behind).trans (skipped ▸ skipSpaces_suffix cs)

theorem codeUnit?_suffix {cs rest : List Char} {unit : Nat}
    (read : codeUnit? cs = some (unit, rest)) : rest <:+ cs := by
  unfold codeUnit? at read
  split at read
  · next a b c d e tail =>
    cases digits : [a, b, c, d].mapM hexDigit? with
    | none => simp [digits] at read
    | some ds =>
      simp only [digits, Option.bind_eq_bind, Option.bind_some, Option.some.injEq,
        Prod.mk.injEq] at read
      exact ⟨[a, b, c, d], by rw [← read.2]; rfl⟩
  · cases read

theorem readCodeUnits_reads (depth : Nat) (ahead : List Char) :
    Reads depth ahead (readCodeUnits ahead) := by
  unfold readCodeUnits
  split
  · exact .faultAt _ _
  · next first rest read =>
    have tail : rest <:+ ahead := (codeUnit?_suffix read).trans (List.drop_suffix 1 ahead)
    split
    · next more =>
      split
      · split
        · exact .faultAt _ _
        · next second behind readSecond =>
          split
          · have inner : behind <:+ '\\' :: 'u' :: more :=
              (codeUnit?_suffix readSecond).trans ⟨['\\', 'u'], rfl⟩
            exact inner.trans tail
          · exact tail
      · exact tail
    · exact tail

theorem readStringFrom_reads (depth opening : Nat) :
    ∀ (fuel : Nat) (read cs : List Char), Reads depth cs (readStringFrom opening fuel read cs) := by
  intro fuel
  induction fuel with
  | zero =>
    intro read cs
    trivial
  | succ fuel ih =>
    intro read cs
    cases cs with
    | nil => trivial
    | cons c rest =>
      have tail : rest <:+ c :: rest := List.suffix_cons c rest
      rw [readStringFrom.eq_def]
      dsimp only
      split
      · exact tail
      split
      · split
        · trivial
        · next inner =>
          refine .mono tail (.bind (readCodeUnits_reads depth _) fun decoded behind => ?_)
          exact ih _ _
        · next e behind _ =>
          split
          · exact (ih _ behind).mono ((List.suffix_cons e behind).trans tail)
          · exact .faultAt _ _
      split
      · exact .faultAt _ _
      · exact (ih _ rest).mono tail

theorem readString_reads (depth : Nat) (cs : List Char) : Reads depth cs (readString cs) :=
  readStringFrom_reads depth _ _ _ cs

/-! ### Numbers -/

/-- The digits before a point are a row at the head of the text. -/
theorem takeWhole_split {cs whole rest : List Char} (taken : takeWhole cs = some (whole, rest)) :
    Row whole ∧ whole ++ rest = cs := by
  unfold takeWhole at taken
  split at taken
  · cases taken
  · cases taken
    refine ⟨?_, rfl⟩
    intro c mem
    rw [List.mem_singleton.mp mem]
    rfl
  · next c tail _ =>
    split at taken
    · next digit =>
      cases taken
      refine ⟨?_, congrArg (c :: ·) List.takeWhile_append_dropWhile⟩
      intro d mem
      rcases List.mem_cons.mp mem with rfl | mem
      · exact digit
      · exact List.all_eq_true.mp List.all_takeWhile d mem
    · cases taken

theorem takeFraction_suffix (cs : List Char) : (takeFraction cs).2 <:+ cs := by
  unfold takeFraction
  split
  · next c rest =>
    split
    · exact (List.dropWhile_suffix _).trans ⟨['.', c], rfl⟩
    · exact List.suffix_rfl
  · exact List.suffix_rfl

theorem takeSign_suffix (cs : List Char) : (Number.takeSign cs).2 <:+ cs := by
  unfold Number.takeSign
  split
  · exact List.suffix_cons _ _
  · exact List.suffix_cons _ _
  · exact List.suffix_rfl

theorem takeExponent_suffix {cs rest : List Char} {size : Int}
    (taken : takeExponent cs = some (size, rest)) : rest <:+ cs := by
  unfold takeExponent at taken
  split at taken
  · next e tail =>
    split at taken
    · dsimp only at taken
      split at taken
      · cases taken
      · cases taken
        exact ((List.dropWhile_suffix _).trans (takeSign_suffix tail)).trans
          (List.suffix_cons e tail)
    · cases taken
  · cases taken

theorem readBehind_reads (depth : Nat) (negative : Bool) {whole : List Char} (row : Row whole)
    (ahead : List Char) : Reads depth (whole ++ ahead) (readBehind negative whole ahead) := by
  have fraction : (takeFraction ahead).2 <:+ whole ++ ahead :=
    (takeFraction_suffix ahead).trans (List.suffix_append whole ahead)
  unfold readBehind
  dsimp only
  split
  · split
    · next long => exact ⟨long, whole, row, rfl, ⟨[], ahead, rfl⟩⟩
    · exact fraction
  · cases taken : takeExponent (takeFraction ahead).2 with
    | none => exact fraction
    | some found => exact (takeExponent_suffix taken).trans fraction

theorem readNumber_reads (depth : Nat) (cs : List Char) : Reads depth cs (readNumber cs) := by
  unfold readNumber
  split
  next negative ahead sign =>
  have tail : ahead <:+ cs := by
    split at sign
    · cases sign
      exact List.suffix_cons _ _
    · cases sign
      exact List.suffix_rfl
  split
  · exact .faultAt _ _
  · next whole rest taken =>
    obtain ⟨row, split⟩ := takeWhole_split taken
    exact .mono (split ▸ tail) (readBehind_reads depth negative row rest)

theorem readPlain_reads (depth : Nat) (cs : List Char) : Reads depth cs (readPlain cs) := by
  unfold readPlain
  split
  · exact List.drop_suffix _ _
  · exact readNumber_reads depth cs

/-! ### Containers -/

section Containers

variable {depth : Nat} {value : List Char → Except Stop (Json × List Char)}

theorem readItems_reads (valueReads : ∀ cs, Reads depth cs (value cs)) :
    ∀ (fuel : Nat) (read : List Json) (cs : List Char),
      Reads depth cs (readItems value fuel read cs) := by
  intro fuel
  induction fuel with
  | zero =>
    intro read cs
    exact .faultAt _ _
  | succ fuel ih =>
    intro read cs
    refine .bind (valueReads cs) fun item rest => ?_
    dsimp only
    split
    · next behind skipped => exact suffix_of_skipSpaces skipped
    · next behind skipped =>
      exact (ih _ _).mono ((skipSpaces_suffix behind).trans (suffix_of_skipSpaces skipped))
    · exact .faultAt _ _

theorem readMembers_reads (valueReads : ∀ cs, Reads depth cs (value cs)) :
    ∀ (fuel : Nat) (read : Members) (cs : List Char),
      Reads depth cs (readMembers value fuel read cs) := by
  intro fuel
  induction fuel with
  | zero =>
    intro read cs
    exact .faultAt _ _
  | succ fuel ih =>
    intro read cs
    rw [readMembers.eq_def]
    dsimp only
    split
    · next rest =>
      refine .mono (List.suffix_cons _ rest) (.bind (readString_reads depth rest) ?_)
      intro name rest
      dsimp only
      split
      · next ahead skipped =>
        have tail : skipSpaces ahead <:+ rest :=
          (skipSpaces_suffix ahead).trans (suffix_of_skipSpaces skipped)
        refine .mono tail (.bind (valueReads _) fun item rest => ?_)
        dsimp only
        split
        · next behind skipped => exact suffix_of_skipSpaces skipped
        · next behind skipped =>
          exact (ih _ _).mono ((skipSpaces_suffix behind).trans (suffix_of_skipSpaces skipped))
        · exact .faultAt _ _
      · exact .faultAt _ _
    · exact .faultAt _ _

end Containers

/-- A value is read up to an end of its text, and a container that nests too deep stands behind
as many opening brackets. -/
theorem readValue_reads (depth : Nat) : ∀ cs, Reads depth cs (readValue depth cs) := by
  induction depth with
  | zero =>
    intro cs
    unfold readValue
    split
    · next rest =>
      refine .mono (List.suffix_cons _ rest) (.bind (readString_reads 0 rest) ?_)
      intro s behind
      exact List.suffix_rfl
    · exact Stop.shows_opening rfl _
    · exact Stop.shows_opening rfl _
    · exact readPlain_reads 0 cs
  | succ depth ih =>
    intro cs
    unfold readValue
    split
    · next rest =>
      refine .mono (List.suffix_cons _ rest) (.bind (readString_reads _ rest) ?_)
      intro s behind
      exact List.suffix_rfl
    · next rest =>
      dsimp only
      split
      · next behind skipped => exact (suffix_of_skipSpaces skipped).trans (List.suffix_cons _ rest)
      · exact .nest rfl ((readItems_reads ih _ _ _).mono (skipSpaces_suffix rest))
    · next rest =>
      dsimp only
      split
      · next behind skipped => exact (suffix_of_skipSpaces skipped).trans (List.suffix_cons _ rest)
      · exact .nest rfl ((readMembers_reads ih _ _ _).mono (skipSpaces_suffix rest))
    · exact readPlain_reads _ cs

/-! ### Texts -/

theorem readText_shows {depth : Nat} {cs : List Char} {stop : Stop}
    (refused : readText depth cs = .error stop) : stop.Shows depth cs := by
  unfold readText at refused
  split at refused
  · cases refused
    trivial
  · have reads : Reads depth cs (readValue depth (skipSpaces cs)) :=
      (readValue_reads depth _).mono (skipSpaces_suffix cs)
    cases outcome : readValue depth (skipSpaces cs) with
    | error met =>
      rw [outcome] at refused reads
      cases refused
      exact reads
    | ok found =>
      obtain ⟨value, rest⟩ := found
      rw [outcome] at refused
      dsimp only [bind, Except.bind] at refused
      split at refused
      · cases refused
      · cases refused
        trivial

/-- A text nests at most as deep, and has no longer row of digits, than the reader takes. -/
structure WithinLimits (depth : Nat) (text : String) : Prop where
  nesting : text.toList.countP isOpening ≤ depth
  rows : ∀ row, Row row → row <:+: text.toList → row.length ≤ maxDigits

/-- A short text has no room for a long row of digits. -/
theorem withinLimits_of_length_le {depth : Nat} {text : String}
    (shallow : text.toList.countP isOpening ≤ depth) (short : text.toList.length ≤ maxDigits) :
    WithinLimits depth text where
  nesting := shallow
  rows _ _ part := Nat.le_trans part.length_le short

/-- A text beyond a limit shows it: in the number of its opening brackets, or by a row of as many
digits as are reported. -/
theorem parse_limits (depth : Nat) (text : String) :
    (parse depth text = .error .tooDeep → depth < text.toList.countP isOpening) ∧
      ∀ count, parse depth text = .error (.tooManyDigits count) →
        maxDigits < count ∧ ∃ row, Row row ∧ row.length = count ∧ row <:+: text.toList := by
  unfold parse
  cases outcome : readText depth text.toList with
  | ok json =>
    constructor
    · rintro ⟨⟩
    · rintro count ⟨⟩
  | error stop =>
    have shows := readText_shows outcome
    cases stop with
    | malformed problem left =>
      constructor
      · rintro ⟨⟩
      · rintro count ⟨⟩
    | tooManyDigits count =>
      constructor
      · rintro ⟨⟩
      · rintro count ⟨⟩
        exact shows
    | tooDeep =>
      constructor
      · rintro ⟨⟩
        exact shows
      · rintro count ⟨⟩

/-- Within the limits only a malformed text is refused. -/
theorem malformed_of_withinLimits {depth : Nat} {text : String} {fault : Fault}
    (within : WithinLimits depth text) (refused : parse depth text = .error fault) : ∃ problem place, fault = .malformed problem place := by
  cases fault with
  | malformed problem place => exact ⟨problem, place, rfl⟩
  | tooManyDigits count =>
    obtain ⟨long, row, isRow, same, part⟩ := (parse_limits depth text).2 count refused
    have short := within.rows row isRow part
    omega
  | tooDeep =>
    have deep := (parse_limits depth text).1 refused
    have shallow := within.nesting
    omega

/-- What begins with a digit, a minus sign aside, begins with no space, quote or bracket. -/
theorem head_of_digit (negative : Bool) {c : Char} (digit : c.isDigit = true) (ds : List Char) :
    ∃ first behind, minus negative ++ c :: ds = first :: behind ∧
      first ∉ [' ', '\t', '\n', '\r', ']', '\x7d', '\ufeff', '"', '[', '\x7b'] := by
  cases negative with
  | true => exact ⟨'-', c :: ds, rfl, by decide⟩
  | false =>
    refine ⟨c, ds, rfl, fun mem => ?_⟩
    simp only [List.mem_cons, List.not_mem_nil, or_false] at mem
    rcases mem with rfl | rfl | rfl | rfl | rfl | rfl | rfl | rfl | rfl | rfl <;> cases digit

/-- An integer that starts with no zero, of more digits than are read. -/
theorem parse_long (depth : Nat) (negative : Bool) {c : Char} {ds : List Char} (row : Row (c :: ds))
    (nonzero : c ≠ '0') (long : maxDigits < (c :: ds).length) :
    parse depth (String.ofList (minus negative ++ c :: ds)) =
      .error (.tooManyDigits (c :: ds).length) := by
  have isWhole : IsWhole (c :: ds) := ⟨row, .inr ⟨c, ds, rfl, nonzero⟩⟩
  have digit : c.isDigit = true := row c List.mem_cons_self
  have number : readNumber (minus negative ++ c :: ds) =
      .error (.tooManyDigits (c :: ds).length) := by
    have append := readNumber_append negative isWhole ends_nil.noDigit
    have fraction := takeFraction_none fun c mem => (ends_nil.other c mem).1
    have exponent := takeExponent_none fun c mem => (ends_nil.other c mem).2
    rw [List.append_nil] at append
    rw [append, readBehind]
    simp only [fraction, exponent, if_pos long]
  have plain := (readPlain_of_digit negative digit ds).trans number
  obtain ⟨first, behind, split, other⟩ := head_of_digit negative digit ds
  have starts : Starts (first :: behind) := ⟨first, behind, rfl, fun mem =>
    other (List.mem_append_left ['"', '[', '\x7b'] mem)⟩
  have value : readValue depth (skipSpaces (first :: behind)) =
      .error (.tooManyDigits (c :: ds).length) := by
    rw [starts.skipSpaces_eq, readValue_plain, ← split, plain]
    exact fun mem =>
      other (List.mem_append_right [' ', '\t', '\n', '\r', ']', '\x7d', '\ufeff'] mem)
  have whole : readText depth (first :: behind) = .error (.tooManyDigits (c :: ds).length) := by
    rw [readText]
    · rw [value]
      rfl
    · rintro tail same
      cases same
      exact absurd (by decide) other
  rw [parse, String.toList_ofList, split, whole]
  rfl

end SnippetDetect.Json
