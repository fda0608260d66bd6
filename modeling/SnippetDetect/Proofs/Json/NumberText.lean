import SnippetDetect.Json.Reader
import SnippetDetect.Json.Writer
import SnippetDetect.Proofs.Number.Decimal
import SnippetDetect.Proofs.Text.Runs

/-!
Numbers in JSON text.

A number with a sign, digits, a point and an exponent is read as the decimal that is spelled
(`readNumber_point`, `readNumber_exponent`), or, when it has digits only, as an integer
(`readNumber_whole`). So every double-precision number, and every integer of not too many digits,
is read back from its text (`readPlain_number`).
-/

namespace SnippetDetect.Json

open SnippetDetect.Number (ofDigits ofDigits_append ofDigits_digits ofDigits_zeros maxDigits)
open SnippetDetect.Text (takeWhile_append_of_stop dropWhile_append_of_stop)

/-! ### Rows of digits -/

/-- A row of digits. -/
def Row (ds : List Char) : Prop := ∀ c ∈ ds, c.isDigit = true

def NoDigit (rest : List Char) : Prop := ∀ c ∈ rest.head?, c.isDigit = false

/-- What may stand behind a number: nothing that could belong to it. -/
def Ends (rest : List Char) : Prop :=
  ∀ c ∈ rest.head?, c = ',' ∨ c = ']' ∨ c = '\x7d' ∨ c = '\n'

theorem Ends.noDigit {rest : List Char} (ends : Ends rest) : NoDigit rest := by
  intro c mem
  rcases ends c mem with rfl | rfl | rfl | rfl <;> rfl

theorem Ends.other {rest : List Char} (ends : Ends rest) :
    ∀ c ∈ rest.head?, c ≠ '.' ∧ c ≠ 'e' ∧ c ≠ 'E' := by
  intro c mem
  rcases ends c mem with rfl | rfl | rfl | rfl <;> decide

/-! ### The parts of a number -/

/-- The digits before a point: a zero alone, or a row that starts with another digit. -/
structure IsWhole (whole : List Char) : Prop where
  row : Row whole
  first : whole = ['0'] ∨ ∃ c rest, whole = c :: rest ∧ c ≠ '0'

theorem takeWhole_append {whole rest : List Char} (isWhole : IsWhole whole)
    (stop : NoDigit rest) : takeWhole (whole ++ rest) = some (whole, rest) := by
  rcases isWhole.first with rfl | ⟨c, ds, rfl, nonzero⟩
  · rfl
  · have digit : c.isDigit = true := isWhole.row c List.mem_cons_self
    have row : Row ds := fun d mem => isWhole.row d (List.mem_cons_of_mem _ mem)
    rw [List.cons_append, takeWhole]
    · rw [if_pos digit, takeWhile_append_of_stop row stop, dropWhile_append_of_stop row stop]
    · exact fun same => nonzero same

theorem takeFraction_point {fraction rest : List Char} (row : Row fraction)
    (nonempty : fraction ≠ []) (stop : NoDigit rest) :
    takeFraction ('.' :: (fraction ++ rest)) = (fraction, rest) := by
  obtain ⟨c, ds, rfl⟩ := List.exists_cons_of_ne_nil nonempty
  have digit : c.isDigit = true := row c List.mem_cons_self
  have rowRest : Row ds := fun d mem => row d (List.mem_cons_of_mem _ mem)
  rw [List.cons_append, takeFraction, if_pos digit, takeWhile_append_of_stop rowRest stop,
    dropWhile_append_of_stop rowRest stop]

theorem takeFraction_none {rest : List Char} (other : ∀ c ∈ rest.head?, c ≠ '.') :
    takeFraction rest = ([], rest) := by
  cases rest with
  | nil => rfl
  | cons c rest =>
    rw [takeFraction]
    rintro d ds same
    cases same
    exact other '.' rfl rfl

theorem takeExponent_none {rest : List Char} (other : ∀ c ∈ rest.head?, c ≠ 'e' ∧ c ≠ 'E') :
    takeExponent rest = none := by
  cases rest with
  | nil => rfl
  | cons c rest =>
    have away := other c rfl
    rw [takeExponent, if_neg (by simp [away.1, away.2])]

/-- The sign of an exponent. -/
def exponentSign (negative : Bool) : Char := if negative then '-' else '+'

theorem takeExponent_some {ds rest : List Char} (negative : Bool) (row : Row ds)
    (nonempty : ds ≠ []) (stop : NoDigit rest) :
    takeExponent ('e' :: exponentSign negative :: (ds ++ rest)) =
      some (if negative then -(ofDigits ds : Int) else ofDigits ds, rest) := by
  have sign : Number.takeSign (exponentSign negative :: (ds ++ rest)) = (negative, ds ++ rest) := by
    cases negative <;> rfl
  rw [takeExponent, if_pos (.inl rfl), sign]
  simp only [takeWhile_append_of_stop row stop, dropWhile_append_of_stop row stop, if_neg nonempty]

/-- The minus sign of a negative number. -/
def minus (negative : Bool) : List Char := if negative then ['-'] else []

/-! ### Numbers that are spelled out -/

theorem readNumber_append (negative : Bool) {whole rest : List Char} (isWhole : IsWhole whole)
    (stop : NoDigit rest) :
    readNumber (minus negative ++ (whole ++ rest)) = readBehind negative whole rest := by
  have taken := takeWhole_append isWhole stop
  cases negative with
  | true => simp only [readNumber, minus, if_true, List.singleton_append, taken]
  | false =>
    have unsigned (ds : List Char) : '-' :: ds ≠ whole ++ rest := by
      intro same
      obtain ⟨c, row, rfl⟩ : ∃ c row, whole = c :: row := by
        rcases isWhole.first with rfl | ⟨c, row, split, -⟩
        · exact ⟨_, _, rfl⟩
        · exact ⟨c, row, split⟩
      cases same
      cases isWhole.row '-' List.mem_cons_self
    have sign : minus false ++ (whole ++ rest) = whole ++ rest := rfl
    rw [sign, readNumber]
    · simp only [taken]
    · exact fun ds same => unsigned ds same.symm

/-- Digits alone are an integer. -/
theorem readNumber_whole (negative : Bool) {whole rest : List Char} (isWhole : IsWhole whole)
    (short : whole.length ≤ maxDigits) (ends : Ends rest) :
    readNumber (minus negative ++ (whole ++ rest)) =
      .ok (.num (.int (if negative then -(ofDigits whole : Int) else ofDigits whole)), rest) := by
  have fraction := takeFraction_none fun c mem => (ends.other c mem).1
  have exponent := takeExponent_none fun c mem => (ends.other c mem).2
  rw [readNumber_append negative isWhole ends.noDigit]
  simp only [readBehind, fraction, exponent, if_neg (Nat.not_lt.mpr short)]

/-- Digits around a point are a decimal. -/
theorem readNumber_point (negative : Bool) {whole fraction rest : List Char}
    (isWhole : IsWhole whole) (row : Row fraction) (nonempty : fraction ≠ []) (ends : Ends rest) :
    readNumber (minus negative ++ (whole ++ '.' :: (fraction ++ rest))) =
      .ok (.num (.float (Decimal.toBinary64 negative
        ⟨ofDigits (whole ++ fraction), 0 - fraction.length⟩)), rest) := by
  have exponent := takeExponent_none fun c mem => (ends.other c mem).2
  have stop : NoDigit ('.' :: (fraction ++ rest)) := by
    rintro c ⟨⟩
    rfl
  rw [readNumber_append negative isWhole stop]
  have behind := takeFraction_point row nonempty ends.noDigit
  obtain ⟨c, ds, rfl⟩ := List.exists_cons_of_ne_nil nonempty
  simp only [readBehind, behind, exponent]
  rfl

/-- The part of a number from the point on, up to the exponent. -/
def pointed (fraction : List Char) : List Char :=
  if fraction = [] then [] else '.' :: fraction

/-- Digits before an exponent are a decimal. -/
theorem readNumber_exponent (negative below : Bool) {whole fraction size rest : List Char}
    (isWhole : IsWhole whole) (row : Row fraction) (rowSize : Row size) (nonempty : size ≠ [])
    (ends : Ends rest) :
    readNumber (minus negative ++ (whole ++ (pointed fraction ++
        'e' :: exponentSign below :: (size ++ rest)))) =
      .ok (.num (.float (Decimal.toBinary64 negative
        ⟨ofDigits (whole ++ fraction),
          (if below then -(ofDigits size : Int) else ofDigits size) - fraction.length⟩)), rest) := by
  have exponent := takeExponent_some below rowSize nonempty ends.noDigit
  have behind : takeFraction (pointed fraction ++ 'e' :: exponentSign below :: (size ++ rest)) =
      (fraction, 'e' :: exponentSign below :: (size ++ rest)) := by
    unfold pointed
    split
    · next empty =>
      subst empty
      exact takeFraction_none (by rintro c ⟨⟩; decide)
    · next some => exact takeFraction_point row some (by rintro c ⟨⟩; rfl)
  have stop : NoDigit (pointed fraction ++ 'e' :: exponentSign below :: (size ++ rest)) := by
    unfold pointed
    split <;> (rintro c ⟨⟩; rfl)
  rw [readNumber_append negative isWhole stop]
  simp only [readBehind, behind, exponent]
  rfl

/-! ### Numbers that are written -/

theorem isWhole_digits (n : Nat) : IsWhole (Decimal.digits n) where
  row _ mem := Decimal.isDigit_of_mem_digits mem
  first := by
    cases n with
    | zero => exact .inl rfl
    | succ n =>
      obtain ⟨c, ds, split⟩ := List.exists_cons_of_ne_nil (Decimal.digits_ne_nil (n + 1))
      refine .inr ⟨c, ds, split, ?_⟩
      rintro rfl
      exact Decimal.head_digits_ne_zero (Nat.succ_pos n) (by rw [split]; rfl)

theorem row_zeros (k : Nat) : Row (Decimal.zeros k) := by
  intro c mem
  rw [List.eq_of_mem_replicate mem]
  rfl

theorem Row.append {xs ys : List Char} (left : Row xs) (right : Row ys) : Row (xs ++ ys) := by
  intro c mem
  rcases List.mem_append.mp mem with mem | mem
  · exact left c mem
  · exact right c mem

theorem length_zeros (k : Nat) : (Decimal.zeros k).length = k := List.length_replicate

theorem isWhole_append {p : Placed} {d : Decimal} (written : Decimal.WrittenAs p d) {taken : Nat}
    (pos : 0 < taken) (more : List Char) (row : Row more) :
    IsWhole (p.digits.take taken ++ more) := by
  obtain ⟨c, ds, split⟩ := List.exists_cons_of_ne_nil written.nonempty
  obtain ⟨n, rfl⟩ := Nat.exists_eq_succ_of_ne_zero pos.ne'
  refine ⟨Row.append (fun c mem => written.row c (List.mem_of_mem_take mem)) row, ?_⟩
  refine .inr ⟨c, ds.take n ++ more, by rw [split]; rfl, ?_⟩
  rintro rfl
  exact written.head (by rw [split]; rfl)

/-- The two parts of a positional decimal. Up to zeros at the end they have its digits. -/
theorem positional_eq {p : Placed} {d : Decimal} (written : Decimal.WrittenAs p d) :
    ∃ (whole fraction : List Char) (k : Nat),
      Decimal.positional p = whole ++ '.' :: fraction ∧
        IsWhole whole ∧ Row fraction ∧ fraction ≠ [] ∧
        ofDigits (whole ++ fraction) = ofDigits p.digits * 10 ^ k ∧
        (0 : Int) - fraction.length = p.point - p.digits.length - k := by
  by_cases small : p.point ≤ 0
  · refine ⟨['0'], Decimal.zeros p.point.natAbs ++ p.digits, 0, ?_, ?_, ?_, ?_, ?_, ?_⟩
    · simp [Decimal.positional, small]
    · exact ⟨row_zeros 1, .inl rfl⟩
    · exact (row_zeros _).append written.row
    · simp [written.nonempty]
    · rw [show ['0'] = Decimal.zeros 1 from rfl, ofDigits_append, ofDigits_zeros, ofDigits_append,
        ofDigits_zeros]
      simp
    · rw [List.length_append, length_zeros]
      omega
  · have pos : 0 < p.point.natAbs := by omega
    by_cases short : p.digits.length ≤ p.point.natAbs
    · set k := p.point.natAbs - p.digits.length with hk
      refine ⟨p.digits ++ Decimal.zeros k, ['0'], k + 1, ?_, ?_, row_zeros 1, by simp, ?_, ?_⟩
      · simp [Decimal.positional, small, short, hk]
      · have whole := isWhole_append written pos (Decimal.zeros k) (row_zeros k)
        rwa [List.take_of_length_le short] at whole
      · rw [List.append_assoc, ofDigits_append, show ['0'] = Decimal.zeros 1 from rfl,
          ofDigits_append, ofDigits_zeros, ofDigits_zeros, List.length_append, length_zeros,
          length_zeros]
        simp
      · simp only [List.length_cons, List.length_nil]
        omega
    · refine ⟨p.digits.take p.point.natAbs, p.digits.drop p.point.natAbs, 0, ?_, ?_, ?_, ?_, ?_, ?_⟩
      · simp [Decimal.positional, small, short]
      · have whole := isWhole_append written pos [] nofun
        rwa [List.append_nil] at whole
      · exact fun c mem => written.row c (List.mem_of_mem_drop mem)
      · simp only [ne_eq, List.drop_eq_nil_iff]
        omega
      · rw [List.take_append_drop, Nat.pow_zero, Nat.mul_one]
      · rw [List.length_drop]
        omega

/-- A positional decimal is read as it is written. -/
theorem readNumber_positional (negative : Bool) {p : Placed} {d : Decimal}
    (written : Decimal.WrittenAs p d) {rest : List Char} (ends : Ends rest) :
    readNumber (minus negative ++ (Decimal.positional p ++ rest)) =
      .ok (.num (.float (d.toBinary64 negative)), rest) := by
  obtain ⟨whole, fraction, k, text, isWhole, row, nonempty, value, exponent⟩ :=
    positional_eq written
  rw [text, List.append_assoc, List.cons_append,
    readNumber_point negative isWhole row nonempty ends, value, exponent,
    Decimal.toBinary64_shift, written.value]

/-- A decimal with an exponent is read as it is written. -/
theorem readNumber_scientific (negative : Bool) {p : Placed} {d : Decimal}
    (written : Decimal.WrittenAs p d) {rest : List Char} (ends : Ends rest) :
    readNumber (minus negative ++ (Decimal.scientific p ++ rest)) =
      .ok (.num (.float (d.toBinary64 negative)), rest) := by
  obtain ⟨c, fraction, split⟩ := List.exists_cons_of_ne_nil written.nonempty
  set size := Decimal.zeros (2 - (Decimal.digits (p.point - 1).natAbs).length) ++
    Decimal.digits (p.point - 1).natAbs with hsize
  have text : Decimal.scientific p ++ rest = [c] ++ (pointed fraction ++
      'e' :: exponentSign (p.point - 1 < 0) :: (size ++ rest)) := by
    rw [Decimal.scientific, split, pointed]
    cases fraction <;> simp [exponentSign, hsize]
  have isWhole : IsWhole [c] := by
    have whole := isWhole_append written Nat.one_pos [] nofun
    rwa [split] at whole
  have rowFraction : Row fraction := fun d mem =>
    written.row d (by rw [split]; exact List.mem_cons_of_mem _ mem)
  have rowSize : Row size := (row_zeros _).append fun d mem => Decimal.isDigit_of_mem_digits mem
  have nonempty : size ≠ [] := by simp [hsize, Decimal.digits_ne_nil]
  have value : ofDigits size = (p.point - 1).natAbs := by
    rw [hsize, ofDigits_append, ofDigits_zeros, ofDigits_digits, Nat.zero_mul, Nat.zero_add]
  have exponent : (if decide (p.point - 1 < 0) = true then -(ofDigits size : Int)
      else ofDigits size) - fraction.length = p.point - p.digits.length := by
    rw [value, split, List.length_cons]
    by_cases below : p.point - 1 < 0
    · rw [if_pos (decide_eq_true below)]
      omega
    · rw [if_neg (by simpa using below)]
      omega
  rw [text, readNumber_exponent negative _ isWhole rowFraction rowSize nonempty ends, exponent,
    List.singleton_append, ← split, written.value]

/-! ### Numbers that are read back -/

/-- A decimal is read as it is written. -/
theorem readNumber_text {d : Decimal} (pos : 0 < d.coefficient) (negative : Bool)
    {rest : List Char} (ends : Ends rest) :
    readNumber (minus negative ++ (d.text ++ rest)) =
      .ok (.num (.float (d.toBinary64 negative)), rest) := by
  have written := Decimal.writtenAs_placed pos
  unfold Decimal.text
  dsimp only
  split
  · exact readNumber_positional negative written ends
  · exact readNumber_scientific negative written ends

theorem toList_toString (n : Int) :
    (toString n).toList = minus (n < 0) ++ Decimal.digits n.natAbs := by
  rw [Int.toString_eq_repr, Int.repr_eq_if]
  by_cases sign : 0 ≤ n
  · have whole : n.toNat = n.natAbs := by omega
    rw [if_pos sign, Nat.toList_repr, whole, decide_eq_false (by omega)]
    rfl
  · have whole : (-n).toNat = n.natAbs := by omega
    rw [if_neg sign, String.toList_append, Nat.toList_repr, whole, decide_eq_true (by omega)]
    rfl

/-- An integer that has few enough digits to be read. -/
def IsShort (n : Int) : Prop := (Decimal.digits n.natAbs).length ≤ maxDigits

theorem readNumber_int {n : Int} (short : IsShort n) {rest : List Char} (ends : Ends rest) :
    readNumber ((toString n).toList ++ rest) = .ok (.num (.int n), rest) := by
  have value : (if decide (n < 0) = true then -(n.natAbs : Int) else n.natAbs) = n := by
    split
    · next sign =>
      have := of_decide_eq_true sign
      omega
    · next sign =>
      have := of_decide_eq_false (Bool.not_eq_true _ ▸ sign)
      omega
  rw [toList_toString, List.append_assoc, readNumber_whole _ (isWhole_digits n.natAbs) short ends,
    ofDigits_digits, value]

/-- The decimal of a positive number is positive. -/
theorem coefficient_shortest_pos {units : Binary64.Units} (pos : 0 < units.count) :
    0 < (Binary64.shortest units).coefficient := by
  by_contra zero
  have reads := Binary64.toBinary64_shortest units pos false
  rw [Decimal.toBinary64_eq, if_pos (.inl (by omega))] at reads
  cases reads
  exact absurd pos (Nat.lt_irrefl 0)

theorem readNumber_finite (negative : Bool) (units : Binary64.Units) {rest : List Char}
    (ends : Ends rest) :
    readNumber ((Binary64.text spelling (.finite negative units)).toList ++ rest) =
      .ok (.num (.float (.finite negative units)), rest) := by
  have sign : (if negative = true then "-" else "").toList = minus negative := by
    cases negative <;> rfl
  rw [Binary64.text, String.toList_append, sign, List.append_assoc]
  by_cases zero : units.count = 0
  · have read := readNumber_point negative (isWhole_digits 0) (row_zeros 1) (by simp [Decimal.zeros])
      ends
    have none : units = .none := by
      obtain ⟨count, small, fits⟩ := units
      cases zero
      rfl
    rw [if_pos zero, none]
    exact read
  · have pos : 0 < units.count := Nat.pos_of_ne_zero zero
    rw [if_neg zero, String.toList_ofList, readNumber_text (coefficient_shortest_pos pos) _ ends,
      Binary64.toBinary64_shortest units pos]

/-- What is read as a number begins with a digit, a minus sign aside. -/
theorem digit_of_readNumber {cs : List Char} {answer : Json × List Char}
    (read : readNumber cs = .ok answer) :
    ∃ negative c rest, cs = minus negative ++ c :: rest ∧ c.isDigit = true := by
  have whole (ahead : List Char) (some : takeWhole ahead ≠ none) :
      ∃ c rest, ahead = c :: rest ∧ c.isDigit = true := by
    cases ahead with
    | nil => exact absurd rfl some
    | cons c rest =>
      refine ⟨c, rest, rfl, ?_⟩
      by_contra other
      apply some
      rw [takeWhole, if_neg other]
      rintro rfl
      exact other rfl
  by_cases signed : ∃ ahead, cs = '-' :: ahead
  · obtain ⟨ahead, rfl⟩ := signed
    obtain ⟨c, rest, rfl, digit⟩ := whole ahead (by
      intro none
      simp only [readNumber, none] at read
      cases read)
    exact ⟨true, c, rest, rfl, digit⟩
  · obtain ⟨c, rest, rfl, digit⟩ := whole cs (by
      intro none
      rw [readNumber] at read
      · simp only [none] at read
        cases read
      · exact fun ahead same => signed ⟨ahead, same⟩)
    exact ⟨false, c, rest, rfl, digit⟩

/-- What begins with a digit, a minus sign aside, is no word. -/
theorem readPlain_of_digit (negative : Bool) {c : Char} (digit : c.isDigit = true)
    (rest : List Char) :
    readPlain (minus negative ++ c :: rest) = readNumber (minus negative ++ c :: rest) := by
  have letter (w : Char) (other : w.isDigit = false) : (w == c) = false := by
    rw [beq_eq_false_iff_ne]
    rintro rfl
    rw [digit] at other
    cases other
  have none : words.find? (fun entry => entry.1.isPrefixOf (minus negative ++ c :: rest)) = none := by
    have first (w : Char) (word : List Char) (other : w.isDigit = false) (same : w ≠ '-') :
        (w :: word).isPrefixOf (minus negative ++ c :: rest) = false := by
      cases negative with
      | false => exact Bool.and_eq_false_iff.mpr (.inl (letter w other))
      | true => exact Bool.and_eq_false_iff.mpr (.inl (beq_eq_false_iff_ne.mpr same))
    have second (w : Char) (word : List Char) (other : w.isDigit = false) :
        ('-' :: w :: word).isPrefixOf (minus negative ++ c :: rest) = false := by
      cases negative with
      | false => exact Bool.and_eq_false_iff.mpr (.inl (letter '-' rfl))
      | true =>
        exact Bool.and_eq_false_iff.mpr (.inr (Bool.and_eq_false_iff.mpr (.inl (letter w other))))
    rw [List.find?_eq_none]
    intro entry mem
    simp only [words, List.mem_cons, List.not_mem_nil, or_false] at mem
    rcases mem with rfl | rfl | rfl | rfl | rfl | rfl
    · exact Bool.eq_false_iff.mp (first 'n' _ rfl (by decide))
    · exact Bool.eq_false_iff.mp (first 't' _ rfl (by decide))
    · exact Bool.eq_false_iff.mp (first 'f' _ rfl (by decide))
    · exact Bool.eq_false_iff.mp (first 'N' _ rfl (by decide))
    · exact Bool.eq_false_iff.mp (first 'I' _ rfl (by decide))
    · exact Bool.eq_false_iff.mp (second 'I' _ rfl)
  rw [readPlain, none]

/-- A number is no word. -/
theorem readPlain_of_readNumber {cs : List Char} {answer : Json × List Char}
    (read : readNumber cs = .ok answer) : readPlain cs = .ok answer := by
  obtain ⟨negative, c, rest, rfl, digit⟩ := digit_of_readNumber read
  rw [readPlain_of_digit negative digit, read]

/-- A number is read back from its text. -/
theorem readPlain_number {n : Number} (short : ∀ m, n = .int m → IsShort m) {rest : List Char}
    (ends : Ends rest) :
    readPlain ((n.text spelling).toList ++ rest) = .ok (.num n, rest) := by
  cases n with
  | int m => exact readPlain_of_readNumber (readNumber_int (short m rfl) ends)
  | float x =>
    cases x with
    | nan => rfl
    | infinity negative => cases negative <;> rfl
    | finite negative units => exact readPlain_of_readNumber (readNumber_finite negative units ends)

end SnippetDetect.Json
