import SnippetDetect.Json.Reader
import SnippetDetect.Json.Writer
import Mathlib.Tactic.IntervalCases

/-!
Strings in JSON text.

A character is read back from its escape, which may be two code units
(`readStringFrom_escapeChar`). So a string is read back from the characters between its quotes
(`readString_escaped`).
-/

namespace SnippetDetect.Json

open SnippetDetect.Text (hex)

/-! ### Code units -/

theorem hexDigit?_digitChar {d : Nat} (small : d < 16) : hexDigit? (Nat.digitChar d) = some d := by
  interval_cases d <;> rfl

theorem hex_one {n : Nat} (small : n < 16) : hex 1 n = [Nat.digitChar n] := by
  rw [hex, Nat.toDigits_of_lt_base small]
  rfl

theorem hex_succ {width : Nat} (pos : 0 < width) (n : Nat) :
    hex (width + 1) n = hex width (n / 16) ++ [Nat.digitChar (n % 16)] := by
  unfold hex
  dsimp only
  by_cases small : n < 16
  · have zeros : List.replicate width '0' = List.replicate (width - 1) '0' ++ ['0'] := by
      rw [← List.replicate_succ', Nat.sub_add_cancel pos]
    rw [Nat.toDigits_of_lt_base small, Nat.div_eq_of_lt small, Nat.mod_eq_of_lt small,
      Nat.toDigits_zero]
    simp [zeros]
  · rw [Nat.toDigits_of_base_le (by decide) (by omega), List.length_append, List.length_singleton,
      Nat.add_sub_add_right, List.append_assoc]

/-- The four digits of a code unit. -/
theorem hex_four {n : Nat} (small : n < 0x10000) :
    hex 4 n = [Nat.digitChar (n / 16 / 16 / 16), Nat.digitChar (n / 16 / 16 % 16),
      Nat.digitChar (n / 16 % 16), Nat.digitChar (n % 16)] := by
  rw [hex_succ (by decide), hex_succ (by decide), hex_succ (by decide), hex_one (by omega)]
  rfl

/-- A code unit is read back from its digits when more text follows. -/
theorem codeUnit?_hex {n : Nat} (small : n < 0x10000) (c : Char) (rest : List Char) :
    codeUnit? (hex 4 n ++ c :: rest) = some (n, c :: rest) := by
  have first := hexDigit?_digitChar (show n / 16 / 16 / 16 < 16 by omega)
  have second := hexDigit?_digitChar (show n / 16 / 16 % 16 < 16 by omega)
  have third := hexDigit?_digitChar (show n / 16 % 16 < 16 by omega)
  have fourth := hexDigit?_digitChar (show n % 16 < 16 by omega)
  have value : (((0 * 16 + n / 16 / 16 / 16) * 16 + n / 16 / 16 % 16) * 16 + n / 16 % 16) * 16 +
      n % 16 = n := by omega
  rw [hex_four small]
  simp only [List.cons_append, List.nil_append, codeUnit?, List.mapM_cons, List.mapM_nil, first,
    second, third, fourth]
  exact congrArg (fun n => some (n, c :: rest)) value

theorem toNat_valid (c : Char) : c.toNat < 0xD800 ∨ 0xDFFF < c.toNat ∧ c.toNat < 0x110000 := c.valid

theorem unitChar_toNat (c : Char) : unitChar c.toNat = c := by
  have valid := toNat_valid c
  have single : (isHighSurrogate c.toNat || isLowSurrogate c.toNat) = false := by
    simp only [isHighSurrogate, isLowSurrogate, Bool.or_eq_false_iff, decide_eq_false_iff_not]
    omega
  rw [unitChar, single, if_neg Bool.false_ne_true, Char.ofNat_toNat]

/-- A single code unit is read as its character. -/
theorem readCodeUnits_single {c : Char} (small : c.toNat < 0x10000) (next : Char)
    (rest : List Char) :
    readCodeUnits ('u' :: (hex 4 c.toNat ++ next :: rest)) = .ok (c, next :: rest) := by
  have valid := toNat_valid c
  have single : isHighSurrogate c.toNat = false := by
    simp only [isHighSurrogate, decide_eq_false_iff_not]
    omega
  have unit : codeUnit? (('u' :: (hex 4 c.toNat ++ next :: rest)).drop 1) =
      some (c.toNat, next :: rest) := codeUnit?_hex small next rest
  simp only [readCodeUnits, unit, unitChar_toNat]
  split
  · simp [single]
  · rfl

theorem readCodeUnits_of_pair {first second : Nat} (high : isHighSurrogate first = true)
    (low : isLowSurrogate second = true) {ahead more behind : List Char}
    (unit : codeUnit? ahead = some (first, '\\' :: 'u' :: more)) (long : 5 ≤ more.length)
    (unitBehind : codeUnit? more = some (second, behind)) :
    readCodeUnits ('u' :: ahead) =
      .ok (Char.ofNat (0x10000 + (first - 0xD800) * 0x400 + (second - 0xDC00)), behind) := by
  simp only [readCodeUnits, List.drop_succ_cons, List.drop_zero, unit, unitBehind,
    if_pos (show isHighSurrogate first = true ∧ 5 ≤ more.length from ⟨high, long⟩), if_pos low]

/-- Two code units are read as one character. -/
theorem readCodeUnits_pair {c : Char} (large : 0x10000 ≤ c.toNat) (next : Char)
    (rest : List Char) :
    readCodeUnits ('u' :: (hex 4 (0xD800 + (c.toNat - 0x10000) / 0x400) ++
      '\\' :: 'u' :: (hex 4 (0xDC00 + (c.toNat - 0x10000) % 0x400) ++ next :: rest))) =
        .ok (c, next :: rest) := by
  have valid := toNat_valid c
  obtain ⟨offset, above⟩ : ∃ offset, c.toNat = 0x10000 + offset := ⟨c.toNat - 0x10000, by omega⟩
  have high : isHighSurrogate (0xD800 + offset / 0x400) = true := by
    simp only [isHighSurrogate, decide_eq_true_eq]
    omega
  have low : isLowSurrogate (0xDC00 + offset % 0x400) = true := by
    simp only [isLowSurrogate, decide_eq_true_eq]
    omega
  have long : 5 ≤ (hex 4 (0xDC00 + offset % 0x400) ++ next :: rest).length := by
    rw [hex_four (by omega)]
    simp
  have read := readCodeUnits_of_pair high low (codeUnit?_hex (by omega) '\\' _) long
    (codeUnit?_hex (by omega) next rest)
  have value : 0x10000 + (0xD800 + offset / 0x400 - 0xD800) * 0x400 +
      (0xDC00 + offset % 0x400 - 0xDC00) = c.toNat := by omega
  rw [value, Char.ofNat_toNat] at read
  have same : c.toNat - 0x10000 = offset := by omega
  rw [same]
  exact read

/-! ### Characters and strings -/

theorem escapeUnit_append (n : Nat) (rest : List Char) :
    escapeUnit n ++ rest = '\\' :: 'u' :: (hex 4 n ++ rest) := rfl

/-- A character is read back from its escape when more text follows. -/
theorem readStringFrom_escapeChar (opening fuel : Nat) (read : List Char) (c next : Char)
    (rest : List Char) :
    readStringFrom opening (fuel + 1) read (escapeChar c ++ next :: rest) =
      readStringFrom opening fuel (c :: read) (next :: rest) := by
  have valid := toNat_valid c
  -- The cases are those of `escapeChar`, each with the branch of the reader that undoes it.
  unfold escapeChar
  dsimp only
  split
  · next special => rcases special with rfl | rfl <;> rfl
  split
  · next same => subst same; rfl
  split
  · next same => subst same; rfl
  split
  · next same => subst same; rfl
  split
  · next same => subst same; rfl
  split
  · next same => subst same; rfl
  split
  · next other _ _ _ _ _ visible =>
    rw [List.singleton_append, readStringFrom.eq_def]
    simp only [if_neg fun same => other (.inl same), if_neg fun same => other (.inr same),
      if_neg (Nat.not_lt.mpr visible.1)]
  have escape {text : List Char} (read' : readCodeUnits ('u' :: text) = .ok (c, next :: rest)) :
      readStringFrom opening (fuel + 1) read ('\\' :: 'u' :: text) =
        readStringFrom opening fuel (c :: read) (next :: rest) := by
    rw [readStringFrom.eq_def]
    simp only [read']
    rfl
  split
  · next small =>
    rw [escapeUnit_append]
    exact escape (readCodeUnits_single small next rest)
  · next large =>
    rw [List.append_assoc, escapeUnit_append, escapeUnit_append]
    exact escape (readCodeUnits_pair (Nat.not_lt.mp large) next rest)

theorem readStringFrom_escaped (opening : Nat) {fuel : Nat} (read cs rest : List Char)
    (enough : cs.length < fuel) :
    readStringFrom opening fuel read (cs.flatMap escapeChar ++ '"' :: rest) =
      .ok (String.ofList (read.reverse ++ cs), rest) := by
  induction cs generalizing fuel read with
  | nil =>
    obtain ⟨fuel, rfl⟩ := Nat.exists_eq_succ_of_ne_zero (Nat.ne_of_gt enough)
    simp [readStringFrom]
  | cons c cs ih =>
    obtain ⟨fuel, rfl⟩ := Nat.exists_eq_succ_of_ne_zero (Nat.ne_of_gt (Nat.zero_lt_of_lt enough))
    have later := ih (c :: read) (Nat.lt_of_succ_lt_succ enough)
    obtain ⟨next, behind, split⟩ : ∃ next behind,
        cs.flatMap escapeChar ++ '"' :: rest = next :: behind :=
      List.exists_cons_of_ne_nil (by simp)
    rw [split] at later
    rw [List.flatMap_cons, List.append_assoc, split, readStringFrom_escapeChar, later,
      List.reverse_cons, List.append_assoc]
    rfl

theorem escapeChar_ne_nil (c : Char) : escapeChar c ≠ [] := by
  unfold escapeChar
  dsimp only
  repeat' split
  all_goals exact List.cons_ne_nil _ _

theorem length_le_flatMap_escapeChar (cs : List Char) :
    cs.length ≤ (cs.flatMap escapeChar).length := by
  induction cs with
  | nil => exact Nat.le_refl 0
  | cons c cs ih =>
    have first := List.length_pos_iff.mpr (escapeChar_ne_nil c)
    rw [List.flatMap_cons, List.length_append, List.length_cons]
    omega

/-- A string is read back from the characters between its quotes. -/
theorem readString_escaped (s : String) (rest : List Char) :
    readString (s.toList.flatMap escapeChar ++ '"' :: rest) = .ok (s, rest) := by
  have all := length_le_flatMap_escapeChar s.toList
  have enough : s.toList.length < (s.toList.flatMap escapeChar ++ '"' :: rest).length + 1 := by
    rw [List.length_append]
    omega
  rw [readString, readStringFrom_escaped _ _ _ _ enough]
  simp

end SnippetDetect.Json
