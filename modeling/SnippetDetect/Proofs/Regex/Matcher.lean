import SnippetDetect.Proofs.Snippet
import SnippetDetect.Regex.Matcher
import Mathlib.Data.List.TakeWhile

/-!
What the simple nodes match.

A run of one test takes what may be taken (`runLength_eq`) and gives back as much as the rest needs,
so it succeeds when some length in between does (`isSome_tryDown_iff`). The characters of a text
match that text and nothing else (`step_ofText`).
-/

namespace SnippetDetect.Regex

open SnippetDetect.Text

/-! ### Runs -/

theorem runLength_eq (text : List Point) (test : CharTest) (limit pos : Nat) :
    runLength text.toArray test limit pos =
      (((text.drop pos).take limit).takeWhile test.accepts).length := by
  induction limit generalizing pos with
  | zero => rfl
  | succ limit ih =>
    rw [runLength, List.getElem?_toArray]
    cases found : text[pos]? with
    | none =>
      have ended : text.drop pos = [] := by simpa using found
      simp [ended]
    | some c =>
      have next : text.drop pos = c :: text.drop (pos + 1) := by
        rw [List.drop_eq_getElem?_toList_append, found]
        rfl
      rw [next, List.take_succ_cons, List.takeWhile_cons, ih]
      cases accepted : test.accepts c <;> simp [accepted]

section TryDown

variable {goOn : Nat → Option Spot} {n : Nat}

/-- Where all lesser numbers fail, only the first one is left to try. -/
theorem tryDown_eq (fails : ∀ k < n, goOn k = none) : tryDown goOn 0 n = goOn n := by
  induction n with
  | zero => rfl
  | succ n ih =>
    have lesser : tryDown goOn 0 n = none := by
      rw [ih fun k less => fails k (Nat.lt_succ_of_lt less)]
      exact fails n (Nat.lt_succ_self n)
    rw [tryDown, if_neg (Nat.not_lt_zero _), lesser]
    cases goOn (n + 1) <;> rfl

theorem isSome_orElse {first : Option Spot} {second : Unit → Option Spot} :
    (orElse first second).isSome ↔ first.isSome ∨ (second ()).isSome := by
  cases first <;> simp [orElse]

/-- Trying succeeds when some number does. -/
theorem isSome_tryDown_iff : (tryDown goOn 0 n).isSome ↔ ∃ k ≤ n, (goOn k).isSome := by
  induction n with
  | zero => simp [tryDown]
  | succ n ih =>
    rw [tryDown, if_neg (Nat.not_lt_zero _), isSome_orElse, ih]
    constructor
    · rintro (first | ⟨k, le, lesser⟩)
      · exact ⟨n + 1, Nat.le_refl _, first⟩
      · exact ⟨k, Nat.le_succ_of_le le, lesser⟩
    · rintro ⟨k, le, found⟩
      rcases Nat.le_or_eq_of_le_succ le with le | rfl
      · exact .inr ⟨k, le, found⟩
      · exact .inl found

end TryDown

/-- A run of any length is as long as the rest needs, of what may be taken. -/
theorem isSome_step_run (text : List Point) (test : CharTest) (rest : Rest) (s : Spot) :
    ((Node.run .greedy 0 none test).step text.toArray rest s).isSome ↔
      ∃ k ≤ ((text.drop s.pos).takeWhile test.accepts).length,
        (rest { s with pos := s.pos + k }).isSome := by
  have length : runLength text.toArray test (text.toArray.size - s.pos) s.pos =
      ((text.drop s.pos).takeWhile test.accepts).length := by
    rw [runLength_eq, List.size_toArray, ← List.length_drop, List.take_length]
  simp only [Node.step, runStep, Option.elim, length, Nat.not_lt_zero, if_false]
  exact isSome_tryDown_iff

/-- Tests that accept the same code points make the same runs. -/
theorem step_run_congr {test other : CharTest} (same : test.accepts = other.accepts)
    (greed : Greed) (min : Nat) (max : Option Nat) (text : Array Point) :
    (Node.run greed min max test).step text = (Node.run greed min max other).step text := by
  have lengths (limit pos : Nat) :
      runLength text test limit pos = runLength text other limit pos := by
    have whole : text = text.toList.toArray := Array.toArray_toList.symm
    rw [whole, runLength_eq, runLength_eq, same]
  funext rest s
  simp only [Node.step, runStep, lengths]

/-! ### Texts -/

theorem step_ofList_cons (text : Array Point) (n : Node) (nodes : List Node) (rest : Rest) :
    (Node.ofList (n :: nodes)).step text rest = n.step text ((Node.ofList nodes).step text rest) := by
  cases nodes <;> rfl

theorem accepts_letter_exact {c : Char} {p : Point} :
    (CharTest.letter .exact false c.toNat).accepts p = true ↔ .char c = p := by
  rw [← Point.toNat_injective.eq_iff, Point.toNat_char, eq_comm (a := c.toNat)]
  simp only [CharTest.accepts, Bool.bne_false, beq_iff_eq, Folding.key, Folding.lower]

/-- The characters of a text match where the text goes on with them. -/
theorem step_ofText (text : List Point) (cs : List Char) (rest : Rest) (s : Spot) :
    (Node.ofText cs).step text.toArray rest s =
      if cs.map .char <+: text.drop s.pos then rest { s with pos := s.pos + cs.length } else none := by
  induction cs generalizing s with
  | nil =>
    rw [List.map_nil, if_pos List.nil_prefix]
    rfl
  | cons c cs ih =>
    have first : (Node.ofText (c :: cs)).step text.toArray rest =
        (Node.char (.letter .exact false c.toNat)).step text.toArray
          ((Node.ofText cs).step text.toArray rest) := step_ofList_cons ..
    simp only [first, Node.step, List.getElem?_toArray]
    cases found : text[s.pos]? with
    | none =>
      have ended : text.drop s.pos = [] := by simpa using found
      rw [ended, if_neg (by simp)]
    | some p =>
      have next : text.drop s.pos = p :: text.drop (s.pos + 1) := by
        rw [List.drop_eq_getElem?_toList_append, found]
        rfl
      simp only [next, List.map_cons, List.cons_prefix_cons, accepts_letter_exact, ih,
        List.length_cons]
      by_cases same : .char c = p
      · simp [same, Nat.add_assoc, Nat.add_comm 1]
      · simp [same]

/-- An expression occurs when it matches at some place of the text. -/
theorem occursIn_eq_true_iff {r : Regex} {text : List Point} :
    r.occursIn text.toArray = true ↔
      ∃ start ≤ text.length, (r.matchEnd? text.toArray start).isSome := by
  simp only [occursIn, List.any_eq_true, List.mem_range, List.size_toArray, Nat.lt_succ_iff]

end SnippetDetect.Regex
