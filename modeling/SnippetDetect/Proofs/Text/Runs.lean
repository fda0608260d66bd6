import Mathlib.Data.List.Basic
import Mathlib.Data.List.TakeWhile

/-!
Runs of characters of one kind.

A run is bounded by the ends of the text or by characters of another kind, so nothing prolongs it
(`IsRun`). What is taken from its start on is the whole of it (`IsRun.takeWhile_eq`), and no run
begins inside another one (`IsRun.append_eq_cases`).
-/

namespace SnippetDetect.Text

section Kinds

variable {α : Type} {p : α → Bool}

theorem takeWhile_append_of_stop {xs rest : List α} (all : ∀ x ∈ xs, p x = true)
    (stop : ∀ x ∈ rest.head?, p x = false) : (xs ++ rest).takeWhile p = xs := by
  rw [List.takeWhile_append_of_pos all]
  cases rest with
  | nil => simp
  | cons x rest => rw [List.takeWhile_cons_of_neg (by simp [stop x rfl]), List.append_nil]

theorem dropWhile_append_of_stop {xs rest : List α} (all : ∀ x ∈ xs, p x = true)
    (stop : ∀ x ∈ rest.head?, p x = false) : (xs ++ rest).dropWhile p = rest := by
  rw [List.dropWhile_append_of_pos all]
  cases rest with
  | nil => rfl
  | cons x rest => rw [List.dropWhile_cons_of_neg (by simp [stop x rfl])]

/-- What stands between the two is a run of one kind, and neither side prolongs it. -/
structure IsRun (p : α → Bool) (before run after : List α) : Prop where
  nonempty : run ≠ []
  all : ∀ x ∈ run, p x = true
  left : ∀ x ∈ before.getLast?, p x = false
  right : ∀ x ∈ after.head?, p x = false

variable {before run after : List α}

theorem IsRun.takeWhile_eq (isRun : IsRun p before run after) :
    (run ++ after).takeWhile p = run := takeWhile_append_of_stop isRun.all isRun.right

/-- A run that does not begin before another one is that one, or begins behind it. -/
theorem IsRun.append_eq_cases (isRun : IsRun p before run after) {skipped other rest : List α}
    (isOther : IsRun p (before ++ skipped) other rest)
    (same : run ++ after = skipped ++ (other ++ rest)) :
    skipped = [] ∧ run = other ∧ after = rest ∨
      ∃ between, skipped = run ++ between ∧ after = between ++ (other ++ rest) := by
  rcases List.append_eq_append_iff.mp same with ⟨between, longer, behind⟩ | ⟨inside, part, -⟩
  · exact .inr ⟨between, longer, behind⟩
  · left
    have none : skipped = [] := by
      cases last : skipped.getLast? with
      | none => exact List.getLast?_eq_none_iff.mp last
      | some x =>
        -- The last character that is skipped would belong to the run.
        have inRun : p x = true :=
          isRun.all x (part ▸ List.mem_append_left _ (List.mem_of_getLast? last))
        have outside : p x = false := isOther.left x (by simp [last])
        rw [inRun] at outside
        cases outside
    rw [none, List.nil_append] at same
    have whole : run = other := by rw [← isRun.takeWhile_eq, same, isOther.takeWhile_eq]
    rw [whole] at same
    exact ⟨none, whole, List.append_cancel_left same⟩

end Kinds

end SnippetDetect.Text
