import SnippetDetect.Proofs.Number.SixPlaces

/-!
Numbers that sums keep apart.

Rounding moves a sum by less than the billionth of what the terms may be, so of two numbers that
are clearly apart the lesser one stays the lesser when the same is added to both (`Apart.add`).
The gap shrinks with each sum but does not close (`Apart.ne`).
-/

namespace SnippetDetect.Binary64

/-- The first of two numbers that are not negative stands before the other, by so many times
`2 ^ -30`. -/
def Apart (gap : Nat) : Binary64 → Binary64 → Prop
  | .finite false m, .finite false n => 2 ^ 30 * m.count + gap * unitsPerOne ≤ 2 ^ 30 * n.count
  | _, _ => False

instance (gap : Nat) : (x y : Binary64) → Decidable (Apart gap x y)
  | .finite false m, .finite false n =>
      inferInstanceAs (Decidable (2 ^ 30 * m.count + gap * unitsPerOne ≤ 2 ^ 30 * n.count))
  | .finite false _, .finite true _ => .isFalse id
  | .finite true _, _ => .isFalse id
  | .finite false _, .nan => .isFalse id
  | .finite false _, .infinity _ => .isFalse id
  | .nan, _ => .isFalse id
  | .infinity _, _ => .isFalse id

section Sums

variable {x y z : Binary64} {gap : Nat}

theorem Apart.ne (apart : Apart (gap + 1) x y) : x ≠ y := by
  rintro rfl
  match x, apart with
  | .finite false m, apart =>
    have pos : 0 < (gap + 1) * unitsPerOne := Nat.mul_pos (Nat.succ_pos gap) unitsPerOne_pos
    change 2 ^ 30 * m.count + (gap + 1) * unitsPerOne ≤ 2 ^ 30 * m.count at apart
    omega

theorem add_comm (x y : Binary64) : x.add y = y.add x := by
  cases x with
  | nan => cases y <;> rfl
  | infinity s =>
    cases y with
    | infinity t => cases s <;> cases t <;> rfl
    | _ => rfl
  | finite s m =>
    cases y with
    | finite t n => simp only [add, Int.add_comm, Bool.and_comm]
    | _ => rfl

/-- To add the same to two numbers that are apart costs them one step of their gap. -/
theorem Apart.add (apart : Apart (gap + 1) x y) (boundX : UpTo 10 x) (boundY : UpTo 10 y)
    (boundZ : UpTo 10 z) : Apart gap (x.add z) (y.add z) := by
  obtain ⟨m, rfl, boundM⟩ := boundX
  obtain ⟨n, rfl, boundN⟩ := boundY
  obtain ⟨l, rfl, boundL⟩ := boundZ
  obtain ⟨lower, isLower, countLower, -⟩ :=
    ofUnitRatio_eq (m.count + l.count) 1 Nat.one_pos (by decide) (add_counts_le boundM boundL)
  obtain ⟨upper, isUpper, countUpper, -⟩ :=
    ofUnitRatio_eq (n.count + l.count) 1 Nat.one_pos (by decide) (add_counts_le boundN boundL)
  have large := two_pow_le_unitsPerOne
  have gain := roundUnits_le_div (m.count + l.count) 1
  have loss := div_le_roundUnits (n.count + l.count) 1
  rw [← countLower, Nat.div_one] at gain
  rw [← countUpper, Nat.div_one] at loss
  change 2 ^ 30 * m.count + (gap + 1) * unitsPerOne ≤ 2 ^ 30 * n.count at apart
  rw [Nat.add_mul, Nat.one_mul] at apart
  rw [add_finite, add_finite, isLower, isUpper]
  change 2 ^ 30 * lower.count + gap * unitsPerOne ≤ 2 ^ 30 * upper.count
  omega

end Sums

end SnippetDetect.Binary64
