import Mathlib.Data.List.TakeWhile
import SnippetDetect.Text.Casing
import SnippetDetect.Text.Blank

/-!
Lower case is final: a text that was lowered once stays as it is, and so does one that was
lowered and stripped.

A character is settled when lowering leaves it alone wherever it stands. Lowering yields
settled characters only (`settled_of_mem_lowerFrom`); for the letters beyond ASCII that is a
property of the table, checked run against run (`lowerRuns_separated`).
-/

namespace SnippetDetect.Text

/-! ### Runs of letters

The table is checked by evaluation, so these tests are Boolean and compare by `Nat.ble`. -/

/-- Whether a code point is one of the letters of a run. -/
def CaseRun.holds (run : CaseRun) (n : Nat) : Bool :=
  Nat.ble run.first n && Nat.ble n run.last && Nat.beq ((n - run.first) % run.step) 0

/-- The number of letters in a run. -/
def CaseRun.count (run : CaseRun) : Nat := (run.last - run.first) / run.step + 1

/-- The other case of the letter at an index of a run. -/
def CaseRun.target (run : CaseRun) (index : Nat) : Nat :=
  ((run.first + index * run.step : Nat) + run.shift).toNat

/-- Whether all the other cases of a run are characters: a `k` or code points beyond ASCII. -/
def CaseRun.lands (run : CaseRun) : Bool :=
  let low := run.target 0
  let high := run.target (run.count - 1)
  Nat.beq low 0x6B && Nat.beq high 0x6B || Nat.ble 0x80 low && Nat.blt high 0xD800 ||
    Nat.ble 0xE000 low && Nat.blt high 0x110000

/-- Whether no other case of a letter of `run`, from `low` up to `high`, is a letter of `other`:
the spans are apart, or each letter is looked at. -/
def CaseRun.apart (run : CaseRun) (low high : Nat) (other : CaseRun) : Bool :=
  Nat.blt high other.first || Nat.blt other.last low ||
    (List.range run.count).all fun index => !other.holds (run.target index)

/-- The dotted capital I has a lower case of two characters and is no matter of the table. -/
theorem lowerRuns_separated :
    lowerRuns.toList.all (fun run => Nat.beq run.first 0x130 ||
      run.lands && lowerRuns.toList.all (run.apart (run.target 0) (run.target (run.count - 1)))) =
        true := by
  decide +kernel

theorem CaseRun.holds_iff {run : CaseRun} {n : Nat} :
    run.holds n = true ↔ run.first ≤ n ∧ n ≤ run.last ∧ (n - run.first) % run.step = 0 := by
  simp [CaseRun.holds, Nat.ble_eq, Nat.beq_eq, and_assoc]

/-- A letter of a run is found at its index. -/
theorem CaseRun.exists_index {run : CaseRun} {n : Nat} (held : run.holds n) :
    ∃ index < run.count, n = run.first + index * run.step := by
  obtain ⟨low, high, step⟩ := CaseRun.holds_iff.mp held
  refine ⟨(n - run.first) / run.step, Nat.lt_succ_of_le (Nat.div_le_div_right (by omega)), ?_⟩
  rw [Nat.div_mul_cancel (Nat.dvd_of_mod_eq_zero step)]
  omega

theorem CaseRun.target_mono {run : CaseRun} {i j : Nat} (le : i ≤ j) :
    run.target i ≤ run.target j := by
  have := Nat.mul_le_mul_right run.step le
  simp only [CaseRun.target]
  omega

/-- Lowering a code point leaves it alone or takes it along a run that holds it. -/
theorem shifted_cases (runs : Array CaseRun) (n : Nat) :
    shifted runs n = n ∨
      ∃ run ∈ runs.toList, run.holds n ∧ shifted runs n = (n + run.shift).toNat := by
  unfold shifted
  split
  · next run found =>
    split
    · next holds =>
      refine .inr ⟨run, Array.mem_toList_iff.mpr (Array.mem_of_getElem? found), ?_, rfl⟩
      simpa [CaseRun.holds_iff, and_assoc] using holds
    · exact .inl rfl
  · exact .inl rfl

/-- A code point that no run holds keeps its case. -/
theorem shifted_eq_self {runs : Array CaseRun} {n : Nat}
    (free : ∀ run ∈ runs.toList, run.holds n = false) : shifted runs n = n := by
  rcases shifted_cases runs n with same | ⟨run, mem, held, _⟩
  · exact same
  · simp [free run mem] at held

/-! ### Settled characters -/

/-- A character that lowering leaves alone wherever it stands. -/
def Settled (c : Char) : Prop := c ≠ 'Σ' ∧ c ≠ 'İ' ∧ lowerChar c = c

theorem lowerChar_of_toNat_lt (c : Char) (ascii : c.toNat < 0x80) : lowerChar c = c.toLower := by
  simp [lowerChar, ascii]

theorem lowerChar_of_le_toNat (c : Char) (beyond : 0x80 ≤ c.toNat) :
    lowerChar c = Char.ofNat (shifted lowerRuns c.toNat) := by
  simp [lowerChar, Nat.not_lt.mpr beyond]

theorem settled_toLower (c : Char) (ascii : c.toNat < 0x80) : Settled c.toLower := by
  have all : ∀ n : Fin 0x80, Settled (Char.ofNat n.val).toLower := by
    unfold Settled
    decide
  simpa [Char.ofNat_toNat] using all ⟨c.toNat, ascii⟩

/-- A code point beyond ASCII that no run holds is settled. -/
theorem settled_ofNat {n : Nat} (valid : n.isValidChar) (beyond : 0x80 ≤ n)
    (free : ∀ run ∈ lowerRuns.toList, run.holds n = false) : Settled (Char.ofNat n) := by
  have code : (Char.ofNat n).toNat = n := by
    rw [Char.ofNat, dif_pos valid]
    rfl
  -- The table has a run for each of the two letters that it does not lower by itself.
  have special : ∀ m ∈ [0x3A3, 0x130], lowerRuns.toList.any (·.holds m) = true := by
    decide
  have other : ∀ m ∈ [0x3A3, 0x130], Char.ofNat n ≠ Char.ofNat m := by
    intro m mem same
    obtain ⟨run, runMem, held⟩ := List.any_eq_true.mp (special m mem)
    have codes : ∀ m ∈ [0x3A3, 0x130], (Char.ofNat m).toNat = m := by
      decide
    have here : n = m := by
      rw [← code, same, codes m mem]
    simp [← here, free run runMem] at held
  refine ⟨other 0x3A3 (by simp), other 0x130 (by simp), ?_⟩
  rw [lowerChar_of_le_toNat _ (code.symm ▸ beyond), code, shifted_eq_self free]

theorem settled_of_not_any {n : Nat} (valid : n.isValidChar) (beyond : 0x80 ≤ n)
    (free : lowerRuns.toList.any (·.holds n) = false) : Settled (Char.ofNat n) :=
  settled_ofNat valid beyond fun run mem => by simpa using List.any_eq_false.mp free run mem

/-- The other case of a letter of the table is settled. -/
theorem settled_target {run : CaseRun} (mem : run ∈ lowerRuns.toList) (plain : run.first ≠ 0x130)
    {n : Nat} (held : run.holds n) : Settled (Char.ofNat (n + run.shift).toNat) := by
  have checked := List.all_eq_true.mp lowerRuns_separated run mem
  simp only [Bool.or_eq_true, Nat.beq_eq, plain, false_or, Bool.and_eq_true] at checked
  obtain ⟨lands, apart⟩ := checked
  obtain ⟨index, bound, rfl⟩ := CaseRun.exists_index held
  have low : run.target 0 ≤ run.target index := CaseRun.target_mono (Nat.zero_le _)
  have high : run.target index ≤ run.target (run.count - 1) := CaseRun.target_mono (by omega)
  change Settled (Char.ofNat (run.target index))
  simp only [CaseRun.lands, Bool.or_eq_true, Bool.and_eq_true, Nat.beq_eq, Nat.ble_eq,
    Nat.blt_eq] at lands
  rcases lands with (⟨start, stop⟩ | ⟨start, stop⟩) | ⟨start, stop⟩
  · have kelvin : run.target index = 0x6B := by omega
    rw [kelvin]
    exact settled_toLower 'k' (by decide)
  all_goals
    refine settled_ofNat (by unfold Nat.isValidChar; omega) (by omega) fun other memOther => ?_
    have separate := List.all_eq_true.mp apart other memOther
    simp only [CaseRun.apart, Bool.or_eq_true, Nat.blt_eq] at separate
    rcases separate with (before | behind) | letters
    · exact Bool.eq_false_iff.mpr fun h => by have := CaseRun.holds_iff.mp h; omega
    · exact Bool.eq_false_iff.mpr fun h => by have := CaseRun.holds_iff.mp h; omega
    · simpa using List.all_eq_true.mp letters index (List.mem_range.mpr bound)

/-- Lowering one character gives a settled one, but for the two that need their surroundings. -/
theorem settled_lowerChar {c : Char} (sigma : c ≠ 'Σ') (dotted : c ≠ 'İ') :
    Settled (lowerChar c) := by
  rcases Nat.lt_or_ge c.toNat 0x80 with ascii | beyond
  · rw [lowerChar_of_toNat_lt c ascii]
    exact settled_toLower c ascii
  · rw [lowerChar_of_le_toNat c beyond]
    rcases shifted_cases lowerRuns c.toNat with same | ⟨run, mem, holds, moved⟩
    · rw [same, Char.ofNat_toNat]
      exact ⟨sigma, dotted, by rw [lowerChar_of_le_toNat c beyond, same, Char.ofNat_toNat]⟩
    · rw [moved]
      refine settled_target mem (fun first => dotted ?_) holds
      -- The run of the dotted capital I holds nothing else.
      have only : lowerRuns.toList.all (fun run =>
          !Nat.beq run.first 0x130 || Nat.beq run.last 0x130) = true := by decide
      have code : c.toNat = 0x130 := by
        have last : run.last = 0x130 := by simpa [first] using List.all_eq_true.mp only run mem
        have := CaseRun.holds_iff.mp holds
        omega
      rw [← Char.ofNat_toNat c, code]

/-! ### Lowering a text -/

theorem settled_of_mem_lowerBetween {before after : List Char} {c d : Char}
    (mem : d ∈ lowerBetween before c after) : Settled d := by
  unfold lowerBetween at mem
  split at mem
  · rw [List.mem_singleton] at mem
    rw [mem]
    split
    · exact settled_of_not_any (n := 0x3C2) (by decide) (by decide) (by decide)
    · exact settled_of_not_any (n := 0x3C3) (by decide) (by decide) (by decide)
  · next sigma =>
    split at mem
    · rcases List.mem_cons.mp mem with rfl | mem
      · exact settled_toLower 'i' (by decide)
      · rw [List.mem_singleton.mp mem]
        exact settled_of_not_any (by decide) (by decide) (by decide)
    · next dotted =>
      rw [List.mem_singleton.mp mem]
      exact settled_lowerChar sigma dotted

theorem settled_of_mem_lowerFrom {before cs : List Char} {d : Char}
    (mem : d ∈ lowerFrom before cs) : Settled d := by
  induction cs generalizing before with
  | nil => simp [lowerFrom] at mem
  | cons c cs ih =>
    rw [lowerFrom, List.mem_append] at mem
    rcases mem with here | later
    · exact settled_of_mem_lowerBetween here
    · exact ih later

theorem lowerFrom_eq_self {before cs : List Char} (settled : ∀ c ∈ cs, Settled c) :
    lowerFrom before cs = cs := by
  induction cs generalizing before with
  | nil => rfl
  | cons c cs ih =>
    obtain ⟨sigma, dotted, same⟩ := settled c List.mem_cons_self
    have rest : lowerFrom (c :: before) cs = cs :=
      ih fun d mem => settled d (List.mem_cons_of_mem _ mem)
    simp [lowerFrom, lowerBetween, sigma, dotted, same, rest]

/-! ### Lowering and stripping -/

section Trim

variable {α : Type} {p : α → Bool}

theorem trim_sublist (as : List α) : (trim p as).Sublist as := by
  have inner := (List.dropWhile_sublist p (l := (as.dropWhile p).reverse)).reverse
  rw [List.reverse_reverse] at inner
  exact inner.trans (List.dropWhile_sublist _)

theorem dropWhile_eq_self {as : List α} (stops : ∀ a ∈ as.head?, p a = false) :
    as.dropWhile p = as := by
  cases as with
  | nil => rfl
  | cons a rest => simp [stops a rfl]

theorem head?_dropWhile (as : List α) : ∀ a ∈ (as.dropWhile p).head?, p a = false := by
  intro a first
  have := List.head?_dropWhile_not p as
  rwa [first] at this

@[simp] theorem trim_trim (as : List α) : trim p (trim p as) = trim p as := by
  obtain ⟨tail, split⟩ : trim p as <+: as.dropWhile p := by
    have := List.reverse_prefix.mpr (List.dropWhile_suffix p (l := (as.dropWhile p).reverse))
    rwa [List.reverse_reverse] at this
  -- What is left begins as the row does behind its front, so the front stays.
  have front : (trim p as).dropWhile p = trim p as := by
    refine dropWhile_eq_self fun a first => head?_dropWhile as a ?_
    rw [← split, List.head?_append, first]
    rfl
  have back : (trim p as).reverse.dropWhile p = (trim p as).reverse := by
    unfold trim
    rw [List.reverse_reverse]
    exact dropWhile_eq_self (head?_dropWhile _)
  rw [trim, front, back, List.reverse_reverse]

/-- Nothing is left when the front goes all the way. -/
theorem trim_eq_nil_iff {as : List α} : trim p as = [] ↔ as.all p = true := by
  rw [List.all_eq_true, ← List.dropWhile_eq_nil_iff]
  constructor
  · intro nothing
    rw [trim, List.reverse_eq_nil_iff, List.dropWhile_eq_nil_iff] at nothing
    cases front : as.dropWhile p with
    | nil => rfl
    | cons a rest =>
      have first := head?_dropWhile as a (by rw [front]; rfl)
      rw [nothing a (by simp [front])] at first
      cases first
  · intro front
    rw [trim, front]
    rfl

end Trim

/-- No character is lost in lower case. -/
theorem lowerBetween_ne_nil (before : List Char) (c : Char) (after : List Char) :
    lowerBetween before c after ≠ [] := by
  unfold lowerBetween
  split
  · simp
  · split <;> simp

theorem lower_ne_empty {name : String} (named : name ≠ "") : lower name ≠ "" := by
  intro empty
  rw [lower, String.ofList_eq_empty_iff] at empty
  cases text : name.toList with
  | nil => exact named (String.toList_eq_nil_iff.mp text)
  | cons c rest =>
    rw [text, lowerFrom, List.append_eq_nil_iff] at empty
    exact lowerBetween_ne_nil [] c rest empty.1

/-- A name in lower case and without blank ends. -/
def normalName (name : String) : String := strip (lower name)

theorem normalName_idempotent (name : String) : normalName (normalName name) = normalName name := by
  have settled : ∀ c ∈ trim isBlank (lowerFrom [] name.toList), Settled c := fun c mem =>
    settled_of_mem_lowerFrom ((trim_sublist _).subset mem)
  simp [normalName, strip, stripBlanks, lower, lowerFrom_eq_self settled]

end SnippetDetect.Text
