import SnippetDetect.Snippet
import Mathlib.Data.Char
import Mathlib.Data.List.TakeWhile

/-!
Code points, and the snippets that are texts.

A code point is known by its number (`Point.toNat_injective`). A row of characters is a text in one
way only (`points_injective`, `points_ofList`), so encoding a snippet fails exactly when it is no text
(`encode_eq_ok_iff`), and what the encoding gives is that text. Where it fails, it says where the
first halves stand (`exists_halves_of_encode`).
-/

namespace SnippetDetect

open SnippetDetect.Text

namespace Text

/-! ### Code points -/

namespace Point

theorem toNat_injective : Function.Injective toNat := by
  intro p q same
  cases p with
  | char c =>
    cases q with
    | char d => exact congrArg char (Char.toNat_inj.mp same)
    | half index =>
      -- The numbers of the halves are left out by those of the characters.
      have bound := index.isLt
      rcases c.valid with low | ⟨high, -⟩ <;> simp only [toNat, Char.toNat] at same <;> omega
  | half index =>
    have bound := index.isLt
    cases q with
    | char d =>
      rcases d.valid with low | ⟨high, -⟩ <;> simp only [toNat, Char.toNat] at same <;> omega
    | half other =>
      have number : (index : Nat) = other := by simpa [toNat] using same
      exact congrArg half (Fin.ext number)

@[simp] theorem toNat_char (c : Char) : (char c).toNat = c.toNat := rfl

@[simp] theorem char?_char (c : Char) : (char c).char? = some c := rfl

@[simp] theorem isChar_char (c : Char) : (char c).isChar = true := rfl

theorem isChar_of_isBlank {p : Point} (blank : p.isBlank = true) : p.isChar = true := by
  cases p with
  | char c => rfl
  | half index => cases blank

end Point

/-! ### Rows of characters -/

theorem filterMap_char?_points (s : String) : (points s).filterMap Point.char? = s.toList := by
  rw [points, List.filterMap_map]
  exact List.filterMap_some

theorem points_injective : Function.Injective points := by
  intro s t same
  rw [← String.toList_inj, ← filterMap_char?_points, same, filterMap_char?_points]

theorem isChar_of_mem_points {s : String} {p : Point} (mem : p ∈ points s) : p.isChar = true := by
  obtain ⟨c, -, rfl⟩ := List.mem_map.mp mem
  rfl

/-- A row of characters is the text that they spell. -/
theorem points_ofList {ps : List Point} (chars : ∀ p ∈ ps, p.isChar = true) :
    points (String.ofList (ps.filterMap Point.char?)) = ps := by
  rw [points, String.toList_ofList]
  induction ps with
  | nil => rfl
  | cons p ps ih =>
    obtain ⟨isChar, others⟩ := List.forall_mem_cons.mp chars
    cases p with
    | char c => simp [ih others]
    | half index => cases isChar

end Text

namespace Snippet

variable {s : Snippet} {key : String}

/-! ### Texts -/

theorem ofString_injective : Function.Injective ofString :=
  fun _ _ same => points_injective (congrArg Snippet.points same)

theorem isBlank_ofString (key : String) : isBlank key = isBlankText key := by
  rw [isBlank, isBlankText, ofString, Text.points, List.all_map]
  rfl

/-- A snippet is encoded by the text that it is. -/
theorem encode_eq_ok_iff : s.encode = .ok key ↔ s = key := by
  unfold encode
  constructor
  · intro encodes
    split at encodes
    · next chars =>
      rw [List.dropWhile_eq_nil_iff] at chars
      cases encodes
      exact congrArg mk (points_ofList chars).symm
    · cases encodes
  · rintro rfl
    have chars : (ofString key).points.dropWhile Point.isChar = [] :=
      List.dropWhile_eq_nil_iff.mpr fun p mem => isChar_of_mem_points mem
    rw [chars]
    simp only [ofString, filterMap_char?_points, String.ofList_toList]

theorem encode_ofString (key : String) : encode key = .ok key := encode_eq_ok_iff.mpr rfl

/-- Blank snippets are texts. -/
theorem exists_text_of_isBlank (blank : s.isBlank = true) : ∃ key : String, s = key := by
  refine ⟨String.ofList (s.points.filterMap Point.char?), ?_⟩
  rw [isBlank, List.all_eq_true] at blank
  exact congrArg mk (points_ofList fun p mem => Point.isChar_of_isBlank (blank p mem)).symm

/-- The fault of a snippet is the first row of halves in it, as long as it goes. -/
theorem exists_halves_of_encode {error : EncodeError} (refused : s.encode = .error error) :
    ∃ before halves after, s.points = before ++ (halves ++ after) ∧
      (∀ p ∈ before, p.isChar = true) ∧ (∀ p ∈ halves, p.isChar = false) ∧
      (∀ p ∈ after.head?, p.isChar = true) ∧ error.start = before.length ∧
      error.length = halves.length ∧ halves.head?.map Point.toNat = some error.code := by
  unfold encode at refused
  split at refused
  · cases refused
  · next half behind rest =>
    cases refused
    have first : half.isChar = false := by
      simpa [rest] using List.head?_dropWhile_not Point.isChar s.points
    refine ⟨s.points.takeWhile Point.isChar, half :: behind.takeWhile (!·.isChar),
      behind.dropWhile (!·.isChar), ?_, ?_, ?_, ?_, rfl, rfl, rfl⟩
    · rw [List.cons_append, List.takeWhile_append_dropWhile, ← rest,
        List.takeWhile_append_dropWhile]
    · exact fun p mem => List.mem_takeWhile_imp mem
    · intro p mem
      rcases List.mem_cons.mp mem with rfl | later
      · exact first
      · simpa using List.mem_takeWhile_imp later
    · intro p next
      have := List.head?_dropWhile_not (fun p : Point => !p.isChar) behind
      rw [next] at this
      simpa using this

end Snippet

end SnippetDetect
