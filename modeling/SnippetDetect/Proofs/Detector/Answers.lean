import SnippetDetect.Proofs.Detection
import SnippetDetect.Proofs.Detector

/-!
What bundled detectors answer from scores.

A bundled detector finds a language and a score for it, if any (`rawScore?`), and only then looks
at its gate (`detect_of_isBundled`). What clears the gate becomes a detection as long as the language has
a name and the score is a confidence (`answer?_of_confidence`).
-/

namespace SnippetDetect.Detector

open SnippetDetect.Text

variable {d : Detector} {language : String} {score : Binary64}

/-- The language and the score that a bundled detector finds for a snippet before it looks at its
gate. -/
def rawScore? (d : Detector) (code : Snippet) : Option (String × Binary64) :=
  if code.isBlank then none
  else match d.strategy with
    | .fingerprints f => (f.ranking code).head?
    | .lexers ls => ls.guess? code
    | .classifier c => (c.classify code).1
    | .custom _ => none

/-- A bundled detector answers with its score, if that clears the gate. -/
theorem detect_of_isBundled (bundled : d.IsBundled) (code : Snippet) :
    (d.detect code).1 =
      .ok ((d.rawScore? code).bind fun (language, score) => d.answer? language score) := by
  unfold detect rawScore?
  cases strategy : d.strategy with
  | custom c => exact absurd strategy (bundled c)
  | fingerprints f => rfl
  | lexers ls => rfl
  | classifier c =>
    dsimp only
    split
    · rfl
    · rfl

/-- A named language whose score clears the gate and is a confidence is an answer. -/
theorem answer?_of_confidence {c : Nat} (named : language ≠ "")
    (clears : d.clears (.float score) = true) (made : confidenceOf (.float score) = .ok c) :
    ∃ inRange, d.answer? language score = some ⟨language, .int c, d.name, named, inRange⟩ := by
  have inRange := Detection.within_of_le (confidenceOf_le made)
  refine ⟨inRange, ?_⟩
  rw [answer?, if_pos clears, made]
  show (Detection.make language (.int c) d.name).toOption = _
  rw [Detection.make_of_within named inRange]
  rfl

/-- A bundled detector that cannot have an allow-list accepts every language. -/
theorem accepts_of_isBundled (bundled : d.IsBundled) (free : d.isSelectable = false)
    (language : String) : d.accepts language = true := by
  unfold isSelectable allowed? at free
  unfold accepts
  cases strategy : d.strategy with
  | custom c => exact absurd strategy (bundled c)
  | fingerprints f =>
    rw [strategy] at free
    cases free
  | _ => rfl

end SnippetDetect.Detector
