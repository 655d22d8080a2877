import SourceCatalog.Proofs.Source.Decomposition
import SourceCatalog.Proofs.Source.Spaced
import SourceCatalog.Source.Normal

/-!
# Normalizing a normal form

A normal form has no run of blanks, but taking a run out may bring the two halves of a comment
mark together, or the end of a comment to the end of a line. Main statement: a normal form is
normalized to itself exactly if no comment begins in it.
-/

namespace SourceCatalog.Source

theorem Remark.length_kept_lt (remark : Remark) : remark.kept.length < remark.text.length := by
  cases remark with
  | line content => simp [kept, text]
  | block spaced content comma margin =>
    simp only [kept, text, opening, closed, List.length_append, List.length_cons]
    omega

/-- Each remark that is cut out makes the text shorter. -/
theorem Parts.length_kept_le (parts : Parts) :
    parts.kept.length + parts.passages.length ≤ parts.text.length := by
  obtain ⟨passages, last⟩ := parts
  induction passages with
  | nil => simp [kept, text]
  | cons passage later inductionHypothesis =>
    have shorter := passage.2.length_kept_lt
    simp only [kept, text, List.flatMap_cons, List.length_append, List.length_cons]
      at inductionHypothesis ⊢
    omega

theorem length_withoutComments_le (text : Text) : (withoutComments text).length ≤ text.length := by
  obtain ⟨parts, rfl, _, sameKept⟩ := Parts.exists_earliestFrom text []
  have shorter := parts.length_kept_le
  rw [sameKept]
  omega

/-- Nothing is cut out exactly if no comment begins. -/
theorem withoutComments_eq_self_iff {text : Text} :
    withoutComments text = text ↔ NoneBegins [] text [] := by
  obtain ⟨parts, rfl, earliest, sameKept⟩ := Parts.exists_earliestFrom text []
  obtain ⟨passages, last⟩ := parts
  rw [sameKept]
  constructor
  · intro same
    have shorter : (Parts.kept ⟨passages, last⟩).length + passages.length ≤
        (Parts.text ⟨passages, last⟩).length := Parts.length_kept_le ⟨passages, last⟩
    have noPassage : passages = [] := by
      rw [same] at shorter
      apply List.length_eq_zero_iff.1
      omega
    subst noPassage
    exact earliest
  · intro none
    have whole : Parts.EarliestFrom [] (Parts.text ⟨passages, last⟩) [] := none
    obtain ⟨rfl, _⟩ := Parts.earliestFrom_unique earliest whole rfl
    rfl

theorem normalize_eq_self_iff {text : Text} (spaced : Spaced text) :
    normalize text = text ↔ NoneBegins [] text [] := by
  rw [← withoutComments_eq_self_iff, normalize]
  constructor
  · intro same
    have left := withoutBlankRuns_sublist (withoutComments text)
    have notShorter :
        (withoutComments text).length ≤ (withoutBlankRuns (withoutComments text)).length := by
      rw [same]
      exact length_withoutComments_le text
    rw [← left.eq_of_length_le notShorter, same]
  · intro same
    rw [same, withoutBlankRuns_of_spaced spaced]

/-- A second normalization changes nothing exactly if no comment begins in the normal form. -/
theorem normalize_normalize_iff (text : Text) :
    normalize (normalize text) = normalize text ↔ NoneBegins [] (normalize text) [] :=
  normalize_eq_self_iff (spaced_withoutBlankRuns (withoutComments text))

/-- Two slashes with a run of blanks between them are normalized to the opening of a comment. -/
theorem normalize_not_idempotent :
    normalize "/  /".toList = "//".toList ∧ normalize "//".toList = [] ∧
      normalize (normalize "/  /".toList) ≠ normalize "/  /".toList := by
  decide +kernel

end SourceCatalog.Source
