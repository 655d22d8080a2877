import SourceCatalog.Proofs.Toml.Grammar
import SourceCatalog.Toml.Line

/-!
# Gaps, line breaks and blank lines of TOML

The readers that skip blanks go as far as the grammar lets them: what they leave begins with none
of the blanks that they know. Only one rest of a text is like that.
-/

namespace SourceCatalog.Toml

variable {text rest : Text}

theorem isPlain_iff {tested : Char} : isPlain tested = true ↔ Visible tested := by
  simp [isPlain, Visible]

theorem isGap_iff {tested : Char} : isGap tested = true ↔ tested = ' ' ∨ tested = '\t' := by
  simp [isGap]

theorem newline?_eq_some_iff : newline? text = some rest ↔ Break text rest := by
  constructor
  · intro found
    rw [newline?.eq_def] at found
    split at found
    · cases found
      exact .lineFeed
    · cases found
      exact .both
    · cases found
  · intro breaks
    cases breaks <;> rfl

theorem newline?_eq_none_iff : newline? text = none ↔ Open text := by
  rw [Option.eq_none_iff_forall_ne_some]
  exact forall_congr' fun rest => not_congr newline?_eq_some_iff

theorem Break.unique {other : Text} (first : Break text rest) (second : Break text other) :
    rest = other := by
  cases first <;> cases second <;> rfl

theorem Break.suffix (breaks : Break text rest) : rest <:+ text := by
  cases breaks with
  | lineFeed => exact List.suffix_cons _ _
  | both => exact (List.suffix_cons _ _).trans (List.suffix_cons _ _)

theorem Break.length_lt (breaks : Break text rest) : rest.length < text.length := by
  cases breaks <;> simp only [List.length_cons] <;> omega

theorem gaps_skipGap (text : Text) : Gaps text (skipGap text) := by
  induction text with
  | nil => exact .none []
  | cons head tail inductionHypothesis =>
    rw [skipGap] at inductionHypothesis ⊢
    by_cases gap : isGap head = true
    · rw [List.dropWhile_cons_of_pos gap]
      exact .more (isGap_iff.1 gap) inductionHypothesis
    · rw [List.dropWhile_cons_of_neg gap]
      exact .none (head :: tail)

theorem noGap_skipGap (text : Text) : ∀ head ∈ (skipGap text).head?, head ≠ ' ' ∧ head ≠ '\t' := by
  intro head isHead
  have noGap := List.head?_dropWhile_not isGap text
  rw [← skipGap, isHead] at noGap
  exact not_or.1 (mt isGap_iff.2 (Bool.eq_false_iff.1 noGap))

theorem Gaps.skipGap_eq (gaps : Gaps text rest) : skipGap text = skipGap rest := by
  induction gaps with
  | none => rfl
  | more gap _ inductionHypothesis =>
    rw [← inductionHypothesis, skipGap, skipGap, List.dropWhile_cons_of_pos (isGap_iff.2 gap)]

theorem Break.skipGap_eq (breaks : Break text rest) : skipGap text = text := by
  cases breaks <;> rfl

/-- A line break behind gaps is found behind all of them. -/
theorem break_skipGap_iff :
    Break (skipGap text) rest ↔ ∃ before, Gaps text before ∧ Break before rest := by
  constructor
  · intro breaks
    exact ⟨skipGap text, gaps_skipGap text, breaks⟩
  · rintro ⟨before, gaps, breaks⟩
    rw [gaps.skipGap_eq, breaks.skipGap_eq]
    exact breaks

theorem Gaps.suffix (gaps : Gaps text rest) : rest <:+ text := by
  induction gaps with
  | none => exact List.suffix_refl _
  | more _ _ inductionHypothesis => exact inductionHypothesis.trans (List.suffix_cons _ _)

theorem Gaps.blanks {before : Text} (gaps : Gaps text before) (blanks : Blanks before rest) :
    Blanks text rest := by
  induction gaps with
  | none => exact blanks
  | more gap _ inductionHypothesis => exact .gap gap (inductionHypothesis blanks)

theorem Blanks.suffix (blanks : Blanks text rest) : rest <:+ text := by
  induction blanks with
  | none => exact List.suffix_refl _
  | gap _ _ inductionHypothesis => exact inductionHypothesis.trans (List.suffix_cons _ _)
  | line breaks _ inductionHypothesis => exact inductionHypothesis.trans breaks.suffix

theorem Blanks.trans {middle : Text} (first : Blanks text middle) (second : Blanks middle rest) :
    Blanks text rest := by
  induction first with
  | none => exact second
  | gap gap _ inductionHypothesis => exact .gap gap (inductionHypothesis second)
  | line breaks _ inductionHypothesis => exact .line breaks (inductionHypothesis second)

/-- Blanks leave one rest only that begins with none of them. -/
theorem Blanks.unique {other : Text} (first : Blanks text rest) (second : Blanks text other)
    (solid : Solid rest) (otherSolid : Solid other) : rest = other := by
  induction first with
  | none text =>
    cases second with
    | none => rfl
    | gap gap _ => exact absurd gap (not_or.2 (solid.1 _ rfl))
    | line breaks _ => exact absurd breaks (solid.2 _)
  | gap gap _ inductionHypothesis =>
    cases second with
    | none => exact absurd gap (not_or.2 (otherSolid.1 _ rfl))
    | gap _ behind => exact inductionHypothesis behind solid
    | line breaks _ => cases breaks <;> rcases gap with gap | gap <;> cases gap
  | line breaks _ inductionHypothesis =>
    cases second with
    | none => exact absurd breaks (otherSolid.2 _)
    | gap gap _ => cases breaks <;> rcases gap with gap | gap <;> cases gap
    | line again behind =>
      rw [← breaks.unique again] at behind
      exact inductionHypothesis behind solid

def blankLine? (text : Text) : Option Text :=
  newline? (skipGap text)

theorem blankLine?_eq_some_iff :
    blankLine? text = some rest ↔ ∃ before, Gaps text before ∧ Break before rest :=
  newline?_eq_some_iff.trans break_skipGap_iff

theorem blanks_repeated (times : Nat) (text : Text) :
    Blanks text (repeated blankLine? times text) := by
  induction times generalizing text with
  | zero => exact .none text
  | succ times inductionHypothesis =>
    rw [repeated]
    split
    · next rest found =>
      obtain ⟨before, gaps, breaks⟩ := blankLine?_eq_some_iff.1 found
      exact gaps.blanks (.line breaks (inductionHypothesis rest))
    · exact .none text

/-- Every blank line takes a character, so no more of them follow than there were characters. -/
theorem blankLine?_repeated {times : Nat} (enough : text.length ≤ times) :
    blankLine? (repeated blankLine? times text) = none := by
  induction times generalizing text with
  | zero =>
    rw [List.eq_nil_of_length_eq_zero (Nat.le_zero.1 enough)]
    rfl
  | succ times inductionHypothesis =>
    rw [repeated]
    split
    · next rest found =>
      obtain ⟨before, gaps, breaks⟩ := blankLine?_eq_some_iff.1 found
      have shorter := breaks.length_lt
      have atMost := gaps.suffix.length_le
      exact inductionHypothesis (by omega)
    · next stops => exact stops

/-- Blanks are skipped to the last one. -/
theorem skipBlankLines_eq_iff : skipBlankLines text = rest ↔ Blanks text rest ∧ Solid rest := by
  have blanks : Blanks text (skipBlankLines text) :=
    (blanks_repeated text.length text).trans ((gaps_skipGap _).blanks (.none _))
  have solid : Solid (skipBlankLines text) :=
    ⟨noGap_skipGap _, newline?_eq_none_iff.1 (blankLine?_repeated (Nat.le_refl _))⟩
  constructor
  · rintro rfl
    exact ⟨blanks, solid⟩
  · rintro ⟨again, solidAgain⟩
    exact blanks.unique again solid solidAgain

end SourceCatalog.Toml
