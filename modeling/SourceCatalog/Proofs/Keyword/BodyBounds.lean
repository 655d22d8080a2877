import SourceCatalog.Keyword.Body
import SourceCatalog.Proofs.Text.Cutting

/-!
# Where the body of an enumeration lies

A text without the opening mark has no body. In any other text the body begins behind the first
mark, and the next brace ends it. Main statement: the body is found exactly there, and nothing
behind that brace has to do with the records.
-/

namespace SourceCatalog.Keyword

/-- The body of the first enumeration in a source, with what stands before its mark and from its
brace on. -/
structure Bounds (source before body after : Text) : Prop where
  parts : source = before ++ marker ++ (body ++ after)
  first : ∀ front back, source = front ++ marker ++ back → before.length ≤ front.length
  noBrace : '}' ∉ body
  ends : after = [] ∨ ∃ rest, after = '}' :: rest

theorem marker_unbordered : Text.Unbordered marker := by
  decide

variable {source before body after : Text}

theorem of_enumBody (found : enumBody source = .ok body) :
    ∃ before after, Bounds source before body after := by
  rw [enumBody] at found
  split at found
  · next before behind cut =>
    cases found
    refine ⟨before, behind.dropWhile (· != '}'), ?_, ?_, ?_, ?_⟩
    · rw [List.takeWhile_append_dropWhile]
      exact Text.append_of_splitFirst? cut
    · intro front back parts
      exact Text.length_le_of_splitFirst? cut parts
    · intro member
      have different := List.mem_takeWhile_imp member
      simp at different
    · cases rest : behind.dropWhile (· != '}') with
      | nil => exact Or.inl rfl
      | cons head tail =>
        have brace := List.head_dropWhile_not (· != '}') (l := behind) (by simp [rest])
        simp only [rest, List.head_cons, bne_eq_false_iff_eq] at brace
        exact Or.inr ⟨tail, by rw [brace]⟩
  · cases found

theorem enumBody_append_of_ends (fresh : ¬ marker <:+: before) (noBrace : '}' ∉ body)
    (ends : after = [] ∨ ∃ rest, after = '}' :: rest) :
    enumBody (before ++ marker ++ (body ++ after)) = .ok body := by
  have inside : ∀ tested ∈ body, (tested != '}') = true := by
    intro tested member
    exact bne_iff_ne.2 fun same => noBrace (same ▸ member)
  have stops : after.takeWhile (· != '}') = [] := by
    rcases ends with rfl | ⟨rest, rfl⟩
    · rfl
    · exact List.takeWhile_cons_of_neg (by decide)
  rw [enumBody, Text.splitFirst?_append marker_unbordered fresh]
  change Except.ok _ = _
  rw [List.takeWhile_append_of_pos inside, stops, List.append_nil]

/-- The mark does not occur in what stands before it. -/
theorem Bounds.fresh (bounds : Bounds source before body after) : ¬ marker <:+: before := by
  have first := bounds.first
  rw [bounds.parts] at first
  exact (Text.first_occurrence_iff marker_unbordered (by decide)).1 first

theorem bounds_append (fresh : ¬ marker <:+: before) (noBrace : '}' ∉ body)
    (ends : after = [] ∨ ∃ rest, after = '}' :: rest) :
    Bounds (before ++ marker ++ (body ++ after)) before body after where
  parts := rfl
  first := (Text.first_occurrence_iff marker_unbordered (by decide)).2 fresh
  noBrace := noBrace
  ends := ends

theorem Bounds.enumBody_eq (bounds : Bounds source before body after) :
    enumBody source = .ok body := by
  rw [bounds.parts]
  exact enumBody_append_of_ends bounds.fresh bounds.noBrace bounds.ends

/-- A body is found exactly between the first mark and the brace behind it. -/
theorem enumBody_eq_ok_iff :
    enumBody source = .ok body ↔ ∃ before after, Bounds source before body after := by
  constructor
  · exact of_enumBody
  · rintro ⟨before, after, bounds⟩
    exact bounds.enumBody_eq

/-- A body is missing only if the mark is. -/
theorem enumBody_eq_error_iff {fault : Fault} :
    enumBody source = .error fault ↔ fault = .markerNotFound marker ∧ ¬ marker <:+: source := by
  rw [← Text.splitFirst?_eq_none_iff, enumBody]
  cases cut : Text.splitFirst? marker source with
  | none => simp [eq_comm]
  | some parts => simp

theorem extract_eq_error_iff {fault : Fault} :
    extract source = .error fault ↔ fault = .markerNotFound marker ∧ ¬ marker <:+: source := by
  rw [← enumBody_eq_error_iff, extract]
  cases enumBody source with
  | error found => simp [Except.map]
  | ok body => simp [Except.map]

/-- Only the text up to the brace that ends the body has to do with the records. -/
theorem extract_append_brace {rest : Text} (bounds : Bounds source before body ('}' :: rest))
    (others : Text) :
    extract (before ++ marker ++ (body ++ '}' :: others)) = extract source := by
  have same := enumBody_append_of_ends bounds.fresh bounds.noBrace (Or.inr ⟨others, rfl⟩)
  rw [extract, extract, same, bounds.enumBody_eq]

/-- A body is missing exactly if no mark stands in the source, and then nothing is extracted.
Otherwise it lies between the first mark and the next brace, and what stands behind this brace does
not matter. -/
theorem enumBody_bounds (source : Text) :
    (∀ fault, enumBody source = .error fault ↔
        fault = .markerNotFound marker ∧ ¬ marker <:+: source) ∧
      (marker <:+: source → ∃ before body after,
        enumBody source = .ok body ∧ Bounds source before body after) ∧
      (∀ body, enumBody source = .ok body ↔ ∃ before after, Bounds source before body after) ∧
      (∀ fault, extract source = .error fault ↔
        fault = .markerNotFound marker ∧ ¬ marker <:+: source) ∧
      ∀ before body rest others, Bounds source before body ('}' :: rest) →
        extract (before ++ marker ++ (body ++ '}' :: others)) = extract source := by
  refine ⟨fun _ => enumBody_eq_error_iff, ?_, fun _ => enumBody_eq_ok_iff,
    fun _ => extract_eq_error_iff, fun _ _ _ others bounds => extract_append_brace bounds others⟩
  intro occurs
  cases found : enumBody source with
  | error fault => exact absurd occurs (enumBody_eq_error_iff.1 found).2
  | ok body =>
    obtain ⟨before, after, bounds⟩ := of_enumBody found
    exact ⟨before, body, after, rfl, bounds⟩

/-- What stands before the first mark holds a brace and the mark but for its last character. -/
def brokenMark : Text := "\x7d enum KeyWord ".toList

/-- A body in which the mark stands again. -/
def markedBody : Text := "If,enum KeyWord \x7b,".toList

def repeatedMark : Text := brokenMark ++ marker ++ (markedBody ++ '}' :: " Else\x7d".toList)

/-- The mark may stand again in the body. -/
theorem enumBody_bounds_repeatedMark :
    repeatedMark =
        "\x7d enum KeyWord enum KeyWord \x7bIf,enum KeyWord \x7b,\x7d Else\x7d".toList ∧
      enumBody repeatedMark = .ok markedBody ∧
      extract (brokenMark ++ marker ++ (markedBody ++ '}' :: [])) = extract repeatedMark ∧
      enumBody brokenMark = .error (.markerNotFound marker) ∧
      extract brokenMark = .error (.markerNotFound marker) := by
  have fresh : ¬ marker <:+: brokenMark := by decide +kernel
  have bounds : Bounds repeatedMark brokenMark markedBody ('}' :: " Else\x7d".toList) :=
    bounds_append fresh (by decide) (Or.inr ⟨_, rfl⟩)
  obtain ⟨_, _, found, _, behind⟩ := enumBody_bounds repeatedMark
  obtain ⟨absent, _, _, nothing, _⟩ := enumBody_bounds brokenMark
  exact ⟨by decide +kernel, (found markedBody).2 ⟨_, _, bounds⟩, behind _ _ _ [] bounds,
    (absent _).2 ⟨rfl, fresh⟩, (nothing _).2 ⟨rfl, fresh⟩⟩

end SourceCatalog.Keyword
