import SourceCatalog.Keyword.Record
import SourceCatalog.Proofs.Text.Cutting

/-!
# Names between commas

Commas keep the segments of a body apart, and each segment has its own records: one if anything
but blanks stands in it, and none otherwise. Main statement: the records of a body are those of
its segments in their order, so names that are put between commas are read back, whatever blanks
and blank segments stand around them.
-/

namespace SourceCatalog.Keyword

open Text (Blank Trimmed isBlank)

/-- A segment holds one name, with blanks around it. -/
structure Carries (segment name : Text) : Prop where
  filled : name ≠ []
  trimmed : Trimmed name
  noComma : ',' ∉ name
  between : ∃ before after, Blank before ∧ Blank after ∧ segment = before ++ name ++ after

theorem comma_not_blank : isBlank ',' = false := by
  decide

namespace Carries

variable {segment name : Text}

theorem trim_eq (carries : Carries segment name) : Text.trim segment = name := by
  obtain ⟨before, after, blankBefore, blankAfter, rfl⟩ := carries.between
  exact Text.trim_append_of_trimmed blankBefore carries.trimmed blankAfter

theorem comma_notMem (carries : Carries segment name) : ',' ∉ segment := by
  obtain ⟨before, after, blankBefore, blankAfter, rfl⟩ := carries.between
  exact Text.notMem_between blankBefore carries.noComma blankAfter comma_not_blank

end Carries

/-- A segment with more than blanks holds one name. -/
theorem carries_trim {segment : Text} (noComma : ',' ∉ segment) (filled : ¬ Blank segment) :
    Carries segment (Text.trim segment) := by
  obtain ⟨before, after, blankBefore, blankAfter, parts⟩ := Text.exists_trim segment
  refine ⟨fun nothing => filled (Text.trim_eq_nil_iff.1 nothing), Text.trimmed_trim segment, ?_,
    before, after, blankBefore, blankAfter, parts⟩
  intro inName
  rw [parts] at noComma
  exact noComma (List.mem_append_left after (List.mem_append_right before inName))

theorem tokenize_of_blank {segment : Text} (blank : Blank segment) : tokenize segment = [] := by
  rw [tokenize, Text.pieces_of_notMem (blank.notMem comma_not_blank), List.map_singleton,
    blank.trim]
  rfl

theorem tokenize_of_carries {segment name : Text} (carries : Carries segment name) :
    tokenize segment = [Record.ofName name] := by
  have shown : [name].filter (!·.isEmpty) = [name] := by
    simpa using carries.filled
  rw [tokenize, Text.pieces_of_notMem carries.comma_notMem, List.map_singleton, carries.trim_eq,
    shown, List.map_singleton]

/-- A comma keeps the records in front of it and those behind it apart. -/
theorem tokenize_append_comma (before after : Text) :
    tokenize (before ++ ',' :: after) = tokenize before ++ tokenize after := by
  rw [tokenize, Text.pieces_append_separator, List.map_append, List.filter_append, List.map_append]
  rfl

theorem tokenize_join_cons (segment : Text) (segments : List Text) :
    tokenize (Text.join [','] (segment :: segments)) =
      tokenize segment ++ tokenize (Text.join [','] segments) := by
  by_cases more : segments = []
  · rw [more]
    exact (List.append_nil _).symm
  · rw [Text.join_cons_of_ne_nil _ _ more, List.append_assoc, List.singleton_append,
      tokenize_append_comma]

/-- The segments of a body that have a record. -/
def filledSegments (segments : List Text) : List Text :=
  segments.filter fun segment => !decide (Blank segment)

/-- The records are those of the segments that are not blank, in their order. -/
theorem tokenize_join {segments : List Text} (free : ∀ segment ∈ segments, ',' ∉ segment) :
    tokenize (Text.join [','] segments) =
      (filledSegments segments).map fun segment => Record.ofName (Text.trim segment) := by
  induction segments with
  | nil => rfl
  | cons first others inductionHypothesis =>
    obtain ⟨firstFree, othersFree⟩ := List.forall_mem_cons.1 free
    rw [tokenize_join_cons, inductionHypothesis othersFree, filledSegments, filledSegments]
    -- The first segment comes in front of the others, and it is kept exactly if it has a record.
    by_cases blank : Blank first
    · rw [tokenize_of_blank blank, List.filter_cons_of_neg (by simpa using blank)]
      rfl
    · rw [tokenize_of_carries (carries_trim firstFree blank),
        List.filter_cons_of_pos (by simpa using blank), List.map_cons]
      rfl

/-- The names stand in the segments in their order, each in one of its own, and the other segments
are blank. -/
inductive Spread : List Text → List Text → Prop
  | nothing : Spread [] []
  | blank {segment : Text} {names segments : List Text} :
      Blank segment → Spread names segments → Spread names (segment :: segments)
  | name {segment name : Text} {names segments : List Text} :
      Carries segment name → Spread names segments → Spread (name :: names) (segment :: segments)

theorem Spread.tokenize_eq {names segments : List Text} (spread : Spread names segments) :
    tokenize (Text.join [','] segments) = names.map Record.ofName := by
  induction spread with
  | nothing => rfl
  | blank isBlank _ inductionHypothesis =>
    rw [tokenize_join_cons, tokenize_of_blank isBlank, inductionHypothesis, List.nil_append]
  | name carries _ inductionHypothesis =>
    rw [tokenize_join_cons, tokenize_of_carries carries, inductionHypothesis]
    rfl

/-- The records of a body are those of its segments. A blank segment has none, and any other one
has the record of what is left of it when it is trimmed; so names between commas are read back. -/
theorem tokenize_segments :
    (∀ before after : Text,
        tokenize (before ++ ',' :: after) = tokenize before ++ tokenize after) ∧
      (∀ segment : Text, ',' ∉ segment →
        (Blank segment → tokenize segment = []) ∧
        (¬ Blank segment → Carries segment (Text.trim segment) ∧
          tokenize segment = [Record.ofName (Text.trim segment)])) ∧
      (∀ (body : Text) (segments : List Text), segments = Text.pieces ',' body →
        Text.join [','] segments = body ∧ (∀ segment ∈ segments, ',' ∉ segment) ∧
          tokenize body =
            (filledSegments segments).map (fun segment => Record.ofName (Text.trim segment)) ∧
          (tokenize body).length = segments.countP fun segment => !decide (Blank segment)) ∧
      ∀ names segments : List Text, Spread names segments →
        tokenize (Text.join [','] segments) = names.map Record.ofName := by
  refine ⟨tokenize_append_comma, ?_, ?_, fun names segments => Spread.tokenize_eq⟩
  · intro segment noComma
    refine ⟨tokenize_of_blank, fun filled => ?_⟩
    have carries := carries_trim noComma filled
    exact ⟨carries, tokenize_of_carries carries⟩
  · rintro body segments rfl
    have joined := Text.join_pieces ',' body
    have free : ∀ segment ∈ Text.pieces ',' body, ',' ∉ segment :=
      fun _ => Text.separator_notMem_pieces
    have records := tokenize_join free
    rw [joined] at records
    refine ⟨joined, free, records, ?_⟩
    rw [records, List.length_map, List.countP_eq_length_filter]
    rfl

/-- Five segments, three of them blank, one name with a blank of its own, and blanks that are not
of ASCII. -/
def spacedSegments : List Text :=
  ["\u2003".toList, " If\t".toList, [], "As\u00a0If\u3000".toList, "\n".toList]

def spacedNames : List Text :=
  ["If".toList, "As\u00a0If".toList]

theorem spread_spacedNames : Spread spacedNames spacedSegments := by
  have first : Carries " If\t".toList (Text.trim " If\t".toList) :=
    carries_trim (by decide) (by decide)
  have second : Carries "As\u00a0If\u3000".toList (Text.trim "As\u00a0If\u3000".toList) :=
    carries_trim (by decide) (by decide)
  exact .blank (by decide) (.name first (.blank (by decide) (.name second
    (.blank (by decide) .nothing))))

theorem tokenize_segments_spacedNames :
    let body := "\u2003, If\t,,As\u00a0If\u3000,\n".toList
    tokenize "\u2003, If\t".toList = tokenize "\u2003".toList ++ tokenize " If\t".toList ∧
      tokenize "\u2003".toList = [] ∧
      tokenize " If\t".toList = [⟨"If".toList, "if".toList⟩] ∧
      (tokenize body).length = 2 ∧
      tokenize body = [⟨"If".toList, "if".toList⟩, ⟨"As\u00a0If".toList, "as\u00a0if".toList⟩] := by
  intro body
  obtain ⟨append, single, counted, spread⟩ := tokenize_segments
  obtain ⟨blank, _⟩ := single "\u2003".toList (by decide)
  obtain ⟨_, filled⟩ := single " If\t".toList (by decide)
  obtain ⟨_, _, _, count⟩ := counted body spacedSegments (by decide)
  have records := spread spacedNames spacedSegments spread_spacedNames
  exact ⟨append "\u2003".toList " If\t".toList, blank (by decide),
    (filled (by decide)).2.trans (by decide +kernel), count.trans (by decide),
    records.trans (by decide +kernel)⟩

end SourceCatalog.Keyword
