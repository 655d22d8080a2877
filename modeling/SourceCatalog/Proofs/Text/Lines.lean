import SourceCatalog.Proofs.Text.Codes
import SourceCatalog.Proofs.Text.Cutting
import SourceCatalog.Text.Case

/-!
# Texts on one line

What a line of a text, a capitalized text and a text put together line by line have to do with
line feeds: none of them brings one in.
-/

namespace SourceCatalog.Text

theorem pieces_append_flatMap {separator : Char} {first : Text} {others : List Text}
    (free : separator ∉ first) (othersFree : ∀ piece ∈ others, separator ∉ piece) :
    pieces separator (first ++ others.flatMap fun piece => separator :: piece) =
      first :: others := by
  induction others generalizing first with
  | nil => simpa using pieces_of_notMem free
  | cons head tail inductionHypothesis =>
    have later := inductionHypothesis (othersFree head List.mem_cons_self)
      fun piece member => othersFree piece (List.mem_cons_of_mem head member)
    rw [List.flatMap_cons, List.cons_append, pieces_append_cons free, later]

/-- The first separator of a text cuts it in one way. -/
theorem append_separator_inj {separator : Char} {before others after rest : Text}
    (free : separator ∉ before) (othersFree : separator ∉ others)
    (same : before ++ separator :: after = others ++ separator :: rest) :
    before = others ∧ after = rest := by
  have cut := congrArg (pieces separator) same
  rw [pieces_append_cons free, pieces_append_cons othersFree] at cut
  obtain ⟨rfl, _⟩ := List.cons.inj cut
  have behind := List.append_cancel_left same
  exact ⟨rfl, (List.cons.inj behind).2⟩

theorem dropReturn_sublist (line : Text) : (dropReturn line).Sublist line := by
  unfold dropReturn
  split
  · exact List.dropLast_sublist line
  · exact List.Sublist.refl line

theorem lineFeed_notMem_of_mem_lines {text line : Text} (member : line ∈ lines text) :
    '\n' ∉ line := by
  have ofPiece : ∀ piece ∈ pieces '\n' text, '\n' ∉ piece :=
    fun piece => separator_notMem_pieces
  rcases List.mem_append.1 member with ended | unfinished
  · obtain ⟨piece, isPiece, rfl⟩ := List.mem_map.1 ended
    have free := ofPiece piece (List.dropLast_subset _ isPiece)
    exact fun found => free ((dropReturn_sublist piece).subset found)
  · have last : line = (pieces '\n' text).getLast (pieces_ne_nil '\n' text) := by
      split at unfinished
      · simp at unfinished
      · simpa using unfinished
    rw [last]
    exact ofPiece _ (List.getLast_mem _)

/-- The lines are the pieces where no carriage return goes and the last piece is not empty. -/
theorem lines_eq_pieces {text : Text}
    (kept : ∀ piece ∈ pieces '\n' text, dropReturn piece = piece)
    (ended : ∀ last, (pieces '\n' text).getLast? = some last → last ≠ []) :
    lines text = pieces '\n' text := by
  have filled := pieces_ne_nil '\n' text
  have unfinished := ended _ (List.getLast?_eq_some_getLast filled)
  have same : (pieces '\n' text).dropLast.map dropReturn = (pieces '\n' text).dropLast := by
    refine (List.map_congr_left fun piece member => ?_).trans (List.map_id _)
    exact kept piece (List.dropLast_subset _ member)
  unfold lines
  dsimp only
  rw [same, if_neg (by simpa using unfinished), List.dropLast_concat_getLast]

/-- A text of one line has no second one. -/
theorem second_of_lines_of_notMem {text : Text} (free : '\n' ∉ text) : (lines text)[1]? = none := by
  unfold lines
  simp only [pieces_of_notMem free]
  split <;> rfl

/-- What follows the first line feed is a line if there is anything. -/
theorem second_of_lines_unended {first second : Text} (free : '\n' ∉ first)
    (secondFree : '\n' ∉ second) :
    (lines (first ++ '\n' :: second))[1]? = if second = [] then none else some second := by
  unfold lines
  simp only [pieces_append_cons free, pieces_of_notMem secondFree]
  cases second <;> rfl

/-- What stands between the first two line feeds is a line, less a carriage return. -/
theorem second_of_lines_ended {first second : Text} (free : '\n' ∉ first)
    (secondFree : '\n' ∉ second) (rest : Text) :
    (lines (first ++ '\n' :: (second ++ '\n' :: rest)))[1]? = some (dropReturn second) := by
  obtain ⟨third, more, others⟩ := List.exists_cons_of_ne_nil (pieces_ne_nil '\n' rest)
  unfold lines
  simp only [pieces_append_cons free, pieces_append_cons secondFree, others]
  rfl

/-- Every entry of the table leads away from the control characters. -/
theorem lineFeed_lt_target : ∀ run ∈ upperRuns, 10 < run.target := by
  decide +kernel

theorem lineFeed_notMem_expansions : ∀ expansion ∈ upperExpansions, 10 ∉ expansion.2 := by
  decide +kernel

theorem lineFeed_notMem_upperOf {mapped : Char} (different : mapped ≠ '\n') :
    '\n' ∉ upperOf mapped := by
  unfold upperOf
  split
  · next codes found =>
    intro member
    obtain ⟨code, inCodes, same⟩ := List.mem_map.1 member
    obtain ⟨before, after, split, _⟩ := List.lookup_eq_some_iff.1 found
    have listed : (mapped.toNat, codes) ∈ upperExpansions := by
      rw [split]
      simp
    rw [eq_toNat_of_ofNat_eq same (by decide)] at inCodes
    exact lineFeed_notMem_expansions _ listed inCodes
  · unfold mapByRuns
    split
    · next code found =>
      obtain ⟨run, isRun, partner⟩ := List.exists_of_findSome?_eq_some found
      have above := lineFeed_lt_target run isRun
      have moved : run.target + (mapped.toNat - run.first) = code := by
        unfold CaseRun.partner? at partner
        split at partner
        · exact Option.some.inj partner
        · cases partner
      intro member
      have same := eq_toNat_of_ofNat_eq (List.mem_singleton.1 member).symm (by decide)
      change code = 10 at same
      omega
    · simpa using Ne.symm different

/-- Capitals bring no line feed into a text. -/
theorem lineFeed_notMem_capitalize {text : Text} (free : '\n' ∉ text) :
    '\n' ∉ capitalize text := by
  cases text with
  | nil => exact free
  | cons head tail =>
    rw [List.mem_cons, not_or] at free
    have headFree := lineFeed_notMem_upperOf (Ne.symm free.1)
    simpa [capitalize] using ⟨headFree, free.2⟩

end SourceCatalog.Text
