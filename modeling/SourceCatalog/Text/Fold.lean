import SourceCatalog.Text.Case

/-!
# Texts without case

Characters that differ in case alone fold to one character. A fold is always one character, so
it is coarser than a case mapping in some places and finer in others: the Kelvin sign folds to
the letter `k`, and a dotless `i` only to itself.
-/

namespace SourceCatalog.Text

/-- The character that stands for all that differ from it in case alone. -/
def fold (folded : Char) : Char :=
  if folded = 'ı' then folded
  else mapByRuns lowerRuns (mapByRuns upperRuns (mapByRuns foldRuns folded))

/-- The characters that may differ in case from one that stands for all. -/
def candidates (standing : Char) : List Char :=
  standing :: mapByRuns upperRuns standing ::
    foldRuns.filterMap fun run => (run.source? standing.toNat).map Char.ofNat

def variants (given : Char) : List Char :=
  given :: (candidates (fold given)).filter (fold · = fold given)

theorem fold_eq_of_mem_variants {given variant : Char} (member : variant ∈ variants given) :
    fold variant = fold given := by
  rcases List.mem_cons.1 member with rfl | among
  · rfl
  · exact of_decide_eq_true (List.mem_filter.1 among).2

end SourceCatalog.Text
