import SourceCatalog.Text.Basic

/-!
# Runs of blanks

A blank that stands alone separates words and stays. Every longer run of blanks is layout and
goes, line ends included.
-/

namespace SourceCatalog.Source

theorem length_dropWhile_le {Item : Type} (test : Item → Bool) (items : List Item) :
    (items.dropWhile test).length ≤ items.length :=
  (List.dropWhile_suffix test).length_le

/-- The text without its runs of two or more blanks. -/
def withoutBlankRuns : Text → Text
  | [] => []
  | head :: tail =>
    if Text.isBlank head then
      if (tail.takeWhile Text.isBlank).isEmpty then
        head :: withoutBlankRuns tail
      else
        withoutBlankRuns (tail.dropWhile Text.isBlank)
    else
      head :: withoutBlankRuns tail
termination_by text => text.length
decreasing_by
  · simp
  · have := length_dropWhile_le Text.isBlank tail
    simp only [List.length_cons]
    omega
  · simp

end SourceCatalog.Source
