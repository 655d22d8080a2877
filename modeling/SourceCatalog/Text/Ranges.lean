/-!
# Sets of characters as ranges of codes
-/

namespace SourceCatalog.Text

/-- A set of character codes, as closed ranges. -/
abbrev CodeRanges := List (Nat × Nat)

def CodeRanges.holds (ranges : CodeRanges) (tested : Char) : Bool :=
  ranges.any fun range => range.1 ≤ tested.toNat && tested.toNat ≤ range.2

theorem CodeRanges.holds_iff {ranges : CodeRanges} {tested : Char} :
    ranges.holds tested = true ↔
      ∃ range ∈ ranges, range.1 ≤ tested.toNat ∧ tested.toNat ≤ range.2 := by
  simp [CodeRanges.holds, List.any_eq_true]

end SourceCatalog.Text
