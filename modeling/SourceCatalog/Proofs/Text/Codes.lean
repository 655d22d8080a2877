import SourceCatalog.Text.Basic

/-!
# Characters and their codes

A code that is no character's stands for the zero character. Every other character has its own
code only.
-/

namespace SourceCatalog.Text

theorem toNat_ofNat_of_valid {code : Nat} (valid : code.isValidChar) :
    (Char.ofNat code).toNat = code := by
  rw [Char.ofNat, dif_pos valid]
  rfl

theorem ofNat_of_not_valid {code : Nat} (invalid : ¬ code.isValidChar) :
    Char.ofNat code = '\x00' :=
  dif_neg invalid

theorem eq_toNat_of_ofNat_eq {code : Nat} {tested : Char} (same : Char.ofNat code = tested)
    (notZero : tested ≠ '\x00') : code = tested.toNat := by
  by_cases valid : code.isValidChar
  · rw [← same, toNat_ofNat_of_valid valid]
  · exact absurd (same.symm.trans (ofNat_of_not_valid valid)) notZero

/-- The codes of characters leave out the surrogates. -/
theorem toNat_bounds (meant : Char) :
    meant.toNat < 0xD800 ∨ 0xDFFF < meant.toNat ∧ meant.toNat < 0x110000 :=
  meant.valid

end SourceCatalog.Text
