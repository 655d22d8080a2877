import SourceCatalog.Text.Basic

/-!
# Digits

Digits of bases up to sixteen, in either case.
-/

namespace SourceCatalog.Text

def hexValue? (digit : Char) : Option Nat :=
  if '0' ≤ digit ∧ digit ≤ '9' then some (digit.toNat - '0'.toNat)
  else if 'a' ≤ digit ∧ digit ≤ 'f' then some (digit.toNat - 'a'.toNat + 10)
  else if 'A' ≤ digit ∧ digit ≤ 'F' then some (digit.toNat - 'A'.toNat + 10)
  else none

def digitValue? (base : Nat) (digit : Char) : Option Nat :=
  (hexValue? digit).filter (· < base)

def isDigitOf (base : Nat) (tested : Char) : Bool :=
  (digitValue? base tested).isSome

/-- The number with the given digits, most significant first. -/
def ofDigits (base : Nat) (digits : List Nat) : Nat :=
  digits.foldl (fun number digit => number * base + digit) 0

/-- The number that a text of digits writes. A text with another character writes none, and so
does the empty text. -/
def numeral? (base : Nat) (text : Text) : Option Nat :=
  if text.isEmpty then none else (text.mapM (digitValue? base)).map (ofDigits base)

end SourceCatalog.Text
