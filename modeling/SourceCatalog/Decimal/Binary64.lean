/-!
# Binary floating-point numbers

The finite non-negative numbers of the IEEE format with 53 significant bits, as exact values.
Every operation rounds its exact result to the nearest number of the format; a tie goes to the
even significand. A result beyond the largest number is `none`.
-/

namespace SourceCatalog.Decimal

/-- The number `significand * 2 ^ exponent`. Rounding keeps the significand below `2 ^ 53` and
the exponent from `-1074` on. -/
structure Binary64 where
  significand : Nat
  exponent : Int
  deriving DecidableEq, Repr

namespace Binary64

def zero : Binary64 := ⟨0, -1074⟩

/-- A quotient rounded to the nearest natural number, a tie to the even one. -/
def roundDiv (numerator denominator : Nat) : Nat :=
  let quotient := numerator / denominator
  let remainder := numerator % denominator
  if 2 * remainder < denominator then quotient
  else if denominator < 2 * remainder then quotient + 1
  else quotient + quotient % 2

/-- The quotient `numerator / denominator / 2 ^ exponent` as a fraction of natural numbers. -/
def scaled (numerator denominator : Nat) : Int → Nat × Nat
  | .ofNat exponent => (numerator, denominator * Nat.pow 2 exponent)
  | .negSucc exponent => (numerator * Nat.pow 2 (exponent + 1), denominator)

/-- The exponent that leaves a quotient 53 significant bits, or the least one. -/
def exponentOf (numerator denominator : Nat) : Int :=
  let guess : Int := (Nat.log2 numerator : Int) - (Nat.log2 denominator : Int) - 53
  let (above, below) := scaled numerator denominator guess
  max (-1074) (if above / below < Nat.pow 2 53 then guess else guess + 1)

def ofRatio (numerator denominator : Nat) : Option Binary64 :=
  if numerator = 0 then
    some zero
  else
    let exponent := exponentOf numerator denominator
    let (above, below) := scaled numerator denominator exponent
    let rounded := roundDiv above below
    let result : Binary64 :=
      if rounded < Nat.pow 2 53 then ⟨rounded, exponent⟩ else ⟨rounded / 2, exponent + 1⟩
    if result.exponent ≤ 971 then some result else none

def ratio (number : Binary64) : Nat × Nat :=
  match number.exponent with
  | .ofNat exponent => (number.significand * Nat.pow 2 exponent, 1)
  | .negSucc exponent => (number.significand, Nat.pow 2 (exponent + 1))

def mul (left right : Binary64) : Option Binary64 :=
  ofRatio (left.ratio.1 * right.ratio.1) (left.ratio.2 * right.ratio.2)

def div (left right : Binary64) : Option Binary64 :=
  ofRatio (left.ratio.1 * right.ratio.2) (left.ratio.2 * right.ratio.1)

/-- The number nearest to `significand * 10 ^ exponent`. Numbers from `10 ^ 310` on are too
large, and numbers below `10 ^ -330` are nearest to zero, without a computation. -/
def ofDecimal (significand : Nat) (exponent : Int) : Option Binary64 :=
  let places := exponent + (Nat.toDigits 10 significand).length
  if significand = 0 ∨ places < -330 then some zero
  else if 310 < places then none
  else
    match exponent with
    | .ofNat exponent => ofRatio (significand * Nat.pow 10 exponent) 1
    | .negSucc exponent => ofRatio significand (Nat.pow 10 (exponent + 1))

end Binary64

end SourceCatalog.Decimal
