import SourceCatalog.Decimal.Binary64
import SourceCatalog.Text.Basic

/-!
# Shortest decimals

A binary number is written with the fewest digits that still read back as the same number, and
of the decimals with so few digits with the nearest; a layout says which one that is where two
are equally near. The digits are then laid out in one of two ways: with all places, or with an
exponent when the number is very large or very small.
-/

namespace SourceCatalog.Decimal

structure Numeral where
  digits : Nat
  exponent : Int
  deriving DecidableEq, Repr

/-- Which of two equally near points is taken. -/
inductive Tie where
  | toEven
  | upwards
  deriving DecidableEq, Repr

def Tie.takesLower (tie : Tie) (lower : Nat) : Bool :=
  match tie with
  | toEven => lower % 2 == 0
  | upwards => false

/-- The reals that round to a number, as natural numbers over one denominator: the value, the
ends, and whether the ends belong to it. -/
structure Interval where
  denominator : Nat
  value : Nat
  low : Nat
  high : Nat
  closed : Bool
  deriving DecidableEq, Repr

/-- The interval of a positive number. Below a power of two the numbers lie twice as close. -/
def Interval.of (number : Binary64) : Interval :=
  let narrow := number.significand = Nat.pow 2 52 ∧ -1074 < number.exponent
  let value := 4 * number.significand
  let (factor, denominator) : Nat × Nat :=
    match number.exponent - 2 with
    | .ofNat exponent => (Nat.pow 2 exponent, 1)
    | .negSucc exponent => (1, Nat.pow 2 (exponent + 1))
  { denominator
    value := value * factor
    low := (if narrow then value - 1 else value - 2) * factor
    high := (value + 2) * factor
    closed := number.significand % 2 = 0 }

def Interval.holds (interval : Interval) (numerator denominator : Nat) : Bool :=
  let tested := numerator * interval.denominator
  let low := interval.low * denominator
  let high := interval.high * denominator
  if interval.closed then low ≤ tested && tested ≤ high else low < tested && tested < high

def powerOfTen : Int → Nat × Nat
  | .ofNat exponent => (Nat.pow 10 exponent, 1)
  | .negSucc exponent => (1, Nat.pow 10 (exponent + 1))

/-- Of the two points of the grid `10 ^ exponent` around the value, the nearest one in the
interval. -/
def Interval.pointOn? (interval : Interval) (tie : Tie) (exponent : Int) : Option Numeral :=
  let (step, parts) := powerOfTen exponent
  let below := interval.value * parts / (interval.denominator * step)
  let holds (point : Nat) := interval.holds (point * step) parts
  let twice := 2 * interval.value * parts
  let middle := (2 * below + 1) * interval.denominator * step
  let belowFirst := twice < middle ∨ (twice = middle ∧ tie.takesLower below)
  if holds below ∧ (belowFirst ∨ !holds (below + 1)) then some ⟨below, exponent⟩
  else if holds (below + 1) then some ⟨below + 1, exponent⟩
  else none

/-- The number of digits before the point of a fraction, less one; negative for a small
fraction. -/
def magnitude (numerator denominator : Nat) : Int :=
  if denominator ≤ numerator then
    ((Nat.toDigits 10 (numerator / denominator)).length : Int) - 1
  else
    -((Nat.toDigits 10 ((denominator + numerator - 1) / numerator - 1)).length : Int)

def Numeral.reduced (decimal : Numeral) : Numeral :=
  let zeros := ((Nat.toDigits 10 decimal.digits).reverse.takeWhile (· == '0')).length
  if decimal.digits = 0 then ⟨0, 0⟩
  else ⟨decimal.digits / Nat.pow 10 zeros, decimal.exponent + zeros⟩

/-- The shortest decimal that reads back as the number. Seventeen digits always do. -/
def shortest (tie : Tie) (number : Binary64) : Numeral :=
  if number.significand = 0 then
    ⟨0, 0⟩
  else
    let interval := Interval.of number
    let top := magnitude interval.value interval.denominator
    let found := (List.range 17).findSome? fun (count : Nat) =>
      interval.pointOn? tie (top - count)
    (found.getD ⟨0, 0⟩).reduced

/-- How numbers are written: which digits are taken in a tie, and between which places the first
digit stands in numbers without an exponent. -/
structure Layout where
  tie : Tie
  lowest : Option Int
  highest : Option Int

/-- Exponents from `-6` down and from `16` up, and even digits in a tie. -/
def Layout.compact : Layout := ⟨.toEven, some (-5), some 15⟩

/-- No exponents, and the larger digits in a tie. -/
def Layout.positional : Layout := ⟨.upwards, none, none⟩

/-- All digits in their places, at least one on each side of the point. -/
def Numeral.places (decimal : Numeral) : Text :=
  let digits := Text.ofNat decimal.digits
  match decimal.exponent with
  | .ofNat exponent => digits ++ List.replicate exponent '0' ++ ['.', '0']
  | .negSucc exponent =>
    let fraction := exponent + 1
    let padded := List.replicate (fraction + 1 - digits.length) '0' ++ digits
    padded.take (padded.length - fraction) ++ ['.'] ++ padded.drop (padded.length - fraction)

/-- One digit before the point, then the others, then the exponent with its sign. -/
def Numeral.scientific (decimal : Numeral) (exponent : Int) : Text :=
  let fraction := (Text.ofNat decimal.digits).tail
  (Text.ofNat decimal.digits).take 1 ++ (if fraction.isEmpty then [] else '.' :: fraction) ++
    ['e'] ++ (if exponent < 0 then [] else ['+']) ++ Text.ofInt exponent

def Layout.write (layout : Layout) (decimal : Numeral) : Text :=
  let exponent := decimal.exponent + (Text.ofNat decimal.digits).length - 1
  if layout.lowest.all (· ≤ exponent) && layout.highest.all (exponent ≤ ·) then
    decimal.places
  else
    decimal.scientific exponent

/-- A number with its sign, in the fewest digits. -/
def Layout.text (layout : Layout) (negative : Bool) (number : Binary64) : Text :=
  (if negative then ['-'] else []) ++ layout.write (shortest layout.tie number)

end SourceCatalog.Decimal
