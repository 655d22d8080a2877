import SourceCatalog.Decimal.Shortest
import SourceCatalog.Json.Refusal
import SourceCatalog.Text.Digits

/-!
# Reading the numbers of a JSON document

No number has a place in the documents of this library, but a report names the one that was
found. Whole numbers of 64 bits are kept exactly. Any other number is read as a significand
below `2 ^ 64` and a power of ten; digits that no longer fit only move the power, or are
dropped after the point. The result is rounded once for the significand and once for each
power of ten that is applied.
-/

namespace SourceCatalog.Json

open Decimal

def decimalValue (digit : Char) : Nat :=
  (Text.digitValue? 10 digit).getD 0

def opensDigit : Text → Bool
  | [] => false
  | head :: _ => head.isDigit

/-- Append digits to a significand as long as it stays below `2 ^ 64`. -/
def absorb (significand : Nat) : Text → Nat × Text
  | [] => (significand, [])
  | head :: tail =>
    if head.isDigit && significand * 10 + decimalValue head < Nat.pow 2 64 then
      absorb (significand * 10 + decimalValue head) tail
    else
      (significand, head :: tail)

def skipDigits (text : Text) : Text :=
  text.dropWhile Char.isDigit

/-- The largest exponent that is told apart from larger ones. -/
def exponentLimit : Nat := Nat.pow 2 31 - 1

/-- Append digits to an exponent. An exponent above the limit is given up, with the text after
the digit that made it so. -/
def absorbExponent (exponent : Nat) : Text → Option Nat × Text
  | [] => (some exponent, [])
  | head :: tail =>
    if !head.isDigit then (some exponent, head :: tail)
    else if exponentLimit < exponent * 10 + decimalValue head then (none, tail)
    else absorbExponent (exponent * 10 + decimalValue head) tail

/-- The largest power of ten that is applied at once. -/
def powerLimit : Nat := 308

/-- The quotient by a power of ten, some places at a time. -/
def lowered (number : Binary64) (places : Nat) : Binary64 :=
  if number.significand = 0 then
    number
  else
    let step := min places powerLimit
    let quotient := ((Binary64.ofDecimal 1 step).bind number.div).getD Binary64.zero
    if places ≤ powerLimit then quotient else lowered quotient (places - powerLimit)
termination_by places
decreasing_by
  simp only [powerLimit] at *
  omega

/-- The product with a power of ten, if it is within the range. -/
def raised (number : Binary64) (places : Nat) : Option Binary64 :=
  if number.significand = 0 then some number
  else if powerLimit < places then none
  else (Binary64.ofDecimal 1 places).bind number.mul

def scale? (significand : Nat) (exponent : Int) : Option Binary64 :=
  (Binary64.ofRatio significand 1).bind fun number =>
    match exponent with
    | .ofNat places => raised number places
    | .negSucc places => some (lowered number (places + 1))

def signed (negative : Bool) (number : Binary64) : Misfit :=
  .float (Layout.compact.text negative number)

def scaled (negative : Bool) (significand : Nat) (exponent : Int) (rest : Text) :
    Outcome Misfit :=
  match scale? significand exponent with
  | some number => .ok (signed negative number, rest)
  | none => .error (.here .numberOutOfRange rest)

def readExponentDigits (negative : Bool) (significand : Nat) (exponent : Int) (below : Bool)
    (text : Text) : Outcome Misfit :=
  if text.isEmpty then
    .error (.here .endInValue [])
  else if !opensDigit text then
    .error (.next .invalidNumber text)
  else
    match absorbExponent 0 text with
    | (some read, rest) =>
      scaled negative significand (if below then exponent - read else exponent + read) rest
    | (none, rest) =>
      if significand ≠ 0 && !below then .error (.here .numberOutOfRange rest)
      else .ok (signed negative Binary64.zero, skipDigits rest)

def readExponent (negative : Bool) (significand : Nat) (exponent : Int) : Text → Outcome Misfit
  | '+' :: tail => readExponentDigits negative significand exponent false tail
  | '-' :: tail => readExponentDigits negative significand exponent true tail
  | text => readExponentDigits negative significand exponent false text

def readScale (negative : Bool) (significand : Nat) (exponent : Int) : Text → Outcome Misfit
  | 'e' :: tail => readExponent negative significand exponent tail
  | 'E' :: tail => readExponent negative significand exponent tail
  | rest => scaled negative significand exponent rest

def readFraction (negative : Bool) (significand : Nat) (exponent : Int) (text : Text) :
    Outcome Misfit :=
  if text.isEmpty then
    .error (.here .endInValue [])
  else if !opensDigit text then
    .error (.next .invalidNumber text)
  else
    let (longer, rest) := absorb significand text
    readScale negative longer (exponent - (text.length - rest.length : Nat)) (skipDigits rest)

/-- Read what follows the digits of a whole number that is too large to be kept. -/
def readLong (negative : Bool) (significand : Nat) (text : Text) : Outcome Misfit :=
  let rest := skipDigits text
  let exponent : Int := (text.length - rest.length : Nat)
  match rest with
  | '.' :: tail => readFraction negative significand exponent tail
  | rest => readScale negative significand exponent rest

/-- A whole number. A negative zero and a number below the range are no whole numbers. -/
def whole (negative : Bool) (significand : Nat) : Misfit :=
  if !negative then .integer significand
  else if significand = 0 ∨ Nat.pow 2 63 < significand then
    signed true ((Binary64.ofRatio significand 1).getD Binary64.zero)
  else .integer (-significand)

def readTail (negative : Bool) (significand : Nat) : Text → Outcome Misfit
  | '.' :: tail => readFraction negative significand 0 tail
  | 'e' :: tail => readExponent negative significand 0 tail
  | 'E' :: tail => readExponent negative significand 0 tail
  | rest => .ok (whole negative significand, rest)

def readNumber (negative : Bool) : Text → Outcome Misfit
  | [] => .error (.here .endInValue [])
  | '0' :: tail =>
    if opensDigit tail then .error (.next .invalidNumber tail) else readTail negative 0 tail
  | text =>
    if !opensDigit text then
      .error (.next .invalidNumber text)
    else
      let (significand, rest) := absorb 0 text
      if opensDigit rest then readLong negative significand rest
      else readTail negative significand rest

end SourceCatalog.Json
