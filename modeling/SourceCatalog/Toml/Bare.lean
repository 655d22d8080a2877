import SourceCatalog.Decimal.Shortest
import SourceCatalog.Misfit
import SourceCatalog.Text.Digits

/-!
# Bare values of a TOML document

Numbers, truth values, dates and times are written without quotes. Each is a word, and this
module says which words are which values.
-/

namespace SourceCatalog.Toml

open Decimal

/-- Digits of a base, with single underscores between them, which are left out. -/
def digits? (base : Nat) (word : Text) : Option Text :=
  let parts := Text.pieces '_' word
  if parts.all fun part => !part.isEmpty && part.all (Text.isDigitOf base) then
    some parts.flatten
  else
    none

/-- The sign of a word, true for minus, and the word without it. -/
def signOf : Text → Bool × Text
  | '+' :: tail => (false, tail)
  | '-' :: tail => (true, tail)
  | word => (false, word)

/-- The digits of a whole number, without needless zeros in front. -/
def wholeDigits? (word : Text) : Option Text :=
  (digits? 10 word).filter fun digits => digits.head? != some '0' || digits.length == 1

def integerLimit : Nat := Nat.pow 2 63 - 1

/-- An integer in a base other than ten, which has no sign. -/
def based? (base : Nat) (word : Text) : Option Int :=
  (((digits? base word).bind (Text.numeral? base)).filter (· ≤ integerLimit)).map Int.ofNat

def signed? (word : Text) : Option Int := do
  let (negative, rest) := signOf word
  let value ← (wholeDigits? rest).bind (Text.numeral? 10)
  if negative then
    if value ≤ integerLimit + 1 then some (-value) else none
  else
    if value ≤ integerLimit then some value else none

def integer? : Text → Option Int
  | '0' :: 'x' :: rest => based? 16 rest
  | '0' :: 'o' :: rest => based? 8 rest
  | '0' :: 'b' :: rest => based? 2 rest
  | word => signed? word

/-- A part of a word from a mark on; without the mark the part is missing. -/
def cutAt (isMark : Char → Bool) (word : Text) : Text × Option Text :=
  match word.dropWhile (!isMark ·) with
  | [] => (word, none)
  | _ :: tail => (word.takeWhile (!isMark ·), some tail)

def exponent? : Option Text → Option Int
  | none => some 0
  | some word => do
    let (negative, rest) := signOf word
    let value ← (digits? 10 rest).bind (Text.numeral? 10)
    return if negative then -value else value

def fraction? : Option Text → Option Text
  | none => some []
  | some word => digits? 10 word

/-- A floating-point number as it is shown. Too large a number is infinite, which only a
negative one may be. -/
def shown? (negative : Bool) : Option Binary64 → Option Text
  | some number => some (Layout.positional.text negative number)
  | none => if negative then some "-inf".toList else none

def decimal? (word : Text) : Option Text := do
  let (negative, rest) := signOf word
  let (mantissa, scale) := cutAt (fun mark => mark == 'e' || mark == 'E') rest
  let (whole, point) := cutAt (· == '.') mantissa
  if scale.isNone ∧ point.isNone then
    none
  else
    let whole ← wholeDigits? whole
    let fraction ← fraction? point
    let exponent ← exponent? scale
    let significand ← Text.numeral? 10 (whole ++ fraction)
    shown? negative (Binary64.ofDecimal significand (exponent - fraction.length))

def special? (word : Text) : Option Text :=
  let (negative, rest) := signOf word
  if rest = "inf".toList then some (if negative then "-inf".toList else "inf".toList)
  else if rest = "nan".toList then some "NaN".toList
  else none

/-! ## Dates and times -/

def daysIn (year month : Nat) : Nat :=
  if month = 2 then
    if year % 4 = 0 ∧ (year % 100 ≠ 0 ∨ year % 400 = 0) then 29 else 28
  else if month = 4 ∨ month = 6 ∨ month = 9 ∨ month = 11 then 30
  else 31

def isPair (low high : Nat) (word : Text) : Bool :=
  word.length == 2 &&
    (Text.numeral? 10 word).any fun value => low ≤ value && value ≤ high

def isDate (word : Text) : Bool :=
  match Text.pieces '-' word with
  | [year, month, day] =>
    match Text.numeral? 10 year, Text.numeral? 10 month with
    | some yearValue, some monthValue =>
      year.length == 4 && isPair 1 12 month && isPair 1 (daysIn yearValue monthValue) day
    | _, _ => false
  | _ => false

def skipFraction : Text → Text
  | '.' :: tail =>
    if (tail.takeWhile Char.isDigit).isEmpty then '.' :: tail
    else tail.dropWhile Char.isDigit
  | rest => rest

def afterTime? (word : Text) : Option Text :=
  match Text.pieces ':' (word.take 8) with
  | [hour, minute, second] =>
    if isPair 0 23 hour && isPair 0 59 minute && isPair 0 60 second then
      some (skipFraction (word.drop 8))
    else
      none
  | _ => none

def isOffset (word : Text) : Bool :=
  match word with
  | ['Z'] => true
  | ['z'] => true
  | sign :: rest =>
    (sign == '+' || sign == '-') &&
      match Text.pieces ':' rest with
      | [hour, minute] => isPair 0 23 hour && isPair 0 59 minute
      | _ => false
  | [] => false

def isTime (word : Text) : Bool :=
  afterTime? word == some []

def isOffsetTime (word : Text) : Bool :=
  (afterTime? word).any fun rest => rest.isEmpty || isOffset rest

def isDateTime (word : Text) : Bool :=
  isDate (word.take 10) &&
    match word.drop 10 with
    | mark :: time => (mark == 'T' || mark == 't') && isOffsetTime time
    | [] => false

/-- The value that a word writes. A date or a time counts as a table. -/
def bareValue? (word : Text) : Option Misfit :=
  if word = "true".toList then some (.boolean true)
  else if word = "false".toList then some (.boolean false)
  else if isDate word || isTime word || isDateTime word then some .map
  else
    match integer? word, decimal? word, special? word with
    | some value, _, _ => some (.integer value)
    | none, some written, _ => some (.float written)
    | none, none, some written => some (.float written)
    | none, none, none => none

end SourceCatalog.Toml
