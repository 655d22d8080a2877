import SourceCatalog.Text.Category
import SourceCatalog.Text.Fold

/-!
# Sets of characters

The sets that a pattern can write, as expressions over ranges and kinds of characters. Whether a
set holds a character is decided by its expression.
-/

namespace SourceCatalog.Pattern

inductive Kind where
  | decimal
  | blank
  | wordPart
  | letter
  | mark
  | number
  | punctuation
  | symbol
  | separator
  | unprintable
  deriving DecidableEq, Repr

namespace Kind

def holds : Kind → Char → Bool
  | decimal => Text.isDecimal
  | blank => Text.isBlank
  | wordPart => Text.isWordPart
  | letter => Text.isLetter
  | mark => Text.isMark
  | number => Text.isNumber
  | punctuation => Text.isPunctuation
  | symbol => Text.isSymbol
  | separator => Text.isSeparator
  | unprintable => Text.isUnprintable

/-- The category that a letter names, in either case. -/
def ofLetter? (letter : Char) : Option Kind :=
  match letter.toLower with
  | 'c' => some unprintable
  | 'l' => some Kind.letter
  | 'm' => some mark
  | 'n' => some number
  | 'p' => some punctuation
  | 's' => some symbol
  | 'z' => some separator
  | _ => none

end Kind

/-- How two sets are combined: their common members, those of the first one alone, or those of
exactly one. -/
inductive Operation where
  | intersection
  | difference
  | exclusion
  deriving DecidableEq, Repr

/-- Whether a combination holds what the two sets hold or not. -/
def Operation.holds : Operation → Bool → Bool → Bool
  | intersection, left, right => left && right
  | difference, left, right => left && !right
  | exclusion, left, right => left != right

inductive CharSet where
  | empty
  | range (first last : Char)
  | ofKind (kind : Kind)
  | union (left right : CharSet)
  | combined (operation : Operation) (left right : CharSet)
  | others (excluded : CharSet)
  /-- every character that differs from a member in case at most -/
  | anyCase (members : CharSet)
  /-- every character that differs from a member at most in the case of an ASCII letter -/
  | anyAsciiCase (members : CharSet)
  deriving DecidableEq, Repr

namespace CharSet

/-- An ASCII letter in the other case; any other character as it stands. -/
def swapAsciiCase (letter : Char) : Char :=
  if letter.isUpper then letter.toLower else letter.toUpper

def holds : CharSet → Char → Bool
  | empty, _ => false
  | range first last, tested => first ≤ tested && tested ≤ last
  | ofKind kind, tested => kind.holds tested
  | union left right, tested => left.holds tested || right.holds tested
  | combined operation left right, tested =>
    operation.holds (left.holds tested) (right.holds tested)
  | others excluded, tested => !excluded.holds tested
  | anyCase members, tested => (Text.variants tested).any members.holds
  | anyAsciiCase members, tested => members.holds tested || members.holds (swapAsciiCase tested)

def single (member : Char) : CharSet :=
  range member member

def ofRanges (ranges : List (Char × Char)) : CharSet :=
  ranges.foldr (fun bounds => union (range bounds.1 bounds.2)) empty

/-- The set of what some sets hold. One set alone stands for itself. -/
def unionOf : List CharSet → CharSet
  | [] => empty
  | head :: tail => tail.foldl union head

theorem holds_ofRanges (ranges : List (Char × Char)) (tested : Char) :
    (ofRanges ranges).holds tested =
      ranges.any fun bounds => bounds.1 ≤ tested && tested ≤ bounds.2 := by
  induction ranges with
  | nil => rfl
  | cons head tail inductionHypothesis =>
    rw [List.any_cons, ← inductionHypothesis]
    rfl

def asciiDigits : CharSet :=
  range '0' '9'

def asciiWordParts : CharSet :=
  ofRanges [('0', '9'), ('A', 'Z'), ('_', '_'), ('a', 'z')]

def asciiBlanks : CharSet :=
  ofRanges [('\t', '\r'), (' ', ' ')]

def named? (name : Text) : Option CharSet :=
  match String.ofList name with
  | "alnum" => some (ofRanges [('0', '9'), ('A', 'Z'), ('a', 'z')])
  | "alpha" => some (ofRanges [('A', 'Z'), ('a', 'z')])
  | "ascii" => some (range '\x00' '\x7f')
  | "blank" => some (ofRanges [('\t', '\t'), (' ', ' ')])
  | "cntrl" => some (ofRanges [('\x00', '\x1f'), ('\x7f', '\x7f')])
  | "digit" => some asciiDigits
  | "graph" => some (range '!' '~')
  | "lower" => some (range 'a' 'z')
  | "print" => some (range ' ' '~')
  | "punct" => some (ofRanges [('!', '/'), (':', '@'), ('[', Char.ofNat 0x60), ('\x7b', '~')])
  | "space" => some asciiBlanks
  | "upper" => some (range 'A' 'Z')
  | "word" => some asciiWordParts
  | "xdigit" => some (ofRanges [('0', '9'), ('A', 'F'), ('a', 'f')])
  | _ => none

end CharSet

end SourceCatalog.Pattern
