import SourceCatalog.Pattern.Basic

/-!
# Flags

Flags change what the rest of a written pattern means, up to the end of the group they are set
in. They are written as letters; those behind a minus sign are cleared.
-/

namespace SourceCatalog.Pattern

inductive Flag where
  /-- letters stand for both cases -/
  | caseless
  /-- the marks for the ends of the text stand for those of its lines -/
  | linewise
  /-- a point stands for a line feed too -/
  | pointForAll
  /-- repetitions are not greedy, unless marked -/
  | reluctant
  /-- kinds of characters reach beyond ASCII -/
  | universal
  /-- a carriage return ends a line -/
  | returns
  /-- blanks and comments mean nothing -/
  | spaced
  deriving DecidableEq, Repr

def Flag.ofLetter? : Char → Option Flag
  | 'i' => some .caseless
  | 'm' => some .linewise
  | 's' => some .pointForAll
  | 'U' => some .reluctant
  | 'u' => some .universal
  | 'R' => some .returns
  | 'x' => some .spaced
  | _ => none

abbrev Flags := List Flag

namespace Flags

def standing : Flags := [.universal]

def changed (flags : Flags) (changes : List (Flag × Bool)) : Flags :=
  changes.foldl
    (fun changing (flag, isSet) =>
      let others := changing.filter (· ≠ flag)
      if isSet then flag :: others else others)
    flags

/-- The changes that letters write, up to a closing mark, and the text from there on. No letter
may come twice, nor may the minus sign; and a letter has to follow it. -/
def readChanges? (isSet : Bool) (changes : List (Flag × Bool)) :
    Text → Option (List (Flag × Bool) × Text)
  | [] => none
  | head :: tail =>
    if head = ':' ∨ head = ')' then some (changes.reverse, head :: tail)
    else if head = '-' then
      if !isSet || tail.head?.any fun next => next == ':' || next == ')' then none
      else readChanges? false changes tail
    else
      match Flag.ofLetter? head with
      | none => none
      | some flag =>
        if changes.any (·.1 = flag) then none
        else readChanges? isSet ((flag, isSet) :: changes) tail

/-- A text without the blanks and comments at its beginning, which may be within a comment. A
comment goes on to the end of its line. -/
def dropSpace (commented : Bool) : Text → Text
  | [] => []
  | head :: tail =>
    if commented then dropSpace (head ≠ '\n') tail
    else if Text.isBlank head then dropSpace false tail
    else if head = '#' then dropSpace true tail
    else head :: tail

/-- A text from the next character on that means something. -/
def skip (flags : Flags) (written : Text) : Text :=
  if flags.contains .spaced then dropSpace false written else written

/-- The next character that is no blank, nor the first mark of a comment. -/
def nextMark (commented : Bool) : Text → Option Char
  | [] => none
  | head :: tail =>
    if Text.isBlank head then nextMark commented tail
    else if head = '#' ∧ !commented then nextMark true tail
    else some head

/-- The character that comes next, blanks left out if they mean nothing. A comment is looked into,
so its first character counts. -/
def peek (flags : Flags) (written : Text) : Option Char :=
  if flags.contains .spaced then nextMark false written else written.head?

def cased (flags : Flags) (members : CharSet) : CharSet :=
  if flags.contains .caseless then
    if flags.contains .universal then .anyCase members else .anyAsciiCase members
  else
    members

/-- A set or the characters it does not hold. The latter are not all ASCII, so there are none of
them where kinds do not reach beyond it. -/
def orOthers? (flags : Flags) (negated : Bool) (members : CharSet) : Option CharSet :=
  if negated then
    if flags.contains .universal then some (.others members) else none
  else
    some members

end Flags

end SourceCatalog.Pattern
