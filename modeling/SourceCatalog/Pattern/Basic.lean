import SourceCatalog.Pattern.CharSet

/-!
# Patterns

A pattern describes texts by the sets their characters lie in, one after the other, with choices,
repetitions and conditions on the gaps between characters. Where a text can be matched in more
than one way the pattern also says which way is preferred.
-/

namespace SourceCatalog

namespace Pattern

structure Gap where
  before : Option Char
  behind : Option Char
  deriving DecidableEq, Repr

/-- The gaps between the bytes of one character. No condition tells them apart from a gap
between two such characters. -/
def Gap.within (split : Char) : Gap :=
  ⟨some split, some split⟩

/-- A condition on a gap. A word consists of ASCII letters, digits and underscores here. -/
inductive Condition where
  | textStart
  | textEnd
  | lineStart
  | lineEnd
  /-- the start of a line, where a carriage return ends one too -/
  | returnStart
  /-- the end of a line, where a carriage return ends one too -/
  | returnEnd
  | wordEdge
  | noWordEdge
  | wordStart
  | wordEnd
  deriving DecidableEq, Repr

def isWordSide (side : Option Char) : Bool :=
  side.any CharSet.asciiWordParts.holds

def Condition.holds (gap : Gap) : Condition → Bool
  | textStart => gap.before.isNone
  | textEnd => gap.behind.isNone
  | lineStart => gap.before.all (· == '\n')
  | lineEnd => gap.behind.all (· == '\n')
  | returnStart =>
    gap.before.all fun before => before == '\n' || (before == '\r' && gap.behind != some '\n')
  | returnEnd =>
    gap.behind.all fun behind => behind == '\r' || (behind == '\n' && gap.before != some '\r')
  | wordEdge => isWordSide gap.before != isWordSide gap.behind
  | noWordEdge => isWordSide gap.before == isWordSide gap.behind
  | wordStart => !isWordSide gap.before && isWordSide gap.behind
  | wordEnd => isWordSide gap.before && !isWordSide gap.behind

end Pattern

inductive Pattern.Count where
  | atMostOnce
  | anyNumber
  | atLeastOnce
  deriving DecidableEq, Repr

/-- A pattern. A repetition is greedy if it prefers one more round to going on. Where a pattern
branches, and where a group stands, it has a place, a number that tells it apart from parts that
are written alike. -/
inductive Pattern where
  | empty
  | character (members : Pattern.CharSet)
  | gap (condition : Pattern.Condition)
  | group (place : Nat) (body : Pattern)
  | sequence (first second : Pattern)
  | choice (place : Nat) (preferred other : Pattern)
  | repeated (place : Nat) (count : Pattern.Count) (greedy : Bool) (body : Pattern)
  /-- any number of rounds behind one -/
  | further (place : Nat) (greedy : Bool) (body : Pattern)
  deriving DecidableEq, Repr

namespace Pattern

def isNeverEmpty : Pattern → Bool
  | empty | gap _ | further _ _ _ => false
  | character _ => true
  | group _ body => body.isNeverEmpty
  | sequence first second => first.isNeverEmpty || second.isNeverEmpty
  | choice _ preferred other => preferred.isNeverEmpty && other.isNeverEmpty
  | repeated _ count _ body => count = .atLeastOnce && body.isNeverEmpty

/-- What is behind one of any number of rounds: as many again. If a round can be empty, the first
one is told apart from the others, since it may have been reached without a character and then
does not count. -/
def behindRound (place : Nat) (greedy : Bool) (body : Pattern) : Pattern :=
  if body.isNeverEmpty then repeated place .anyNumber greedy body else further place greedy body

def size : Pattern → Nat
  | empty | character _ | gap _ => 1
  | group _ body | repeated _ _ _ body | further _ _ body => body.size + 1
  | sequence first second => first.size + second.size + 1
  | choice _ preferred other => preferred.size + other.size + 1

/-- A pattern without its places, but for those of its groups. -/
def unplaced : Pattern → Pattern
  | group place body => group place body.unplaced
  | sequence first second => sequence first.unplaced second.unplaced
  | choice _ preferred other => choice 0 preferred.unplaced other.unplaced
  | repeated _ count greedy body => repeated 0 count greedy body.unplaced
  | further _ greedy body => further 0 greedy body.unplaced
  | leaf => leaf

def isAlwaysEmpty : Pattern → Bool
  | empty | gap _ => true
  | character _ => false
  | group _ body | repeated _ _ _ body | further _ _ body => body.isAlwaysEmpty
  | sequence first second => first.isAlwaysEmpty && second.isAlwaysEmpty
  | choice _ preferred other => preferred.isAlwaysEmpty && other.isAlwaysEmpty

/-- A repeated pattern. More than one round adds nothing if no round holds a character. -/
def ofRepeated (place : Nat) (count : Count) (greedy : Bool) (body : Pattern) : Pattern :=
  if !body.isAlwaysEmpty then repeated place count greedy body
  else if count = .atLeastOnce then body
  else repeated place .atMostOnce greedy body

def parts : Pattern → List Pattern
  | empty => []
  | sequence first second => first.parts ++ second.parts
  | single => [single]

/-- The sequence of some patterns. Their parts become its own. -/
def ofSequence (patterns : List Pattern) : Pattern :=
  match (patterns.flatMap parts).reverse with
  | [] => empty
  | last :: earlier => earlier.foldl (fun rest part => sequence part rest) last

def alternatives : Pattern → List Pattern
  | choice _ preferred other => preferred.alternatives ++ other.alternatives
  | single => [single]

/-- The number of first parts that two lists have in common. -/
def commonLength : List Pattern → List Pattern → Nat
  | first :: rest, other :: others =>
    if first.unplaced = other.unplaced then commonLength rest others + 1 else 0
  | _, _ => 0

/-- The number of first parts that all of some sequences have in common, if each of them has more
than one part. -/
def sharedLength : List (List Pattern) → Nat
  | [] => 0
  | first :: others =>
    if (first :: others).all (·.length > 1) then
      others.foldl (fun shared other => min shared (commonLength first other)) first.length
    else
      0

/-- The choice among some patterns, the preferred ones first. Their alternatives become its own,
and what all of them begin with comes before it: so a longer beginning is preferred to an earlier
alternative. The first argument bounds the number of times that there is such a beginning. -/
def ofChoice (place : Nat) : Nat → List Pattern → Pattern
  | 0, patterns => plainChoice (patterns.flatMap alternatives)
  | bound + 1, patterns =>
    let options := patterns.flatMap alternatives
    let sequences := options.map parts
    let shared := if options.length > 1 then sharedLength sequences else 0
    if shared = 0 then plainChoice options
    else
      let beginning := (sequences.headD []).take shared
      let endings := sequences.map fun sequence => ofSequence (sequence.drop shared)
      ofSequence (beginning ++ [ofChoice place bound endings])
where
  plainChoice (patterns : List Pattern) : Pattern :=
    match patterns.reverse with
    | [] => empty
    | last :: earlier => earlier.foldl (fun rest option => choice place option rest) last

end Pattern

end SourceCatalog
