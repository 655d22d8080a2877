import SourceCatalog.Pattern.Basic

/-!
# Searching

A search goes through a text once and keeps its attempts in the order of preference: earlier
beginnings first, and of one beginning the preferred choices first. An attempt that has matched
ends all attempts behind it. So what is left at the end of the text is the best match, and the
text ends with it or the pattern is not found there.
-/

namespace SourceCatalog.Pattern

abbrev Attempt := List Pattern

namespace Attempt

/-- Two attempts in the order of preference: one with another round, which greed prefers, and one
without. -/
def inOrder (greedy : Bool) (again without : Attempt) : List Attempt :=
  if greedy then [again, without] else [without, again]

/-- The attempts that one comes to without a character, in the order of preference. -/
def unfold (gap : Gap) : Attempt → List Attempt
  | [] => []
  | first :: rest =>
    match first with
    | empty => [rest]
    | character _ => []
    | .gap condition => if condition.holds gap then [rest] else []
    | group _ body => [body :: rest]
    | sequence one other => [one :: other :: rest]
    | choice _ preferred other => [preferred :: rest, other :: rest]
    | repeated _ .atMostOnce greedy body => inOrder greedy (body :: rest) rest
    | repeated place .anyNumber greedy body =>
      inOrder greedy (body :: behindRound place greedy body :: rest) rest
    | repeated place .atLeastOnce greedy body => [body :: further place greedy body :: rest]
    | further place greedy body =>
      inOrder greedy (body :: further place greedy body :: rest) rest

def isWaiting : Attempt → Bool
  | character _ :: _ => true
  | _ => false

/-- What an attempt has still to match behind a character, if it takes the character. -/
def take? (read : Char) : Attempt → Option Attempt
  | character members :: rest => if members.holds read then some rest else none
  | _ => none

end Attempt

/-- Where a search stands in a gap: the attempts that wait for a character, in the order of
preference, and whether one behind them has matched. -/
structure Standing where
  waiting : List Attempt
  matched : Bool
  deriving DecidableEq, Repr

/-- Where attempts come to in a gap, given the attempts that have been there. An attempt that has
matched ends those behind it. The first argument bounds the number of steps. -/
def settle (gap : Gap) : Nat → List Attempt → List Attempt → Standing
  | 0, _, _ => ⟨[], false⟩
  | _ + 1, _, [] => ⟨[], false⟩
  | steps + 1, seen, first :: others =>
    if first.isEmpty then ⟨[], true⟩
    else if seen.contains first then settle gap steps seen others
    else
      let settled := settle gap steps (first :: seen) (first.unfold gap ++ others)
      if first.isWaiting then { settled with waiting := first :: settled.waiting } else settled

/-- A number of steps that is enough for some attempts at a pattern: every part of the pattern
comes up at most twice in a gap, and then leads to two attempts at most. -/
def stepsFor (pattern : Pattern) (attempts : List Attempt) : Nat :=
  attempts.length + 4 * pattern.size + 4

def standing (pattern : Pattern) (gap : Gap) (attempts : List Attempt) : Standing :=
  settle gap (stepsFor pattern attempts) [] attempts

def matchesWithin (pattern : Pattern) (split : Char) : Bool :=
  split.utf8Size > 1 && (pattern.standing (.within split) [[pattern]]).matched

/-- Whether the best match ends the text, for attempts behind a character. While nothing has
matched, each gap begins one more attempt. -/
def endsFrom (pattern : Pattern) (before : Option Char) (attempts : List Attempt)
    (searching : Bool) : Text → Bool
  | [] => (pattern.standing ⟨before, none⟩ (begun attempts)).matched
  | head :: tail =>
    let here := pattern.standing ⟨before, some head⟩ (begun attempts)
    pattern.endsFrom (some head) (here.waiting.filterMap (·.take? head))
      (searching && !here.matched && !pattern.matchesWithin head) tail
where
  begun (attempts : List Attempt) : List Attempt :=
    if searching then attempts ++ [[pattern]] else attempts

/-- Whether a text ends with the best match of a pattern: of the matches that begin first, the
preferred one. -/
def ends (pattern : Pattern) (text : Text) : Bool :=
  pattern.endsFrom none [] true text

end SourceCatalog.Pattern
