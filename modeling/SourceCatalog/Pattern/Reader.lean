import SourceCatalog.Pattern.SetReader

/-!
# Reading patterns

A written pattern is a sequence of characters, escapes, sets, groups and conditions, each of them
perhaps repeated, with bars between alternatives. The parts are read one after the other, and the
groups that are open wait on a stack. A brace begins a number of rounds; since no pattern holds the
brace that would end the number, none that holds a brace is read.
-/

namespace SourceCatalog.Pattern

/-- A part of a sequence. A change of flags is a part that cannot be repeated. -/
structure Item where
  pattern : Nested Pattern
  isRepeatable : Bool
  deriving DecidableEq, Repr

namespace Item

def leaf (pattern : Pattern) : Item :=
  ⟨⟨pattern, 0⟩, true⟩

def ofCharacter (flags : Flags) (read : Char) : Item :=
  leaf (.character (flags.cased (.single read)))

def ofEscape (flags : Flags) : Escape → Item
  | .character meant => ofCharacter flags meant
  | .members meant => leaf (.character meant)
  | .condition meant => leaf (.gap meant)

/-- The part for a point, which stands for bytes and not for characters where kinds do not reach
beyond ASCII; there is no such part. -/
def ofPoint? (flags : Flags) : Option Item :=
  let excluded : CharSet :=
    if flags.contains .pointForAll then .empty
    else if flags.contains .returns then .ofRanges [('\n', '\n'), ('\r', '\r')]
    else .single '\n'
  if flags.contains .universal then some (leaf (.character (.others excluded))) else none

def ofStart (flags : Flags) : Item :=
  leaf (.gap (
    if !flags.contains .linewise then .textStart
    else if flags.contains .returns then .returnStart
    else .lineStart))

def ofEnd (flags : Flags) : Item :=
  leaf (.gap (
    if !flags.contains .linewise then .textEnd
    else if flags.contains .returns then .returnEnd
    else .lineEnd))

def repeated (place : Nat) (count : Count) (greedy : Bool) (item : Item) : Item :=
  ⟨⟨ofRepeated place count greedy item.pattern.value, item.pattern.depth + 1⟩, true⟩

/-- The sequence of some parts, given the last one first. -/
def sequenceOf (items : List Item) : Nested Pattern :=
  let parts := items.reverse.map (·.pattern)
  ⟨ofSequence (parts.map (·.value)), Nested.depthOf parts⟩

/-- The choice among some alternatives, given the last one first, which is preferred least. -/
def choiceOf (place : Nat) (alternatives : List (Nested Pattern)) : Nested Pattern :=
  let patterns := alternatives.reverse.map (·.value)
  let bound := patterns.foldl (fun total pattern => total + pattern.size) 0
  ⟨ofChoice place bound patterns, Nested.depthOf alternatives⟩

end Item

/-- A group that is open, or the whole pattern: whether it is told apart from other groups, the
flags behind it, its finished alternatives and the parts of the one that is read, both with the
last one first. -/
structure OpenGroup where
  isNumbered : Bool
  flagsBehind : Flags
  finished : List (Nested Pattern)
  items : List Item
  deriving DecidableEq, Repr

namespace OpenGroup

def push (group : OpenGroup) (item : Item) : OpenGroup :=
  { group with items := item :: group.items }

def nextAlternative (group : OpenGroup) : OpenGroup :=
  { group with finished := Item.sequenceOf group.items :: group.finished, items := [] }

def whole (place : Nat) (group : OpenGroup) : Nested Pattern :=
  Item.choiceOf place group.nextAlternative.finished

end OpenGroup

/-- What has been read of a pattern: the flags that are set, the names of groups, and the open
groups, the innermost one apart. -/
structure Progress where
  flags : Flags
  names : List Text
  inner : OpenGroup
  outer : List OpenGroup
  deriving DecidableEq, Repr

namespace Progress

def start : Progress :=
  ⟨.standing, [], ⟨false, .standing, [], []⟩, []⟩

def push (progress : Progress) (item : Item) : Progress :=
  { progress with inner := progress.inner.push item }

def openGroup (progress : Progress) (isNumbered : Bool) (flags : Flags) : Progress :=
  { progress with
    flags
    inner := ⟨isNumbered, progress.flags, [], []⟩
    outer := progress.inner :: progress.outer }

def closeGroup? (place : Nat) (progress : Progress) : Option Progress :=
  match progress.outer with
  | [] => none
  | parent :: others =>
    let whole := progress.inner.whole place
    let group := if progress.inner.isNumbered then .group place whole.value else whole.value
    some { progress with
      flags := progress.inner.flagsBehind
      inner := parent.push ⟨⟨group, whole.depth + 1⟩, true⟩
      outer := others }

/-- The number of the place in front of a text, counted from the end. The end itself is zero. -/
def placeBefore (after : Text) : Nat :=
  after.length + 1

/-- The last part is repeated. A question mark behind the repetition turns its preference. -/
def repeatLast? (progress : Progress) (count : Count) (after : Text) : Option (Progress × Text) :=
  match progress.inner.items with
  | [] => none
  | last :: earlier =>
    if !last.isRepeatable then none
    else
      let (isTurned, rest) :=
        match after with
        | '?' :: rest => (true, rest)
        | _ => (false, after)
      let greedy := isTurned == progress.flags.contains .reluctant
      let repeated := last.repeated (placeBefore after) count greedy
      let inner := { progress.inner with items := repeated :: earlier }
      some ({ progress with inner }, rest)

/-- Whether a name of a group may hold a character, as its first one or later. -/
def isNamePart (isFirst : Bool) (tested : Char) : Bool :=
  tested == '_' ||
    if isFirst then Text.isAlphabetic tested
    else Text.isAlphanumeric tested || tested == '.' || tested == '[' || tested == ']'

def isName : Text → Bool
  | [] => false
  | head :: tail => isNamePart true head && tail.all (isNamePart false)

/-- A group with a name that no other group has. -/
def readName? (progress : Progress) (written : Text) : Option (Progress × Text) :=
  let name := written.takeWhile (· ≠ '>')
  match written.dropWhile (· ≠ '>') with
  | [] => none
  | _ :: rest =>
    if isName name ∧ name ∉ progress.names then
      some (({ progress with names := name :: progress.names }).openGroup true progress.flags, rest)
    else
      none

/-- A group with flags of its own, or a change of flags up to the end of the open group. A change
has to change a flag. -/
def readFlags? (progress : Progress) (written : Text) : Option (Progress × Text) := do
  let (changes, rest) ← Flags.readChanges? true [] written
  let flags := progress.flags.changed changes
  match rest with
  | ':' :: rest => some (progress.openGroup false flags, rest)
  | ')' :: rest =>
    if changes.isEmpty then none
    else some (({ progress with flags }).push ⟨⟨empty, 0⟩, false⟩, rest)
  | _ => none

/-- What an opening parenthesis begins. There are no conditions on the text around a group. -/
def readGroup? (progress : Progress) (written : Text) : Option (Progress × Text) :=
  match progress.flags.skip written with
  | '?' :: '=' :: _ | '?' :: '!' :: _ | '?' :: '<' :: '=' :: _ | '?' :: '<' :: '!' :: _ => none
  | '?' :: 'P' :: '<' :: after | '?' :: '<' :: after => progress.readName? after
  | '?' :: after => progress.readFlags? after
  | inside => some (progress.openGroup true progress.flags, inside)

/-- What a mark means, with the text behind it. -/
def read? (progress : Progress) (mark : Char) (after : Text) : Option (Progress × Text) :=
  match mark with
  | '(' => progress.readGroup? after
  | ')' => (progress.closeGroup? (placeBefore after)).map fun closed => (closed, after)
  | '|' => some ({ progress with inner := progress.inner.nextAlternative }, after)
  | '[' =>
    (OpenSet.read? progress.flags after).map fun (members, rest) =>
      (progress.push ⟨⟨.character members.value, members.depth⟩, true⟩, rest)
  | '?' => progress.repeatLast? .atMostOnce after
  | '*' => progress.repeatLast? .anyNumber after
  | '+' => progress.repeatLast? .atLeastOnce after
  | '\x7b' => none
  | '\\' =>
    (Escape.read? progress.flags after).map fun (escape, rest) =>
      (progress.push (.ofEscape progress.flags escape), rest)
  | '.' => (Item.ofPoint? progress.flags).map fun item => (progress.push item, after)
  | '^' => some (progress.push (.ofStart progress.flags), after)
  | '$' => some (progress.push (.ofEnd progress.flags), after)
  | _ => some (progress.push (.ofCharacter progress.flags mark), after)

/-- The pattern that the rest of a text completes. The first argument bounds the number of
parts. -/
def readAll? : Nat → Progress → Text → Option (Nested Pattern)
  | 0, _, _ => none
  | bound + 1, progress, written =>
    match progress.flags.skip written with
    | [] => if progress.outer.isEmpty then some (progress.inner.whole 0) else none
    | mark :: after => do
      let (progress, rest) ← progress.read? mark after
      progress.readAll? bound rest

end Progress

def depthLimit : Nat := 250

def parse? (written : Text) : Option Pattern :=
  ((Progress.start.readAll? (written.length + 1) written).filter (·.depth ≤ depthLimit)).map
    (·.value)

/-- A pattern of more than the permitted depth is not read. -/
theorem exists_depth_le_of_parse? {written : Text} {pattern : Pattern}
    (parsed : parse? written = some pattern) :
    ∃ depth ≤ depthLimit,
      Progress.start.readAll? (written.length + 1) written = some ⟨pattern, depth⟩ := by
  obtain ⟨read, kept, rfl⟩ := Option.map_eq_some_iff.1 parsed
  obtain ⟨found, shallow⟩ := Option.filter_eq_some_iff.1 kept
  exact ⟨read.depth, of_decide_eq_true shallow, found⟩

end SourceCatalog.Pattern
