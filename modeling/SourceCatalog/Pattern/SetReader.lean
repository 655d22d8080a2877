import SourceCatalog.Pattern.Escape

/-!
# Sets in brackets

A set of characters is written in square brackets: its members, ranges of them, kinds and further
sets, and between those operations that join what is on their two sides, the first ones first.
-/

namespace SourceCatalog.Pattern

/-- A part of what is written, and how deeply other parts are nested in it. -/
structure Nested (α : Type) where
  value : α
  depth : Nat
  deriving DecidableEq, Repr

/-- How deeply parts are nested that stand side by side. One part alone adds nothing. -/
def Nested.depthOf {α : Type} : List (Nested α) → Nat
  | [] => 0
  | [only] => only.depth
  | parts => parts.foldl (fun deepest part => max deepest part.depth) 0 + 1

/-- A set whose closing bracket is still to come: what is on the left of an operation, and what
has been read since. -/
structure OpenSet where
  negated : Bool
  left : Option (Operation × Nested CharSet)
  items : List (Nested CharSet)
  deriving DecidableEq, Repr

namespace OpenSet

def push (opened : OpenSet) (item : Nested CharSet) : OpenSet :=
  { opened with items := item :: opened.items }

def whole (flags : Flags) (opened : OpenSet) : Nested CharSet :=
  let read : Nested CharSet :=
    ⟨.unionOf (opened.items.reverse.map (·.value)), Nested.depthOf opened.items⟩
  match opened.left with
  | none => read
  | some (operation, left) =>
    ⟨.combined operation (flags.cased left.value) (flags.cased read.value),
      max left.depth read.depth + 1⟩

def operate (flags : Flags) (operation : Operation) (opened : OpenSet) : OpenSet :=
  { opened with left := some (operation, opened.whole flags), items := [] }

def close? (flags : Flags) (opened : OpenSet) : Option (Nested CharSet) :=
  let whole := opened.whole flags
  (flags.orOthers? opened.negated (flags.cased whole.value)).map fun members =>
    ⟨members, whole.depth + 1⟩

/-- The hyphens at the beginning of a set, which are members. The first argument bounds their
number. -/
def readHyphens (flags : Flags) : Nat → OpenSet → Text → OpenSet × Text
  | bound + 1, opened, '-' :: after =>
    readHyphens flags bound (opened.push ⟨.single '-', 0⟩) (flags.skip after)
  | _, opened, written => (opened, written)

/-- The beginning of a set, behind its bracket. A closing bracket that comes first is a member. -/
def begin (flags : Flags) (written : Text) : OpenSet × Text :=
  let (negated, inside) :=
    match flags.skip written with
    | '^' :: after => (true, flags.skip after)
    | inside => (false, inside)
  let (opened, rest) := readHyphens flags inside.length ⟨negated, none, []⟩ inside
  match opened.items, rest with
  | [], ']' :: after => (opened.push ⟨.single ']', 0⟩, flags.skip after)
  | _, _ => (opened, rest)

def readMember? (flags : Flags) : Text → Option (Escape × Text)
  | [] => none
  | '\\' :: after => Escape.read? flags after
  | head :: after => some (.character head, after)

/-- The range between two characters. It holds ASCII characters only, where kinds do not reach
beyond them. -/
def range? (flags : Flags) (first last : Char) : Option CharSet :=
  if first ≤ last ∧ (flags.contains .universal ∨ last.toNat < 0x80) then some (.range first last)
  else none

def alone? (flags : Flags) : Escape → Option CharSet
  | .character meant => range? flags meant meant
  | .members meant => some meant
  | .condition _ => none

/-- A member or a range. A hyphen makes a range unless a closing bracket or another hyphen is
behind it. -/
def readItem? (flags : Flags) (written : Text) : Option (CharSet × Text) := do
  let (first, rest) ← readMember? flags written
  match flags.skip rest with
  | '-' :: after =>
    let behind := flags.peek after
    if behind = some ']' ∨ behind = some '-' then
      (alone? flags first).map fun members => (members, '-' :: after)
    else
      let (last, rest) ← readMember? flags (flags.skip after)
      match first, last with
      | .character first, .character last =>
        (range? flags first last).map fun members => (members, rest)
      | _, _ => none
  | rest => (alone? flags first).map fun members => (members, rest)

/-- A name between colons and a closing bracket, and whether what it names is left out. -/
def readName? : Text → Option (Bool × CharSet × Text)
  | ':' :: written =>
    let (negated, word) :=
      match written with
      | '^' :: after => (true, after)
      | _ => (false, written)
    match word.dropWhile (· ≠ ':') with
    | ':' :: ']' :: rest =>
      (CharSet.named? (word.takeWhile (· ≠ ':'))).map fun members => (negated, members, rest)
    | _ => none
  | _ => none

def readOperation? : Text → Option (Operation × Text)
  | '&' :: '&' :: rest => some (.intersection, rest)
  | '-' :: '-' :: rest => some (.difference, rest)
  | '~' :: '~' :: rest => some (.exclusion, rest)
  | _ => none

/-- The rest of a set that is open within others. The first argument bounds the number of items
and brackets. -/
def readRest? (flags : Flags) :
    Nat → OpenSet → List OpenSet → Text → Option (Nested CharSet × Text)
  | 0, _, _, _ => none
  | bound + 1, opened, outer, written =>
    match flags.skip written with
    | [] => none
    | '[' :: after =>
      match readName? after with
      | some (negated, members, rest) => do
        let members ← flags.orOthers? negated (flags.cased members)
        readRest? flags bound (opened.push ⟨members, 0⟩) outer rest
      | none =>
        let (inner, rest) := begin flags after
        readRest? flags bound inner (opened :: outer) rest
    | ']' :: after => do
      let closed ← opened.close? flags
      match outer with
      | [] => some (closed, after)
      | parent :: others => readRest? flags bound (parent.push closed) others after
    | inside =>
      match readOperation? inside with
      | some (operation, rest) =>
        readRest? flags bound (opened.operate flags operation) outer rest
      | none => do
        let (members, rest) ← readItem? flags inside
        readRest? flags bound (opened.push ⟨members, 0⟩) outer rest

def read? (flags : Flags) (written : Text) : Option (Nested CharSet × Text) :=
  let (opened, rest) := begin flags written
  readRest? flags (rest.length + 1) opened [] rest

end OpenSet

end SourceCatalog.Pattern
