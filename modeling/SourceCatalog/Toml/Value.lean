import SourceCatalog.Toml.Bare
import SourceCatalog.Toml.StringReader

/-!
# Reading the keys and values of a TOML document

Of a value that is no string only its kind is kept: nothing in this library uses its contents.
They must be well formed all the same, and the keys of an inline table must not collide.
-/

namespace SourceCatalog.Toml

/-- One part of a dotted key, with the number of characters left in the document where it
begins. -/
structure Key where
  name : Text
  left : Nat
  deriving DecidableEq, Repr

/-- A dotted key: the names of the tables it leads through, and its last name. -/
structure KeyPath where
  parents : List Key
  last : Key
  deriving DecidableEq, Repr

/-- The number of parts from which on a dotted key is refused, and the number of levels from
which on nested values are. -/
def nestingLimit : Nat := 80

def isBareKey (tested : Char) : Bool :=
  tested.isAlphanum || tested == '_' || tested == '-'

def readName (text : Text) : Read Text :=
  if text.head? = some '"' ∨ text.head? = some '\'' then
    readLineString text
  else
    let name := text.takeWhile isBareKey
    if name.isEmpty then none else some (name, text.dropWhile isBareKey)

/-- Read at most some number of names with points between them and gaps around them. -/
def readParts : Nat → Text → Read KeyPath
  | 0, _ => none
  | parts + 1, text =>
    let start := skipGap text
    match readName start with
    | none => none
    | some (name, after) =>
      let key : Key := ⟨name, start.length⟩
      match skipGap after with
      | '.' :: rest =>
        (readParts parts rest).map fun (path, after) =>
          (⟨key :: path.parents, path.last⟩, after)
      | rest => some (⟨[], key⟩, rest)

def readPath (text : Text) : Read KeyPath :=
  readParts (nestingLimit - 1) text

def KeyPath.names (path : KeyPath) : List Text :=
  path.parents.map Key.name ++ [path.last.name]

inductive Value where
  | string (content : Text)
  | other (found : Misfit)
  deriving DecidableEq, Repr

def isBare (tested : Char) : Bool :=
  tested.isAlphanum || tested == '_' || tested == '-' || tested == '+' || tested == '.' ||
    tested == ':'

/-- Read a value without quotes. A time may follow a date after one space. -/
def readBare (text : Text) : Read Value :=
  let word := text.takeWhile isBare
  let rest := text.dropWhile isBare
  match rest with
  | ' ' :: more =>
    if isDate word && isOffsetTime (more.takeWhile isBare) then
      some (.other .map, more.dropWhile isBare)
    else
      (bareValue? word).map fun found => (.other found, rest)
  | _ => (bareValue? word).map fun found => (.other found, rest)

def readFlat (text : Text) : Read Value :=
  if text.head? = some '"' ∨ text.head? = some '\'' then
    (readString text).map fun (content, rest) => (.string content, rest)
  else
    readBare text

/-- The text after the elements of an array, of which there are at most some number, and its
closing bracket. -/
def afterElements? (read : Text → Read Value) : Nat → Text → Option Text
  | 0, _ => none
  | elements + 1, text =>
    match skipLines text with
    | ']' :: rest => some rest
    | start =>
      match read start with
      | none => none
      | some (_, after) =>
        match skipLines after with
        | ']' :: rest => some rest
        | ',' :: rest => afterElements? read elements rest
        | _ => none

/-- Read the pairs of an inline table, of which there are at most some number, and its closing
brace; what is kept are the keys. -/
def readPairs (read : Text → Read Value) : Nat → Text → Read (List (List Text))
  | 0, _ => none
  | pairs + 1, text =>
    match readPath text with
    | some (path, '=' :: afterSign) =>
      match read (skipGap afterSign) with
      | none => none
      | some (_, after) =>
        match skipGap after with
        | '}' :: rest => some ([path.names], rest)
        | ',' :: rest =>
          (readPairs read pairs rest).map fun (others, after) => (path.names :: others, after)
        | _ => none
    | _ => none

/-- Two keys collide if one of them leads to or through the other. -/
def collide (first second : List Text) : Bool :=
  first.isPrefixOf second || second.isPrefixOf first

def compatible : List (List Text) → Bool
  | [] => true
  | first :: others => !others.any (collide first) && compatible others

def afterPairs? (read : Text → Read Value) (text : Text) : Option Text :=
  match skipGap text with
  | '}' :: rest => some rest
  | start =>
    match readPairs read start.length start with
    | some (keys, rest) => if compatible keys then some rest else none
    | none => none

def readNested (read : Text → Read Value) : Text → Read Value
  | '[' :: tail => (afterElements? read tail.length tail).map fun rest => (.other .sequence, rest)
  | '{' :: tail => (afterPairs? read tail).map fun rest => (.other .map, rest)
  | text => readFlat text

/-- Read a value with at most some number of levels inside each other. -/
def readLevels : Nat → Text → Read Value
  | 0 => readFlat
  | levels + 1 => readNested (readLevels levels)

def readValue : Text → Read Value :=
  readLevels (nestingLimit - 1)

end SourceCatalog.Toml
