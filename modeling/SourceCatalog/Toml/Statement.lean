import SourceCatalog.Toml.Value

/-!
# Reading the statements of a TOML document

A statement takes one line, or several if a value does: it assigns a value to a key, or it
opens the table that the following assignments belong to.
-/

namespace SourceCatalog.Toml

/-- A statement. Positions are given as the number of characters left in the document. -/
inductive Statement where
  | assign (path : KeyPath) (value : Value) (left : Nat)
  | openTable (path : KeyPath) (left : Nat)
  | openElement (path : KeyPath) (left : Nat)
  deriving DecidableEq, Repr

def readAssigned (path : KeyPath) : Text → Read Statement
  | '=' :: tail =>
    let start := skipGap tail
    (readValue start).map fun (value, rest) => (.assign path value start.length, rest)
  | _ => none

def readStatement : Text → Read Statement
  | '[' :: '[' :: tail =>
    match readPath tail with
    | some (path, ']' :: ']' :: rest) => some (.openElement path (tail.length + 2), rest)
    | _ => none
  | '[' :: tail =>
    match readPath tail with
    | some (path, ']' :: rest) => some (.openTable path (tail.length + 1), rest)
    | _ => none
  | text =>
    match readPath text with
    | some (path, rest) => readAssigned path rest
    | none => none

def readLine (text : Text) : Read (List Statement) :=
  match finishLine? text with
  | some rest => some ([], rest)
  | none =>
    match readStatement (skipGap text) with
    | none => none
    | some (statement, after) => (finishLine? after).map fun rest => ([statement], rest)

/-- The statements of at most some number of lines, up to the end of the document. -/
def readLines : Nat → Text → Option (List Statement)
  | _, [] => some []
  | 0, _ => none
  | lines + 1, text =>
    match readLine text with
    | none => none
    | some (statements, rest) => (readLines lines rest).map fun others => statements ++ others

/-- The mark of the byte order, which may open a document. -/
def byteOrderMark : Char := Char.ofNat 0xFEFF

def skipMark : Text → Text
  | head :: tail => if head = byteOrderMark then tail else head :: tail
  | [] => []

def statements (document : Text) : Option (List Statement) :=
  readLines document.length (skipMark document)

end SourceCatalog.Toml
