import SourceCatalog.Text.Digits
import SourceCatalog.Toml.Line

/-!
# Reading the strings of a TOML document

A string is read piece by piece. Basic strings know escapes, literal ones do not; either may
be written over several lines between triple quotes. There, one or two quotes may stand
anywhere, also right before the closing ones.
-/

namespace SourceCatalog.Toml

/-- A piece of a string, or the last piece together with the closing quotes. -/
inductive Piece where
  | inner (content : Text)
  | last (content : Text)
  deriving DecidableEq, Repr

/-- Read pieces up to the last one, but no more than some number of them. -/
def readPieces (readPiece : Text → Read Piece) : Nat → Text → Read Text
  | 0, _ => none
  | pieces + 1, text =>
    match readPiece text with
    | none => none
    | some (.last content, rest) => some (content, rest)
    | some (.inner content, rest) =>
      (readPieces readPiece pieces rest).map fun (others, after) => (content ++ others, after)

/-- Read a string piece by piece. Each piece takes a character at least, so there are no more
of them than characters. -/
def readAll (readPiece : Text → Read Piece) (text : Text) : Read Text :=
  readPieces readPiece text.length text

def shortEscapes : List (Char × Char) :=
  [('b', '\x08'), ('t', '\t'), ('n', '\n'), ('f', '\x0c'), ('r', '\r'), ('"', '"'),
    ('\\', '\\')]

def readCode (digits : Nat) (text : Text) : Read Piece :=
  match Text.numeral? 16 (text.take digits) with
  | some code =>
    if digits ≤ text.length ∧ code.isValidChar then
      some (.inner [Char.ofNat code], text.drop digits)
    else
      none
  | none => none

def readEscape : Text → Read Piece
  | [] => none
  | head :: tail =>
    if head = 'u' then readCode 4 tail
    else if head = 'U' then readCode 8 tail
    else (shortEscapes.lookup head).map fun meant => (.inner [meant], tail)

def readBasicPiece : Text → Read Piece
  | [] => none
  | '"' :: tail => some (.last [], tail)
  | '\\' :: tail => readEscape tail
  | head :: tail => if isPlain head then some (.inner [head], tail) else none

def readLiteralPiece : Text → Read Piece
  | [] => none
  | '\'' :: tail => some (.last [], tail)
  | head :: tail => if isPlain head then some (.inner [head], tail) else none

/-- Read a run of quotes: the closing three, with up to two more before them, or fewer than
three that belong to the string. -/
def readQuotes (quote : Char) (text : Text) : Read Piece :=
  let run := (text.takeWhile (· == quote)).length
  if run < 3 then some (.inner (text.take run), text.drop run)
  else some (.last (text.take (min (run - 3) 2)), text.drop (min run 5))

def readLinePiece (text : Text) : Read Piece :=
  match newline? text with
  | some rest => some (.inner ['\n'], rest)
  | none =>
    match text with
    | [] => none
    | head :: tail => if isPlain head then some (.inner [head], tail) else none

/-- Read the rest of an escape after the backslash. An escaped line break goes away together
with the blanks around it. -/
def readLineEscape (text : Text) : Read Piece :=
  match newline? (skipGap text) with
  | some rest => some (.inner [], skipBlankLines rest)
  | none => readEscape text

def readBasicLines : Text → Read Piece
  | '"' :: tail => readQuotes '"' ('"' :: tail)
  | '\\' :: tail => readLineEscape tail
  | text => readLinePiece text

def readLiteralLines : Text → Read Piece
  | '\'' :: tail => readQuotes '\'' ('\'' :: tail)
  | text => readLinePiece text

def skipNewline (text : Text) : Text :=
  (newline? text).getD text

def readLineString : Text → Read Text
  | '"' :: tail => readAll readBasicPiece tail
  | '\'' :: tail => readAll readLiteralPiece tail
  | _ => none

/-- Read a string of any kind. A line break right after opening triple quotes is dropped. -/
def readString : Text → Read Text
  | '"' :: '"' :: '"' :: tail => readAll readBasicLines (skipNewline tail)
  | '\'' :: '\'' :: '\'' :: tail => readAll readLiteralLines (skipNewline tail)
  | text => readLineString text

end SourceCatalog.Toml
