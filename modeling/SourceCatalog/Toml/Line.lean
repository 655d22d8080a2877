import SourceCatalog.Text.Basic

/-!
# Lines of a TOML document

Spaces and tabs are gaps. A line ends with a line feed, with a carriage return and a line
feed, or with the document; a comment reaches to the end of its line.
-/

namespace SourceCatalog.Toml

/-- What a reader returns: what it read and the rest of the document. A document that is not
well formed is not read any further. -/
abbrev Read (α : Type) := Option (α × Text)

/-- Whether a character may stand in comments and strings: anything but controls. -/
def isPlain (tested : Char) : Bool :=
  tested == '\t' || (0x20 ≤ tested.toNat && tested.toNat != 0x7F)

def isGap (tested : Char) : Bool :=
  tested == ' ' || tested == '\t'

def skipGap (text : Text) : Text :=
  text.dropWhile isGap

def newline? : Text → Option Text
  | '\n' :: tail => some tail
  | '\r' :: '\n' :: tail => some tail
  | _ => none

def skipComment : Text → Text
  | '#' :: tail => tail.dropWhile isPlain
  | text => text

/-- The text after the rest of a line that holds at most a comment. -/
def finishLine? (text : Text) : Option Text :=
  let after := skipComment (skipGap text)
  if after.isEmpty then some [] else newline? after

/-- Take a step as often as it is possible, up to some number of times. -/
def repeated (step : Text → Option Text) : Nat → Text → Text
  | 0, text => text
  | times + 1, text =>
    match step text with
    | some rest => repeated step times rest
    | none => text

def skipLines (text : Text) : Text :=
  skipGap (repeated (fun rest => newline? (skipComment (skipGap rest))) text.length text)

def skipBlankLines (text : Text) : Text :=
  skipGap (repeated (fun rest => newline? (skipGap rest)) text.length text)

end SourceCatalog.Toml
