import SourceCatalog.Misfit
import SourceCatalog.Text.Place

/-!
# Refusals of a JSON document

A reader that refuses says why and how far it had come. The position is kept as what is left
of the document, so a reader needs to know nothing about what came before it.
-/

namespace SourceCatalog.Json

inductive Cause where
  | endInValue
  | endInObject
  | endInString
  | expectedColon
  | expectedCommaOrEnd
  | expectedWord
  | expectedValue
  | invalidEscape
  | invalidNumber
  | numberOutOfRange
  | controlCharacter
  | keyNotString
  | loneSurrogate
  | endInSurrogates
  | trailingComma
  | trailingCharacters
  | misfit (found : Misfit) (expected : Text)
  deriving DecidableEq, Repr

def Cause.message : Cause → Text
  | endInValue => "EOF while parsing a value".toList
  | endInObject => "EOF while parsing an object".toList
  | endInString => "EOF while parsing a string".toList
  | expectedColon => "expected `:`".toList
  | expectedCommaOrEnd => "expected `,` or `\x7d`".toList
  | expectedWord => "expected ident".toList
  | expectedValue => "expected value".toList
  | invalidEscape => "invalid escape".toList
  | invalidNumber => "invalid number".toList
  | numberOutOfRange => "number out of range".toList
  | controlCharacter =>
    "control character (\\u0000-\\u001F) found while parsing a string".toList
  | keyNotString => "key must be a string".toList
  | loneSurrogate => "lone leading surrogate in hex escape".toList
  | endInSurrogates => "unexpected end of hex escape".toList
  | trailingComma => "trailing comma".toList
  | trailingCharacters => "trailing characters".toList
  | misfit found expected => found.report expected

/-- A cause and the position it is reported at: some bytes into the rest of the document. -/
structure Refusal where
  cause : Cause
  rest : Text
  extra : Nat
  deriving DecidableEq, Repr

namespace Refusal

/-- A refusal where the reader stands. -/
def here (cause : Cause) (rest : Text) : Refusal := ⟨cause, rest, 0⟩

/-- A refusal of the next byte, if there is one. -/
def next (cause : Cause) (rest : Text) : Refusal := ⟨cause, rest, min 1 rest.length⟩

def place (document : Text) (refusal : Refusal) : Text.Place :=
  Text.Place.start.afterBytes
    (document.byteLength - refusal.rest.byteLength + refusal.extra) document

def message (document : Text) (refusal : Refusal) : Text :=
  let place := refusal.place document
  refusal.cause.message ++ " at line ".toList ++ Text.ofNat place.line ++
    " column ".toList ++ Text.ofNat place.column

end Refusal

/-- What a reader returns: what it read and the rest of the document, or a refusal. -/
abbrev Outcome (α : Type) := Except Refusal (α × Text)

def isSpace (tested : Char) : Bool :=
  tested == ' ' || tested == '\n' || tested == '\t' || tested == '\r'

/-- The text from its first visible character on. -/
def skipSpace (text : Text) : Text :=
  text.dropWhile isSpace

theorem length_skipSpace_le (text : Text) : (skipSpace text).length ≤ text.length :=
  (List.dropWhile_suffix isSpace).length_le

end SourceCatalog.Json
