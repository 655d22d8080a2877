import SourceCatalog.Proofs.Json.Grammar

/-!
# The grammar of TOML strings

What a string spells is stated here rule by rule, as relations between a text, what its beginning
stands for, and the rest behind that. A string is basic or literal, by its quotes, and takes one
line or several, by their number.

Quotes inside a string on several lines are where a text could be cut in two ways. Those in front
of the closing ones belong to the string, up to two of them.
-/

namespace SourceCatalog.Toml

open Json (HexDigit)

def Visible (tested : Char) : Prop :=
  tested = '\t' ∨ 0x20 ≤ tested.toNat ∧ tested.toNat ≠ 0x7F

inductive Break : Text → Text → Prop
  | lineFeed {rest : Text} : Break ('\n' :: rest) rest
  | both {rest : Text} : Break ('\r' :: '\n' :: rest) rest

/-- The rest of a text behind some of the spaces and tabs that it begins with. -/
inductive Gaps : Text → Text → Prop
  | none (text : Text) : Gaps text text
  | more {head : Char} {text rest : Text} (gap : head = ' ' ∨ head = '\t') :
      Gaps text rest → Gaps (head :: text) rest

/-- The rest of a text behind some of the spaces, tabs and line breaks that it begins with. -/
inductive Blanks : Text → Text → Prop
  | none (text : Text) : Blanks text text
  | gap {head : Char} {text rest : Text} (gap : head = ' ' ∨ head = '\t') :
      Blanks text rest → Blanks (head :: text) rest
  | line {text middle rest : Text} : Break text middle → Blanks middle rest → Blanks text rest

def Open (text : Text) : Prop :=
  ∀ rest, ¬ Break text rest

def Solid (text : Text) : Prop :=
  (∀ head ∈ text.head?, head ≠ ' ' ∧ head ≠ '\t') ∧ Open text

inductive Code : Text → Nat → Prop
  | none : Code [] 0
  | more {digits : Text} {number value : Nat} {digit : Char} :
      Code digits number → HexDigit digit value → Code (digits ++ [digit]) (number * 16 + value)

/-- A character by a letter behind a backslash, or by its code in four or eight digits. -/
inductive Escape : Text → Char → Text → Prop
  | backspace {rest : Text} : Escape ('b' :: rest) '\x08' rest
  | tab {rest : Text} : Escape ('t' :: rest) '\t' rest
  | lineFeed {rest : Text} : Escape ('n' :: rest) '\n' rest
  | formFeed {rest : Text} : Escape ('f' :: rest) '\x0c' rest
  | carriageReturn {rest : Text} : Escape ('r' :: rest) '\r' rest
  | quote {rest : Text} : Escape ('"' :: rest) '"' rest
  | backslash {rest : Text} : Escape ('\\' :: rest) '\\' rest
  | short {digits rest : Text} {meant : Char} (four : digits.length = 4) :
      Code digits meant.toNat → Escape ('u' :: (digits ++ rest)) meant rest
  | long {digits rest : Text} {meant : Char} (eight : digits.length = 8) :
      Code digits meant.toNat → Escape ('U' :: (digits ++ rest)) meant rest

/-- The quotes of basic strings, which know escapes, and those of literal ones. -/
inductive Quote : Char → Bool → Prop
  | basic : Quote '"' true
  | literal : Quote '\'' false

inductive LinePart (quote : Char) (escapes : Bool) : Text → Text → Text → Prop
  | plain {head : Char} {rest : Text} (visible : Visible head) (noQuote : head ≠ quote)
      (noEscape : escapes = true → head ≠ '\\') : LinePart quote escapes (head :: rest) [head] rest
  | escape {text rest : Text} {meant : Char} (known : escapes = true) :
      Escape text meant rest → LinePart quote escapes ('\\' :: text) [meant] rest

inductive LineEnd (quote : Char) : Text → Text → Text → Prop
  | closing {rest : Text} : LineEnd quote (quote :: rest) [] rest

/-- A part of a string on several lines: a character, a line break, which counts as a line feed,
one or two quotes, or a line break behind a backslash, which goes away together with the blanks
around it. -/
inductive LinesPart (quote : Char) (escapes : Bool) : Text → Text → Text → Prop
  | part {text content rest : Text} :
      LinePart quote escapes text content rest → LinesPart quote escapes text content rest
  | newline {text rest : Text} : Break text rest → LinesPart quote escapes text ['\n'] rest
  | quotes {count : Nat} {rest : Text} (few : count = 1 ∨ count = 2)
      (apart : rest.head? ≠ some quote) :
      LinesPart quote escapes (List.replicate count quote ++ rest) (List.replicate count quote) rest
  | joined {text before behind rest : Text} (known : escapes = true) (solid : Solid rest) :
      Gaps text before → Break before behind → Blanks behind rest →
      LinesPart quote escapes ('\\' :: text) [] rest

/-- The closing quotes of a string on several lines, with up to two more in front of them. -/
inductive LinesEnd (quote : Char) : Text → Text → Text → Prop
  | closing {count : Nat} {rest : Text} (few : count ≤ 2)
      (all : count = 2 ∨ rest.head? ≠ some quote) :
      LinesEnd quote (List.replicate (count + 3) quote ++ rest) (List.replicate count quote) rest

inductive Spelled (part closing : Text → Text → Text → Prop) : Text → Text → Text → Prop
  | last {text content rest : Text} :
      closing text content rest → Spelled part closing text content rest
  | more {text content middle others rest : Text} :
      part text content middle → Spelled part closing middle others rest →
      Spelled part closing text (content ++ others) rest

/-- A string on one line, as keys and values have them. -/
inductive IsLineString : Text → Text → Text → Prop
  | quoted {quote : Char} {escapes : Bool} {text content rest : Text} (kind : Quote quote escapes) :
      Spelled (LinePart quote escapes) (LineEnd quote) text content rest →
      IsLineString (quote :: text) content rest

/-- The text behind the line break that may follow the opening quotes. -/
inductive Opened : Text → Text → Prop
  | newline {text rest : Text} : Break text rest → Opened text rest
  | same {text : Text} (isOpen : Open text) : Opened text text

/-- A string of any kind, as values have them. -/
inductive IsString : Text → Text → Text → Prop
  | line {text content rest : Text} (single : ∀ quote, ¬ [quote, quote, quote] <+: text) :
      IsLineString text content rest → IsString text content rest
  | lines {quote : Char} {escapes : Bool} {text body content rest : Text}
      (kind : Quote quote escapes) (opened : Opened text body) :
      Spelled (LinesPart quote escapes) (LinesEnd quote) body content rest →
      IsString (quote :: quote :: quote :: text) content rest

def IsBareKey (tested : Char) : Prop :=
  'A' ≤ tested ∧ tested ≤ 'Z' ∨ 'a' ≤ tested ∧ tested ≤ 'z' ∨ '0' ≤ tested ∧ tested ≤ '9' ∨
    tested = '_' ∨ tested = '-'

/-- One name of a key: a word, to its full length, or a string on one line. -/
inductive IsName : Text → Text → Text → Prop
  | bare {name rest : Text} (filled : name ≠ []) (bare : ∀ head ∈ name, IsBareKey head)
      (ends : ∀ head ∈ rest.head?, ¬ IsBareKey head) : IsName (name ++ rest) name rest
  | quoted {text name rest : Text} : IsLineString text name rest → IsName text name rest

/-- A text that assigns a string to a name, with the text of that string and the rest behind it. -/
inductive Assigns : Text → Text → Text → Text → Text → Prop
  | string {text name after behind value content rest : Text} :
      IsName text name after → Gaps after ('=' :: behind) → Gaps behind value →
      IsString value content rest → Assigns text name value content rest

end SourceCatalog.Toml
