import SourceCatalog.Text.Basic

/-!
# The grammar of JSON

What a text says is stated here rule by rule, as relations between a text, what its beginning
stands for, and the rest behind that. Nothing is said about how a text is read: a rule may leave
several ways to go on, and only a whole derivation counts.
-/

namespace SourceCatalog.Json

/-- The rest of a text behind some of its blanks, or all of the text. -/
inductive Spaces : Text → Text → Prop
  | none (text : Text) : Spaces text text
  | more {head : Char} {text rest : Text}
      (blank : head = ' ' ∨ head = '\n' ∨ head = '\t' ∨ head = '\r') :
      Spaces text rest → Spaces (head :: text) rest

inductive HexDigit : Char → Nat → Prop
  | decimal {value : Nat} (small : value < 10) : HexDigit (Char.ofNat (0x30 + value)) value
  | lower {value : Nat} (small : value < 6) : HexDigit (Char.ofNat (0x61 + value)) (10 + value)
  | upper {value : Nat} (small : value < 6) : HexDigit (Char.ofNat (0x41 + value)) (10 + value)

/-- Four hexadecimal digits and the number they write. -/
inductive CodeUnit : Text → Nat → Text → Prop
  | digits {first second third fourth : Char} {high upper lower low : Nat} {rest : Text} :
      HexDigit first high → HexDigit second upper → HexDigit third lower →
      HexDigit fourth low →
      CodeUnit (first :: second :: third :: fourth :: rest)
        (high * 0x1000 + upper * 0x100 + lower * 0x10 + low) rest

/-- One character of a string: as it stands, by a letter behind a backslash, or by its code. A
code beyond four digits is written as a leading and a trailing surrogate. No character has the
code of a surrogate, so a surrogate on its own spells nothing. -/
inductive Spelled : Text → Char → Text → Prop
  | plain {meant : Char} {rest : Text} (visible : 0x20 ≤ meant.toNat) (noQuote : meant ≠ '"')
      (noBackslash : meant ≠ '\\') : Spelled (meant :: rest) meant rest
  | quote {rest : Text} : Spelled ('\\' :: '"' :: rest) '"' rest
  | backslash {rest : Text} : Spelled ('\\' :: '\\' :: rest) '\\' rest
  | slash {rest : Text} : Spelled ('\\' :: '/' :: rest) '/' rest
  | backspace {rest : Text} : Spelled ('\\' :: 'b' :: rest) '\x08' rest
  | formFeed {rest : Text} : Spelled ('\\' :: 'f' :: rest) '\x0c' rest
  | lineFeed {rest : Text} : Spelled ('\\' :: 'n' :: rest) '\n' rest
  | carriageReturn {rest : Text} : Spelled ('\\' :: 'r' :: rest) '\r' rest
  | tab {rest : Text} : Spelled ('\\' :: 't' :: rest) '\t' rest
  | code {meant : Char} {text rest : Text} :
      CodeUnit text meant.toNat rest → Spelled ('\\' :: 'u' :: text) meant rest
  | surrogates {meant : Char} {text middle rest : Text} (beyond : 0x10000 ≤ meant.toNat) :
      CodeUnit text (0xD800 + (meant.toNat - 0x10000) / 0x400) ('\\' :: 'u' :: middle) →
      CodeUnit middle (0xDC00 + (meant.toNat - 0x10000) % 0x400) rest →
      Spelled ('\\' :: 'u' :: text) meant rest

inductive Content : Text → Text → Text → Prop
  | ending {rest : Text} : Content ('"' :: rest) [] rest
  | more {text middle rest others : Text} {first : Char} :
      Spelled text first middle → Content middle others rest →
      Content text (first :: others) rest

def IsDigits (digits : Text) : Prop :=
  digits ≠ [] ∧ ∀ digit ∈ digits, '0' ≤ digit ∧ digit ≤ '9'

/-- A numeral: no zero stands in front of another digit, and digits stand on both sides of a
point. -/
inductive IsNumeral : Text → Prop
  | parts {sign whole fraction power : Text}
      (sign_eq : sign = [] ∨ sign = ['-'])
      (whole_eq : whole = ['0'] ∨ IsDigits whole ∧ whole.head? ≠ some '0')
      (fraction_eq : fraction = [] ∨ ∃ digits, IsDigits digits ∧ fraction = '.' :: digits)
      (power_eq : power = [] ∨ ∃ mark direction digits, (mark = 'e' ∨ mark = 'E') ∧
        (direction = [] ∨ direction = ['+'] ∨ direction = ['-']) ∧ IsDigits digits ∧
        power = mark :: (direction ++ digits)) :
      IsNumeral (sign ++ whole ++ fraction ++ power)

/-- What a document can say. A number is kept as it is written, and the members of an object stand
in the order of the text, with every key as often as it occurs. -/
inductive Value where
  | null
  | boolean (value : Bool)
  | number (written : Text)
  | string (content : Text)
  | array (items : List Value)
  | object (members : List (Text × Value))

/-- What a part of a document says. Items and members go with the bracket that closes them. -/
inductive Part where
  | value (value : Value)
  | items (items : List Value)
  | member (key : Text) (value : Value)
  | members (members : List (Text × Value))

/-- A text that begins with a part of a document, and the rest behind that part. -/
inductive Written : Text → Part → Text → Prop
  | nullWord {rest : Text} : Written ('n' :: 'u' :: 'l' :: 'l' :: rest) (.value .null) rest
  | trueWord {rest : Text} :
      Written ('t' :: 'r' :: 'u' :: 'e' :: rest) (.value (.boolean true)) rest
  | falseWord {rest : Text} :
      Written ('f' :: 'a' :: 'l' :: 's' :: 'e' :: rest) (.value (.boolean false)) rest
  | number {text written rest : Text} (numeral : IsNumeral written)
      (text_eq : text = written ++ rest) : Written text (.value (.number written)) rest
  | string {text content rest : Text} :
      Content text content rest → Written ('"' :: text) (.value (.string content)) rest
  | emptyArray {text rest : Text} :
      Spaces text (']' :: rest) → Written ('[' :: text) (.value (.array [])) rest
  | array {text inner rest : Text} {items : List Value} :
      Spaces text inner → Written inner (.items items) rest →
      Written ('[' :: text) (.value (.array items)) rest
  | lastItem {text after rest : Text} {value : Value} :
      Written text (.value value) after → Spaces after (']' :: rest) →
      Written text (.items [value]) rest
  | nextItem {text after next more rest : Text} {value : Value} {others : List Value} :
      Written text (.value value) after → Spaces after (',' :: next) → Spaces next more →
      Written more (.items others) rest → Written text (.items (value :: others)) rest
  | emptyObject {text rest : Text} :
      Spaces text ('\x7d' :: rest) → Written ('\x7b' :: text) (.value (.object [])) rest
  | object {text inner rest : Text} {members : List (Text × Value)} :
      Spaces text inner → Written inner (.members members) rest →
      Written ('\x7b' :: text) (.value (.object members)) rest
  | member {text key after next inner rest : Text} {value : Value} :
      Content text key after → Spaces after (':' :: next) → Spaces next inner →
      Written inner (.value value) rest → Written ('"' :: text) (.member key value) rest
  | lastMember {text after rest key : Text} {value : Value} :
      Written text (.member key value) after → Spaces after ('\x7d' :: rest) →
      Written text (.members [(key, value)]) rest
  | nextMember {text after next more rest key : Text} {value : Value}
      {others : List (Text × Value)} :
      Written text (.member key value) after → Spaces after (',' :: next) → Spaces next more →
      Written more (.members others) rest →
      Written text (.members ((key, value) :: others)) rest

/-- A document: a text that is one value, between blanks. -/
def IsDocument (text : Text) (value : Value) : Prop :=
  ∃ inner after, Spaces text inner ∧ Written inner (.value value) after ∧ Spaces after []

end SourceCatalog.Json
