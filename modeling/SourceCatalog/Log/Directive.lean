import SourceCatalog.Log.Event
import SourceCatalog.Pattern.Reader
import SourceCatalog.Pattern.Search
import SourceCatalog.Text.Utf8

/-!
# Directives

A directive says up to which level events are shown: the events of a target, or those within a
span. It is written `target[span{field=value}]=level`, and each part of it may be missing. The
value is a truth value, a number or a pattern that texts are searched for.
-/

namespace SourceCatalog.Log

inductive Wanted where
  | anything
  | number (value : Nat)
  /-- a truth value, or a number that is no count; no field has one -/
  | literal
  /-- a text that ends with the best match of a pattern, which is given as it is written too -/
  | text (written : Text) (pattern : Pattern)
  deriving DecidableEq, Repr

/-- A number without a sign, or behind a plus sign. -/
def count? (word : Text) : Option Nat :=
  match word with
  | '+' :: digits => Text.numeral? 10 digits
  | digits => Text.numeral? 10 digits

namespace Wanted

/-- Whether a value is one that is asked for. -/
def accepts : Wanted → Value → Bool
  | anything, _ => true
  | number wanted, .number value => wanted == value
  | text _ pattern, .text content => pattern.ends content
  | _, _ => false

def unsigned : Text → Text
  | '+' :: word | '-' :: word => word
  | word => word

def isDigits (word : Text) : Bool :=
  !word.isEmpty && word.all Char.isDigit

/-- Whether a word is a decimal: digits, with a point at most, and perhaps an exponent. -/
def isDecimal (word : Text) : Bool :=
  let isScale (mark : Char) : Bool := mark == 'e' || mark == 'E'
  let mantissa := word.takeWhile (!isScale ·)
  let isMantissa :=
    match Text.pieces '.' mantissa with
    | [whole] => isDigits whole
    | [whole, fraction] => isDigits (whole ++ fraction)
    | _ => false
  isMantissa &&
    match word.dropWhile (!isScale ·) with
    | [] => true
    | _ :: exponent => isDigits (unsigned exponent)

/-- Whether a word is a number: a decimal or a word for infinity or for no number, in any case,
each perhaps behind a sign. -/
def isNumber (word : Text) : Bool :=
  isDecimal (unsigned word) ||
    ["inf".toList, "infinity".toList, "nan".toList].contains ((unsigned word).map Char.toLower)

def isTruth (word : Text) : Bool :=
  word = "true".toList || word = "false".toList

def countLimit : Nat := Nat.pow 2 64 - 1

/-- What a word asks for. A word that is neither a truth value nor a number is a pattern. -/
def ofText? (word : Text) : Option Wanted :=
  match (count? word).filter (· ≤ countLimit) with
  | some value => some (.number value)
  | none =>
    if isTruth word || isNumber word then some .literal
    else (Pattern.parse? word).map (.text word)

end Wanted

/-- A condition on fields: one has the name and a value that is asked for. -/
structure FieldTest where
  name : Text
  wanted : Wanted
  deriving DecidableEq, Repr

namespace FieldTest

def isNamed (test : FieldTest) (fields : List Field) : Bool :=
  fields.any (·.name == test.name)

def isMet (test : FieldTest) (fields : List Field) : Bool :=
  fields.any fun field => field.name == test.name && test.wanted.accepts field.value

/-- The condition that a text writes: a name, or a name and a value behind an equals sign. What
follows another equals sign means nothing. -/
def ofText? (written : Text) : Option FieldTest :=
  match Text.pieces '=' written with
  | name :: value :: _ => (Wanted.ofText? value).map fun wanted => ⟨name, wanted⟩
  | _ => some ⟨written, .anything⟩

end FieldTest

/-! ## Directives -/

/-- Show events up to a level, given by its rank; rank zero shows none. The events are those of the
targets that begin with the given one and, if a span or a field is named, within such a span. -/
structure Directive where
  target : Text
  span : Option Text
  field : Option FieldTest
  rank : Nat
  deriving DecidableEq, Repr

namespace Directive

def ofTarget (target : Text) (rank : Nat) : Directive :=
  ⟨target, none, none, rank⟩

def isScoped (directive : Directive) : Bool :=
  directive.span.isSome || directive.field.isSome

/-- Whether a directive holds everywhere. One with a field does so, for events with that field, as
long as it neither names a span nor tests a value. -/
def isGeneral (directive : Directive) : Bool :=
  directive.span.isNone && directive.field.all (·.wanted = .anything)

/-- Whether a directive decides over spans of a target. -/
def decidesTarget (directive : Directive) (target : Text) : Bool :=
  directive.isGeneral && directive.target.isPrefixOf target

/-- Whether a directive decides over an event. The message counts as a field. -/
def decidesEvent (directive : Directive) (event : Event) : Bool :=
  directive.decidesTarget event.target &&
    directive.field.all (·.isNamed (.plain "message" event.message :: event.fields))

def names (directive : Directive) (span : Span) : Bool :=
  directive.isScoped && directive.target.isPrefixOf span.target &&
    directive.span.all (· == span.name) && directive.field.all (·.isNamed span.fields)

def holdsWithin (directive : Directive) (span : Span) : Bool :=
  directive.names span && directive.field.all (·.isMet span.fields)

/-- Whether a directive gives way to another one that decides too: the other one has a longer
target, or one as long and a field more, or a field whose name is later in the order of texts. -/
def yieldsTo (directive other : Directive) : Bool :=
  directive.target.length < other.target.length ||
    (directive.target.length == other.target.length &&
      match directive.field, other.field with
      | none, some _ => true
      | some test, some otherTest => test.name < otherTest.name
      | _, none => false)

/-- Whether two directives are for the same events and can differ in their level alone. -/
def isLike (directive other : Directive) : Bool :=
  directive.target == other.target && directive.span == other.span &&
    directive.field == other.field

/-- The rank that a word means: the name of a level in any case, its rank, or `off`. -/
def rankOf? (word : Text) : Option Nat :=
  let upper := word.map Char.toUpper
  if upper = "OFF".toList then some 0
  else
    match Level.all.find? (·.name == upper) with
    | some level => some level.rank
    | none => (count? word).filter (· ≤ Level.trace.rank)

/-- The rank that the last word of a directive means. Without a word all levels are shown. -/
def lastRank? (word : Text) : Option Nat :=
  if word.isEmpty then some Level.trace.rank else rankOf? word

/-- A byte of a written directive: the one that is looked at to find the parts, and the one that
the parts are made of. -/
abbrev Cell := UInt8 × UInt8

def Cell.shows (cell : Cell) (mark : Char) : Bool :=
  cell.1.toNat == mark.toNat

def part? (cells : List Cell) : Option Text :=
  Text.decode? (cells.map Prod.snd)

/-- Cut cells before the first of some marks. -/
def cutAt (marks : List Char) (cells : List Cell) : List Cell × List Cell :=
  cells.span fun cell => !marks.any cell.shows

/-- The directive with the part that follows its scope: nothing, or a level behind an equals sign.
The bytes after the cells belong to the level. -/
def finish? (directive : Directive) (after : List UInt8) : List Cell → Option Directive
  | [] => some directive
  | mark :: word =>
    if mark.shows '=' then do
      let written ← Text.decode? (word.map Prod.snd ++ after)
      (lastRank? written).map fun rank => { directive with rank }
    else
      none

/-- The directive with a scope, from the cells behind the opening bracket. -/
def scoped? (target : Text) (after : List UInt8) (cells : List Cell) : Option Directive := do
  let (nameCells, others) := cutAt [']', '\x7b'] cells
  let name ← part? nameCells
  let shown := Level.trace.rank
  match others with
  | [] => none
  | mark :: inner =>
    if mark.shows ']' then finish? ⟨target, some name, none, shown⟩ after inner
    else
      let span := if name.isEmpty then none else some name
      let (field, closing) := cutAt ['\x7d'] inner
      match closing with
      | _ :: bracket :: level =>
        if field.isEmpty || !bracket.shows ']' then none
        else
          let test ← FieldTest.ofText? (← part? field)
          finish? ⟨target, span, some test, shown⟩ after level
      | _ => none

/-- The directive of a word alone: a level for all targets, or a target that is shown in full. -/
def ofWord (word : Text) : Directive :=
  match rankOf? word with
  | some rank => .ofTarget [] rank
  | none => .ofTarget word Level.trace.rank

def opens (first : Char) : Bool :=
  first == '-' || first == ':' || first == '_' || Text.isAlphanumeric first

/-- The directive that a text writes. Its parts are found in the trimmed text, and then taken from
the same bytes of the text as it stands; what is left over at the end belongs to the last
part. So a text with blanks at its ends has other parts than the trimmed one. -/
def parse? (written : Text) : Option Directive :=
  let trimmed := Text.trim written
  let bytes := Text.encode written
  let cells : List Cell := (Text.encode trimmed).zip bytes
  let after := bytes.drop cells.length
  match trimmed with
  | [] => none
  | '[' :: _ => scoped? [] after (cells.drop 1)
  | first :: _ =>
    if !opens first then none
    else
      let (targetCells, rest) := cutAt ['=', '['] cells
      match rest with
      | [] => some (ofWord written)
      | mark :: inner => do
        let target ← part? targetCells
        if mark.shows '[' then scoped? target after inner
        else finish? (.ofTarget target 0) after rest

end Directive

end SourceCatalog.Log
