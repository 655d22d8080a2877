import SourceCatalog.Json.Quoted
import SourceCatalog.Log.Filter

/-!
# Log lines

A shown event takes one line, either for people to read or as a JSON object.
-/

namespace SourceCatalog.Log

inductive Format where
  | text
  | json
  deriving DecidableEq, Repr

def Value.inText : Value → Text
  | number value => Text.ofNat value
  | text content => content

def Field.inText (field : Field) : Text :=
  field.name ++ ['='] ++ field.value.inText

def Span.inText (span : Span) : Text :=
  let fields := Text.join [' '] (span.fields.map Field.inText)
  span.name ++ (if fields.isEmpty then [] else ['{'] ++ fields ++ ['}']) ++ [':']

/-- An event as a text line. Level names are set flush right in five places. -/
def Event.inText (event : Event) : Text :=
  let spans := event.spans.flatMap Span.inText
  List.replicate (5 - event.level.name.length) ' ' ++ event.level.name ++ [' '] ++
    (if spans.isEmpty then [] else spans ++ [' ']) ++ event.message ++
    event.fields.flatMap fun field => ' ' :: field.inText

/-- An object whose values are already written. -/
def object (members : List (Text × Text)) : Text :=
  ['{'] ++ Text.join [','] (members.map fun (key, value) => Json.quoted key ++ [':'] ++ value) ++
    ['}']

def Value.inJson : Value → Text
  | number value => Text.ofNat value
  | text content => Json.quoted content

def Field.inJson (field : Field) : Text × Text :=
  (field.name, field.value.inJson)

def Span.inJson (span : Span) : Text :=
  object (span.fields.map Field.inJson ++ [("name".toList, Json.quoted span.name)])

/-- The spans of an event: the innermost one, and all of them. -/
def spanMembers (spans : List Span) : List (Text × Text) :=
  match spans.getLast? with
  | none => []
  | some innermost =>
    [("span".toList, innermost.inJson),
      ("spans".toList, ['['] ++ Text.join [','] (spans.map Span.inJson) ++ [']'])]

def Event.inJson (event : Event) : Text :=
  object ([("level".toList, Json.quoted event.level.name),
    ("fields".toList,
      object (("message".toList, Json.quoted event.message) :: event.fields.map Field.inJson)),
    ("target".toList, Json.quoted event.target)] ++ spanMembers event.spans)

def Format.line (format : Format) (event : Event) : Text :=
  match format with
  | text => event.inText
  | json => event.inJson

/-- The lines of the events that a filter shows. -/
def lines (format : Format) (filter : Filter) (events : List Event) : List Text :=
  (events.filterMap filter.apply).map format.line

end SourceCatalog.Log
