import SourceCatalog.Json.Quoted
import SourceCatalog.Keyword.Body
import SourceCatalog.Source.Normal

/-!
# Token documents

The records of an enumeration, written as a text with one line each or as a JSON object.
-/

namespace SourceCatalog.Keyword

inductive Format where
  | text
  | json
  deriving DecidableEq, Repr

def header : Text := "Keywords:".toList

/-- The line of a record, with the line feed in front of it. -/
def Record.line (record : Record) : Text :=
  "\n - ".toList ++ record.name ++ ": \"".toList ++ record.value ++ "\"".toList

def renderText (records : List Record) : Text :=
  header ++ records.flatMap Record.line

/-- A record as an object, indented twice. -/
def Record.object (record : Record) : Text :=
  "    \x7b\n      \"name\": ".toList ++ Json.quoted record.name ++
    ",\n      \"value\": ".toList ++ Json.quoted record.value ++ "\n    \x7d".toList

def renderArray (records : List Record) : Text :=
  if records.isEmpty then
    "[]".toList
  else
    "[\n".toList ++ Text.join ",\n".toList (records.map Record.object) ++ "\n  ]".toList

/-- An object with the list of records under the key `keywords`, indented by two spaces. -/
def keywordsObject (records : List Record) : Text :=
  "\x7b\n  \"keywords\": ".toList ++ renderArray records ++ "\n\x7d".toList

/-- Write the object down, or say why it has no JSON form. Objects of texts all have one. -/
def writeObject (records : List Record) : Except Text Text :=
  .ok (keywordsObject records)

def renderJson (records : List Record) : Except Fault Text :=
  (writeObject records).mapError .serialization

def Format.render (format : Format) (records : List Record) : Except Fault Text :=
  match format with
  | text => .ok (renderText records)
  | json => renderJson records

/-- Both formats can show any records. -/
theorem Format.exists_render (format : Format) (records : List Record) :
    ∃ text, format.render records = .ok text := by
  cases format with
  | text => exact ⟨renderText records, rfl⟩
  | json => exact ⟨keywordsObject records, rfl⟩

def document (source : Text) (format : Format) : Except Fault (List Record × Text) :=
  (extract (Source.normalize source)).bind fun records =>
    (format.render records).map fun text => (records, text)

/-- A document is that of the records found in the normal form of the source. -/
theorem document_eq_ok_iff {source text : Text} {format : Format} {records : List Record} :
    document source format = .ok (records, text) ↔
      extract (Source.normalize source) = .ok records ∧ format.render records = .ok text := by
  rw [document]
  constructor
  · intro found
    cases extracted : extract (Source.normalize source) with
    | error fault =>
      rw [extracted] at found
      cases found
    | ok known =>
      cases rendered : format.render known with
      | error fault =>
        rw [extracted, Except.bind, rendered] at found
        cases found
      | ok shown =>
        rw [extracted, Except.bind, rendered] at found
        cases found
        exact ⟨rfl, rendered⟩
  · rintro ⟨extracted, rendered⟩
    rw [extracted, Except.bind, rendered]
    rfl

end SourceCatalog.Keyword
