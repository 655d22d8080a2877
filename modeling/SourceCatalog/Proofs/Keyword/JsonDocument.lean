import SourceCatalog.Keyword.Document
import SourceCatalog.Proofs.Json.Unambiguous

/-!
# What the JSON document of some records says

Whatever characters the records hold, the document says one thing: the list of the records under
the key `keywords`. So the records can be read back from it.
-/

namespace SourceCatalog.Keyword

open Json (Written Value IsDocument)

def Record.asValue (record : Record) : Value :=
  .object [("name".toList, .string record.name), ("value".toList, .string record.value)]

def keywordsValue (records : List Record) : Value :=
  .object [("keywords".toList, .array (records.map Record.asValue))]

theorem asValue_injective {record other : Record} (same : record.asValue = other.asValue) :
    record = other := by
  obtain ⟨name, value⟩ := record
  obtain ⟨otherName, otherValue⟩ := other
  simp only [Record.asValue, Value.object.injEq, List.cons.injEq, Prod.mk.injEq, true_and,
    Value.string.injEq, and_true] at same
  obtain ⟨rfl, rfl⟩ := same
  rfl

theorem keywordsValue_injective {records others : List Record}
    (same : keywordsValue records = keywordsValue others) : records = others := by
  simp only [keywordsValue, Value.object.injEq, List.cons.injEq, Prod.mk.injEq, true_and,
    Value.array.injEq, and_true] at same
  exact (List.map_inj_right fun _ _ => asValue_injective).1 same

variable {text rest : Text}

theorem spaces_append {blanks : Text} (blank : blanks.all Json.isSpace = true) (rest : Text) :
    Json.Spaces (blanks ++ rest) rest := by
  induction blanks with
  | nil => exact Json.Spaces.none rest
  | cons head tail inductionHypothesis =>
    rw [List.all_cons, Bool.and_eq_true] at blank
    exact Json.Spaces.more (Json.isSpace_iff.1 blank.1) (inductionHypothesis blank.2)

theorem spaces_lineFeed (spaces : Json.Spaces text rest) : Json.Spaces ('\n' :: text) rest :=
  Json.Spaces.more (Or.inr (Or.inl rfl)) spaces

theorem written_quoted (content rest : Text) :
    Written (Json.quoted content ++ rest) (.value (.string content)) rest := by
  rw [Json.quoted_append]
  exact Written.string (Json.content_escaped content rest)

theorem written_member {value : Value} (key : Text) (written : Written text (.value value) rest) :
    Written (Json.quoted key ++ ": ".toList ++ text) (.member key value) rest := by
  rw [List.append_assoc, Json.quoted_append]
  exact Written.member (Json.content_escaped key _) (Json.Spaces.none _)
    (Json.Spaces.more (Or.inl rfl) (Json.Spaces.none _)) written

/-- The layout of one record, token by token. -/
theorem object_append (record : Record) (rest : Text) :
    record.object ++ rest = "    ".toList ++ '\x7b' :: ("\n      ".toList ++
      (Json.quoted "name".toList ++ ": ".toList ++ (Json.quoted record.name ++
        ',' :: ("\n      ".toList ++ (Json.quoted "value".toList ++ ": ".toList ++
          (Json.quoted record.value ++ ("\n    ".toList ++ '\x7d' :: rest))))))) := by
  have opening : "    \x7b\n      \"name\": ".toList = "    ".toList ++
      '\x7b' :: ("\n      ".toList ++ (Json.quoted "name".toList ++ ": ".toList)) := by decide
  have middle : ",\n      \"value\": ".toList =
      ',' :: ("\n      ".toList ++ (Json.quoted "value".toList ++ ": ".toList)) := by decide
  have closing : "\n    \x7d".toList = "\n    ".toList ++ ['\x7d'] := by decide
  unfold Record.object
  simp only [opening, middle, closing]
  simp only [List.append_assoc, List.cons_append, List.nil_append]

theorem written_object (record : Record) (rest : Text) :
    ∃ inner, Json.Spaces (record.object ++ rest) inner ∧
      Written inner (.value record.asValue) rest := by
  rw [object_append]
  refine ⟨_, spaces_append rfl _, ?_⟩
  have indent (others : Text) : Json.Spaces ("\n      ".toList ++ others) others :=
    spaces_append rfl _
  have closed : Json.Spaces ("\n    ".toList ++ '\x7d' :: rest) ('\x7d' :: rest) :=
    spaces_append rfl _
  have shown := written_member "value".toList
    (written_quoted record.value ("\n    ".toList ++ '\x7d' :: rest))
  have named := written_member "name".toList (written_quoted record.name
    (',' :: ("\n      ".toList ++ (Json.quoted "value".toList ++ ": ".toList ++
      (Json.quoted record.value ++ ("\n    ".toList ++ '\x7d' :: rest))))))
  exact Written.object (indent _) (Written.nextMember named (Json.Spaces.none _) (indent _)
    (Written.lastMember shown closed))

/-- The items stand on lines of their own. -/
theorem written_items (first : Record) (others : List Record) (rest : Text) :
    ∃ inner,
      Json.Spaces (Text.join ",\n".toList ((first :: others).map Record.object) ++
        ("\n  ".toList ++ ']' :: rest)) inner ∧
      Written inner (.items ((first :: others).map Record.asValue)) rest := by
  induction others generalizing first with
  | nil =>
    obtain ⟨inner, spaces, written⟩ := written_object first ("\n  ".toList ++ ']' :: rest)
    exact ⟨inner, spaces, Written.lastItem written (spaces_append rfl _)⟩
  | cons second others inductionHypothesis =>
    obtain ⟨later, laterSpaces, laterWritten⟩ := inductionHypothesis second
    rw [List.map_cons, List.map_cons, Text.join_cons_of_ne_nil _ _ (List.cons_ne_nil _ _),
      List.append_assoc, List.append_assoc]
    obtain ⟨inner, spaces, written⟩ := written_object first (",\n".toList ++
      (Text.join ",\n".toList ((second :: others).map Record.object) ++
        ("\n  ".toList ++ ']' :: rest)))
    exact ⟨inner, spaces, Written.nextItem written (Json.Spaces.none _)
      (spaces_lineFeed laterSpaces) laterWritten⟩

theorem written_array (records : List Record) (rest : Text) :
    Written (renderArray records ++ rest) (.value (.array (records.map Record.asValue))) rest := by
  cases records with
  | nil => exact Written.emptyArray (Json.Spaces.none _)
  | cons first others =>
    obtain ⟨inner, spaces, written⟩ := written_items first others rest
    have layout : renderArray (first :: others) ++ rest =
        '[' :: '\n' :: (Text.join ",\n".toList ((first :: others).map Record.object) ++
          ("\n  ".toList ++ ']' :: rest)) := by
      rw [renderArray, if_neg (by simp), List.append_assoc, List.append_assoc]
      rfl
    rw [layout]
    exact Written.array (spaces_lineFeed spaces) written

/-- What is written down is a document that says the records. -/
theorem isDocument_keywordsObject (records : List Record) :
    IsDocument (keywordsObject records) (keywordsValue records) := by
  have member := written_member "keywords".toList (written_array records "\n\x7d".toList)
  have layout : keywordsObject records = '\x7b' :: ("\n  ".toList ++
      (Json.quoted "keywords".toList ++ ": ".toList ++
        (renderArray records ++ "\n\x7d".toList))) := by
    have opening : "\x7b\n  \"keywords\": ".toList = '\x7b' :: ("\n  ".toList ++
        (Json.quoted "keywords".toList ++ ": ".toList)) := by decide
    unfold keywordsObject
    simp only [opening]
    simp only [List.append_assoc, List.cons_append]
  have closed : Json.Spaces "\n\x7d".toList ['\x7d'] := spaces_lineFeed (Json.Spaces.none _)
  rw [layout]
  exact ⟨_, [], Json.Spaces.none _,
    Written.object (spaces_append rfl _) (Written.lastMember member closed),
    Json.Spaces.none _⟩

/-- The records of a JSON document can be told from what it says. -/
theorem keywordsObject_injective {records others : List Record}
    (same : keywordsObject others = keywordsObject records) : others = records := by
  have document := isDocument_keywordsObject others
  rw [same] at document
  exact keywordsValue_injective (document.unique (isDocument_keywordsObject records))

/-- Different records have different documents. -/
theorem renderJson_eq_iff {records others : List Record} :
    Format.json.render others = Format.json.render records ↔ others = records :=
  ⟨fun same => keywordsObject_injective (Except.ok.inj same), fun same => same ▸ rfl⟩

/-- The JSON document of some records has one reading, from which the records can be told. -/
theorem renderJson_faithful (records : List Record) :
    ∃ document, Format.json.render records = .ok document ∧
      (∀ value, IsDocument document value ↔ value = keywordsValue records) ∧
      ∀ others, Format.json.render others = Format.json.render records ↔ others = records := by
  refine ⟨keywordsObject records, rfl, fun value => ?_, fun others => renderJson_eq_iff⟩
  constructor
  · intro document
    exact document.unique (isDocument_keywordsObject records)
  · rintro rfl
    exact isDocument_keywordsObject records

end SourceCatalog.Keyword
