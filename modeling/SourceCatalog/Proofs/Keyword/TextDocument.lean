import SourceCatalog.Proofs.Keyword.JsonDocument
import SourceCatalog.Proofs.Text.Lines

/-!
# Reading a text document back

Nothing in a text document is escaped. The line of a record still shows where its name ends, since
the mark that opens the value does not occur in the name; the value ends in front of the last
quote of the line, whatever quotes it holds. Main statement: a text document has one line for each
record, and its lines tell the records.
-/

namespace SourceCatalog.Keyword

def valueMark : Text := ": \"".toList

theorem valueMark_unbordered : Text.Unbordered valueMark := by
  decide

/-- A record whose line can be read: both parts stand on one line, and the name does not hold the
mark behind it. -/
structure Readable (record : Record) : Prop where
  nameFree : '\n' ∉ record.name
  noMark : ¬ valueMark <:+: record.name
  valueFree : '\n' ∉ record.value

namespace Record

def shown (record : Record) : Text :=
  " - ".toList ++ (record.name ++ valueMark ++ (record.value ++ ['"']))

theorem line_eq (record : Record) : record.line = '\n' :: record.shown := by
  have opening : "\n - ".toList = '\n' :: " - ".toList := rfl
  have closing : "\"".toList = ['"'] := rfl
  unfold line shown valueMark
  rw [opening, closing]
  simp only [List.append_assoc, List.cons_append]

/-- The record that a line shows. The name ends at the first mark, the value at the end. -/
def ofShown? (line : Text) : Option Record := do
  let named ← " - ".toList.isPrefixOf? line
  let (name, quoted) ← Text.splitFirst? valueMark named
  if quoted.getLast? = some '"' then some ⟨name, quoted.dropLast⟩ else none

/-- A line can be read if the mark does not occur in its name. -/
theorem ofShown?_shown {record : Record} (noMark : ¬ valueMark <:+: record.name) :
    ofShown? record.shown = some record := by
  have named : " - ".toList.isPrefixOf? record.shown =
      some (record.name ++ valueMark ++ (record.value ++ ['"'])) :=
    Text.isPrefixOf?_eq_some_iff.2 rfl
  -- The mark is unbordered, so it is not met across the end of the name either.
  have cut := Text.splitFirst?_append valueMark_unbordered noMark (record.value ++ ['"'])
  unfold ofShown?
  rw [named, Option.bind_eq_bind, Option.bind_some, cut]
  simp

theorem getLast?_shown (record : Record) : record.shown.getLast? = some '"' := by
  unfold shown
  rw [← List.append_assoc, ← List.append_assoc, List.getLast?_concat]

end Record

theorem Readable.lineFeed_notMem_shown {record : Record} (readable : Readable record) :
    '\n' ∉ record.shown := by
  have dash : '\n' ∉ " - ".toList := by decide
  have mark : '\n' ∉ valueMark := by decide
  have quote : '\n' ∉ ['"'] := by decide
  simp only [Record.shown, List.mem_append, not_or]
  exact ⟨dash, ⟨readable.nameFree, mark⟩, readable.valueFree, quote⟩

/-- The records that a text document shows, if it has the form of one. -/
def readText? (document : Text) : Option (List Record) :=
  match Text.pieces '\n' document with
  | [] => none
  | first :: lines => if first = header then lines.mapM Record.ofShown? else none

theorem mapM_ofShown? {records : List Record} (readable : ∀ record ∈ records, Readable record) :
    (records.map Record.shown).mapM Record.ofShown? = some records := by
  induction records with
  | nil => rfl
  | cons first others inductionHypothesis =>
    obtain ⟨firstReadable, othersReadable⟩ := List.forall_mem_cons.1 readable
    rw [List.map_cons, List.mapM_cons, Record.ofShown?_shown firstReadable.noMark,
      inductionHypothesis othersReadable]
    rfl

theorem pieces_renderText {records : List Record}
    (readable : ∀ record ∈ records, Readable record) :
    Text.pieces '\n' (renderText records) = header :: records.map Record.shown := by
  have headerFree : '\n' ∉ header := by decide
  have linesFree : ∀ line ∈ records.map Record.shown, '\n' ∉ line := by
    intro line member
    obtain ⟨record, isRecord, rfl⟩ := List.mem_map.1 member
    exact (readable record isRecord).lineFeed_notMem_shown
  have lines := Text.pieces_append_flatMap headerFree linesFree
  rw [List.flatMap_map] at lines
  have whole : renderText records =
      header ++ records.flatMap fun record => '\n' :: record.shown := by
    unfold renderText
    rw [funext Record.line_eq]
  rw [whole, lines]

theorem readText?_renderText {records : List Record}
    (readable : ∀ record ∈ records, Readable record) :
    readText? (renderText records) = some records := by
  rw [readText?, pieces_renderText readable]
  dsimp only
  rw [if_pos rfl, mapM_ofShown? readable]

/-- Readable records are determined by their document. -/
theorem renderText_injective {records others : List Record}
    (readable : ∀ record ∈ records, Readable record)
    (othersReadable : ∀ record ∈ others, Readable record)
    (same : renderText others = renderText records) : others = records := by
  have read := readText?_renderText readable
  rw [← same, readText?_renderText othersReadable] at read
  exact Option.some.inj read

/-- A line ends with the quote behind its value, so no carriage return is dropped from it. -/
theorem lines_renderText {records : List Record}
    (readable : ∀ record ∈ records, Readable record) :
    Text.lines (renderText records) = header :: records.map Record.shown := by
  have closed : ∀ line ∈ header :: records.map Record.shown,
      line ≠ [] ∧ Text.dropReturn line = line := by
    intro line member
    rcases List.mem_cons.1 member with rfl | inRecords
    · decide
    · obtain ⟨record, _, rfl⟩ := List.mem_map.1 inRecords
      have last := record.getLast?_shown
      refine ⟨fun nothing => ?_, ?_⟩
      · rw [nothing] at last
        cases last
      · rw [Text.dropReturn, last, if_neg (by decide)]
  rw [← pieces_renderText readable] at closed ⊢
  exact Text.lines_eq_pieces (fun piece member => (closed piece member).2)
    fun last isLast => (closed last (List.mem_of_getLast? isLast)).1

/-- A text document has a line for the header and one for each record, and no other list of
records gives the same document; so it tells what the JSON document tells. -/
theorem renderText_readable {records : List Record}
    (readable : ∀ record ∈ records, Readable record) :
    ∃ document, Format.text.render records = .ok document ∧
      Text.lines document = header :: records.map Record.shown ∧
      Text.pieces '\n' document = Text.lines document ∧
      (Text.lines document).length = records.length + 1 ∧
      readText? document = some records ∧
      ∀ others : List Record, (∀ record ∈ others, Readable record) →
        (Format.text.render others = Format.text.render records ↔ others = records) ∧
        (Format.text.render others = Format.text.render records ↔
          Format.json.render others = Format.json.render records) := by
  have lines : Text.lines (renderText records) = header :: records.map Record.shown :=
    lines_renderText readable
  refine ⟨renderText records, rfl, lines, ?_, ?_, readText?_renderText readable, ?_⟩
  · rw [lines]
    exact pieces_renderText readable
  · rw [lines, List.length_cons, List.length_map]
  · intro others othersReadable
    have tells : Format.text.render others = Format.text.render records ↔ others = records :=
      ⟨fun same => renderText_injective readable othersReadable (Except.ok.inj same),
        fun same => same ▸ rfl⟩
    exact ⟨tells, tells.trans renderJson_eq_iff.symm⟩

/-- A name that ends in the beginning of the mark, and a value that looks like a line of its own. -/
def quotedRecords : List Record :=
  [⟨"a: ".toList, "b: \" - ".toList⟩, ⟨": : ".toList, "\r\": \"c\"".toList⟩]

theorem readable_quotedRecords : ∀ record ∈ quotedRecords, Readable record := by
  intro record member
  rcases List.mem_cons.1 member with rfl | later
  · exact ⟨by decide, by decide, by decide⟩
  · rw [List.mem_singleton.1 later]
    exact ⟨by decide, by decide, by decide⟩

theorem renderText_readable_quotedRecords :
    ∃ document, Format.text.render quotedRecords = .ok document ∧
      Text.lines document =
        ["Keywords:".toList, " - a: : \"b: \" - \"".toList,
          " - : : : \"\r\": \"c\"\"".toList] ∧
      readText? document = some quotedRecords ∧
      ∀ others : List Record, (∀ record ∈ others, Readable record) →
        (Format.text.render others = Format.text.render quotedRecords ↔
          Format.json.render others = Format.json.render quotedRecords) := by
  obtain ⟨document, rendered, lines, _, _, read, tells⟩ :=
    renderText_readable readable_quotedRecords
  exact ⟨document, rendered, lines, read, fun others readable => (tells others readable).2⟩

/-- A name with the mark in it could end there. -/
example : renderText [⟨"a: \"b".toList, ['c']⟩] = renderText [⟨['a'], "b: \"c".toList⟩] := by
  decide

end SourceCatalog.Keyword
