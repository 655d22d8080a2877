import SourceCatalog.Keyword.Document
import SourceCatalog.Proofs.Keyword.BodyBounds
import SourceCatalog.Proofs.Source.Spaced

/-!
# Records of any source

A source may be malformed in any way and still have records. Main statement: each name stands in
the body of the first enumeration, apart from the others and in their order, and is what a name
can be.
-/

namespace SourceCatalog.Keyword

open Source (Spaced normalize)
open Text (Blank isBlank)

def Filler (text : Text) : Prop :=
  ∀ tested ∈ text, isBlank tested = true ∨ tested = ','

/-- Names stand in a text one behind the other, with nothing but blanks and commas around them. -/
inductive Stand : List Text → Text → Prop
  | nothing {filler : Text} : Filler filler → Stand [] filler
  | name {filler rest : Text} {names : List Text} (name : Text) :
      Filler filler → Stand names rest → Stand (name :: names) (filler ++ name ++ rest)

theorem filler_of_blank {text : Text} (blank : Blank text) : Filler text :=
  fun tested member => Or.inl (blank tested member)

theorem Filler.append {left right : Text} (leftFiller : Filler left)
    (rightFiller : Filler right) : Filler (left ++ right) := by
  intro tested member
  rcases List.mem_append.1 member with inLeft | inRight
  · exact leftFiller tested inLeft
  · exact rightFiller tested inRight

theorem filler_comma : Filler [','] := by
  intro tested member
  exact Or.inr (List.mem_singleton.1 member)

theorem Stand.prepend {names : List Text} {filler text : Text} (isFiller : Filler filler)
    (stand : Stand names text) : Stand names (filler ++ text) := by
  cases stand with
  | nothing more => exact Stand.nothing (isFiller.append more)
  | @name front rest names name frontFiller later =>
    have stand := Stand.name name (isFiller.append frontFiller) later
    simpa only [List.append_assoc] using stand

/-- A segment in front brings its name, if it has one. -/
theorem Stand.prepend_segment {names : List Text} {text : Text} (segment : Text)
    (stand : Stand names text) :
    Stand ([Text.trim segment].filter (!·.isEmpty) ++ names) (segment ++ text) := by
  obtain ⟨before, after, blankBefore, blankAfter, parts⟩ := Text.exists_trim segment
  by_cases nothing : Text.trim segment = []
  · have blank : Blank segment := Text.trim_eq_nil_iff.1 nothing
    rw [nothing]
    exact stand.prepend (filler_of_blank blank)
  · have shown : [Text.trim segment].filter (!·.isEmpty) = [Text.trim segment] := by
      simpa using nothing
    have named := Stand.name (Text.trim segment) (filler_of_blank blankBefore)
      (stand.prepend (filler_of_blank blankAfter))
    rw [← List.append_assoc, ← parts] at named
    rw [shown]
    exact named

/-- The names of some segments stand in the segments joined by commas. -/
theorem stand_join (first : Text) (others : List Text) :
    Stand (((first :: others).map Text.trim).filter (!·.isEmpty))
      (Text.join [','] (first :: others)) := by
  induction others generalizing first with
  | nil =>
    have empty : Stand [] [] := Stand.nothing (filler_of_blank (by decide))
    have stand := empty.prepend_segment first
    rw [List.append_nil, List.append_nil] at stand
    exact stand
  | cons second others inductionHypothesis =>
    have later := (inductionHypothesis second).prepend filler_comma
    have stand := later.prepend_segment first
    rw [← List.append_assoc, ← List.filter_append] at stand
    exact stand

theorem names_tokenize (body : Text) :
    (tokenize body).map Record.name =
      ((Text.pieces ',' body).map Text.trim).filter (!·.isEmpty) := by
  rw [tokenize, List.map_map]
  exact List.map_id _

/-- The names stand in the body in their order, and nothing else does. -/
theorem stand_tokenize (body : Text) : Stand ((tokenize body).map Record.name) body := by
  rw [names_tokenize]
  cases cut : Text.pieces ',' body with
  | nil => exact absurd cut (Text.pieces_ne_nil ',' body)
  | cons first others =>
    have stand := stand_join first others
    rwa [← cut, Text.join_pieces, cut] at stand

theorem Stand.within {names : List Text} {text name : Text} (stand : Stand names text)
    (member : name ∈ names) : name <:+: text := by
  induction stand with
  | nothing _ => cases member
  | @name filler rest names first _ _ inductionHypothesis =>
    rcases List.mem_cons.1 member with rfl | later
    · exact ⟨filler, rest, rfl⟩
    · exact (inductionHypothesis later).trans (List.suffix_append _ rest).isInfix

/-- What the name of a record can be. -/
structure WellFormed (name : Text) : Prop where
  filled : name ≠ []
  starts : ∀ first, name.head? = some first → isBlank first = false
  ends : ∀ last, name.getLast? = some last → isBlank last = false
  noComma : ',' ∉ name
  noBrace : '}' ∉ name
  spaced : Spaced name

/-- No record has an empty name, or one with a comma, a brace or a run of blanks. -/
theorem wellFormed_of_mem_tokenize {body : Text} {record : Record} (noBrace : '}' ∉ body)
    (spaced : Spaced body) (member : record ∈ tokenize body) :
    WellFormed record.name ∧ record.value = displayValue record.name := by
  obtain ⟨name, isName, rfl⟩ := List.mem_map.1 member
  obtain ⟨isTrimmed, filled⟩ := List.mem_filter.1 isName
  obtain ⟨piece, isPiece, rfl⟩ := List.mem_map.1 isTrimmed
  obtain ⟨before, after, _, _, parts⟩ := Text.exists_trim piece
  have inside : Text.trim piece <:+: body :=
    (stand_tokenize body).within (List.mem_map_of_mem member)
  have noComma : ',' ∉ Text.trim piece := by
    intro found
    apply Text.separator_notMem_pieces isPiece
    rw [parts]
    exact List.mem_append_left after (List.mem_append_right before found)
  have nameFilled : Text.trim piece ≠ [] := by
    simpa using filled
  refine ⟨⟨nameFilled, fun _ => Text.notBlank_of_head?_trim,
    fun _ => Text.notBlank_of_getLast?_trim, noComma, ?_, ?_⟩, rfl⟩
  · exact fun found => noBrace (inside.subset found)
  · exact spaced.within inside

/-- The names of all records stand in the normal form between the first opening mark and the next
brace, apart from each other and in order. Each of them is well formed, and shown as its value. -/
theorem document_wellFormed {source text : Text} {format : Format} {records : List Record}
    (found : document source format = .ok (records, text)) :
    ∃ before body after, normalize source = before ++ marker ++ (body ++ after) ∧
      (∀ front back, normalize source = front ++ marker ++ back →
        before.length ≤ front.length) ∧
      '}' ∉ body ∧ (after = [] ∨ ∃ rest, after = '}' :: rest) ∧
      Stand (records.map Record.name) body ∧
      ∀ record ∈ records, record.name <:+: body ∧ WellFormed record.name ∧
        record.value = displayValue record.name := by
  obtain ⟨found, _⟩ := document_eq_ok_iff.1 found
  rw [extract] at found
  cases opened : enumBody (normalize source) with
  | error fault =>
    rw [opened] at found
    cases found
  | ok body =>
    rw [opened] at found
    cases found
    obtain ⟨before, after, parts, first, noBrace, ends⟩ := of_enumBody opened
    have inside : body <:+: normalize source :=
      ⟨before ++ marker, after, by rw [parts, List.append_assoc _ body]⟩
    have spaced : Spaced body := (Source.spaced_withoutBlankRuns _).within inside
    refine ⟨before, body, after, parts, first, noBrace, ends, stand_tokenize body, ?_⟩
    intro record member
    have within := (stand_tokenize body).within (List.mem_map_of_mem member)
    exact ⟨within, wellFormed_of_mem_tokenize noBrace spaced member⟩

/-- A source with a comment inside a name, marks and braces out of place, and no closing brace. -/
def tangledSource : Text :=
  ("// enum KeyWord \x7b\nenum KeyWord  \x7b enum KeyWord \x7b ,As\u00a0If,, El//\x7d\n  se, " ++
    "SelfKeyWord\t,\x7b ").toList

def tangledRecords : List Record :=
  [⟨"As\u00a0If".toList, "as\u00a0if".toList⟩, ⟨"Else".toList, "else".toList⟩,
    ⟨"SelfKeyWord".toList, "self".toList⟩, ⟨"\x7b".toList, "\x7b".toList⟩]

/-- The names are what the comments leave, odd as they are. -/
theorem document_wellFormed_tangledSource :
    document tangledSource .text = .ok (tangledRecords, renderText tangledRecords) ∧
    ∃ before body after, normalize tangledSource = before ++ marker ++ (body ++ after) ∧
      (∀ front back, normalize tangledSource = front ++ marker ++ back →
        before.length ≤ front.length) ∧
      '}' ∉ body ∧ (after = [] ∨ ∃ rest, after = '}' :: rest) ∧
      Stand (tangledRecords.map Record.name) body ∧
      ∀ record ∈ tangledRecords, record.name <:+: body ∧ WellFormed record.name ∧
        record.value = displayValue record.name := by
  have found : document tangledSource .text = .ok (tangledRecords, renderText tangledRecords) := by
    decide +kernel
  exact ⟨found, document_wellFormed found⟩

end SourceCatalog.Keyword
