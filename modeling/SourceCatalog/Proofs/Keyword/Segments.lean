import SourceCatalog.Keyword.Record
import SourceCatalog.Proofs.Source.BlankRuns

/-!
# Segments of a body

A body is read segment by segment. A segment that holds at most one word between blanks gives
this word, whether or not the runs of blanks have been taken out of it before.
-/

namespace SourceCatalog.Keyword

open Source (withoutBlankRuns)
open Text (Blank Solid isBlank)

/-- The names in a body whose runs of blanks are still to be taken out. -/
def namesIn (body : Text) : List Text :=
  ((Text.pieces ',' body).map fun piece => Text.trim (withoutBlankRuns piece)).filter
    (!·.isEmpty)

/-- The records are those of the names, wherever blanks are taken out. -/
theorem tokenize_withoutBlankRuns (body : Text) :
    tokenize (withoutBlankRuns body) = (namesIn body).map Record.ofName := by
  rw [tokenize, Source.pieces_withoutBlankRuns (by decide), List.map_map]
  rfl

/-- A piece of text is one word between blanks, or nothing but blanks around an empty word. -/
structure Holds (word piece : Text) : Prop where
  solid : Solid word
  noComma : ',' ∉ word
  between : ∃ before after, Blank before ∧ Blank after ∧ piece = before ++ word ++ after

def shown (word : Text) : List Text :=
  [word].filter (!·.isEmpty)

namespace Holds

variable {word piece : Text}

theorem nothing {piece : Text} (blank : Blank piece) : Holds [] piece where
  solid := fun _ member => absurd member List.not_mem_nil
  noComma := List.not_mem_nil
  between := ⟨piece, [], blank, fun _ member => absurd member List.not_mem_nil, by simp⟩

theorem append_blank (holds : Holds word piece) {blank : Text} (isBlank : Blank blank) :
    Holds word (piece ++ blank) := by
  obtain ⟨before, after, blankBefore, blankAfter, rfl⟩ := holds.between
  exact ⟨holds.solid, holds.noComma, before, after ++ blank, blankBefore,
    blankAfter.append isBlank, by rw [List.append_assoc]⟩

theorem append_word (holds : Holds [] piece) (solid : Solid word) (noComma : ',' ∉ word) :
    Holds word (piece ++ word) := by
  obtain ⟨before, after, blankBefore, blankAfter, rfl⟩ := holds.between
  exact ⟨solid, noComma, before ++ after, [], blankBefore.append blankAfter,
    fun _ member => absurd member List.not_mem_nil, by simp⟩

theorem trim_eq (holds : Holds word piece) : Text.trim (withoutBlankRuns piece) = word := by
  obtain ⟨before, after, blankBefore, blankAfter, rfl⟩ := holds.between
  exact Source.trim_withoutBlankRuns blankBefore holds.solid blankAfter

theorem comma_notMem (holds : Holds word piece) : ',' ∉ piece := by
  obtain ⟨before, after, blankBefore, blankAfter, rfl⟩ := holds.between
  exact Text.notMem_between blankBefore holds.noComma blankAfter (by decide)

theorem namesIn_eq (holds : Holds word piece) : namesIn piece = shown word := by
  rw [namesIn, Text.pieces_of_notMem holds.comma_notMem, List.map_singleton, holds.trim_eq]
  rfl

/-- A comma closes the word in front of it. -/
theorem namesIn_append_comma (holds : Holds word piece) (others : Text) :
    namesIn (piece ++ ',' :: others) = shown word ++ namesIn others := by
  rw [namesIn, Text.pieces_append_cons holds.comma_notMem, List.map_cons, holds.trim_eq,
    namesIn, shown, ← List.filter_append]
  rfl

end Holds

/-- What reading a text does to the word that is open before it: the names that are closed on
the way, and the word that is open behind it. -/
inductive Reads : Text → Text → List Text → Text → Prop
  | blank (word : Text) {text : Text} : Blank text → Reads word text [] word
  | word {word : Text} : Solid word → ',' ∉ word → '}' ∉ word → Reads [] word [] word
  | comma (word : Text) : Reads word [','] (shown word) []
  | append {first second third left right : Text} {names others : List Text} :
      Reads first left names second → Reads second right others third →
      Reads first (left ++ right) (names ++ others) third

namespace Reads

/-- Reading a part of a body cuts its names off, whatever follows. -/
theorem exists_holds {word text next : Text} {names : List Text}
    (reads : Reads word text names next) {piece : Text} (holds : Holds word piece) :
    ∃ piece', Holds next piece' ∧
      ∀ rest, namesIn (piece ++ text ++ rest) = names ++ namesIn (piece' ++ rest) := by
  induction reads generalizing piece with
  | @blank word text isBlank =>
    exact ⟨piece ++ text, holds.append_blank isBlank, fun _ => rfl⟩
  | @word word solid noComma _ =>
    exact ⟨piece ++ word, holds.append_word solid noComma, fun _ => rfl⟩
  | comma word =>
    refine ⟨[], Holds.nothing (by decide), ?_⟩
    intro rest
    rw [List.append_assoc]
    exact holds.namesIn_append_comma rest
  | append _ _ first second =>
    obtain ⟨middle, holdsMiddle, cutFirst⟩ := first holds
    obtain ⟨last, holdsLast, cutSecond⟩ := second holdsMiddle
    refine ⟨last, holdsLast, ?_⟩
    intro rest
    rw [← List.append_assoc, List.append_assoc (piece ++ _), cutFirst, ← List.append_assoc,
      cutSecond, List.append_assoc]

/-- What is read lies in front of the brace that ends the body. -/
theorem brace_notMem {word text next : Text} {names : List Text}
    (reads : Reads word text names next) : '}' ∉ text := by
  have notBlank : isBlank '}' = false := by decide
  induction reads with
  | blank word allBlank => exact allBlank.notMem notBlank
  | word _ _ noBrace => exact noBrace
  | comma word => decide
  | append _ _ first second =>
    intro member
    rcases List.mem_append.1 member with inFirst | inSecond
    · exact first inFirst
    · exact second inSecond

/-- The names of a body are those that are closed in it and the one that is open at its end. -/
theorem namesIn_eq {body word : Text} {names : List Text} (reads : Reads [] body names word) :
    namesIn body = names ++ shown word := by
  have start : Holds [] [] := Holds.nothing (by decide)
  obtain ⟨piece, holds, cut⟩ := reads.exists_holds start
  have whole := cut []
  rw [List.nil_append, List.append_nil, List.append_nil, holds.namesIn_eq] at whole
  exact whole

end Reads

end SourceCatalog.Keyword
