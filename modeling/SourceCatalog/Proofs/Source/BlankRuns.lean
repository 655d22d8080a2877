import Mathlib.Data.List.Chain
import SourceCatalog.Proofs.Text.Cutting
import SourceCatalog.Source.Blanks

/-!
# What is left of runs of blanks

Nothing but blanks is taken out of a text, and a character that is no blank keeps the two
sides of the text apart: neither side matters for what is left of the other.
-/

namespace SourceCatalog.Source

open Text (isBlank Blank Solid)

/-- Runs of blanks are taken out, and nothing is added or moved. -/
theorem withoutBlankRuns_sublist (text : Text) : (withoutBlankRuns text).Sublist text := by
  fun_induction withoutBlankRuns text with
  | case1 => exact List.Sublist.refl []
  | case2 head tail blank single inductionHypothesis =>
    exact inductionHypothesis.cons_cons head
  | case3 head tail blank run inductionHypothesis =>
    exact (inductionHypothesis.trans (List.dropWhile_sublist isBlank)).cons head
  | case4 head tail solid inductionHypothesis =>
    exact inductionHypothesis.cons_cons head

theorem withoutBlankRuns_cons_of_solid {head : Char} (solid : isBlank head = false)
    (tail : Text) : withoutBlankRuns (head :: tail) = head :: withoutBlankRuns tail := by
  rw [withoutBlankRuns, solid]
  rfl

theorem withoutBlankRuns_cons_of_single {head : Char} {tail : Text} (blank : isBlank head = true)
    (alone : tail.takeWhile isBlank = []) :
    withoutBlankRuns (head :: tail) = head :: withoutBlankRuns tail := by
  rw [withoutBlankRuns, if_pos blank, alone]
  rfl

/-- Two blanks or more go away together. -/
theorem withoutBlankRuns_cons_of_run {head : Char} {tail : Text} (blank : isBlank head = true)
    (more : tail.takeWhile isBlank ≠ []) :
    withoutBlankRuns (head :: tail) = withoutBlankRuns (tail.dropWhile isBlank) := by
  rw [withoutBlankRuns, if_pos blank, if_neg (by simpa using more)]

theorem withoutBlankRuns_cons_cons {blank head : Char} (isSolid : isBlank head = false)
    (tail : Text) :
    withoutBlankRuns (blank :: head :: tail) = blank :: head :: withoutBlankRuns tail := by
  have alone : (head :: tail).takeWhile isBlank = [] := by
    rw [List.takeWhile_cons_of_neg (by rw [isSolid]; decide)]
  rw [withoutBlankRuns, alone, withoutBlankRuns_cons_of_solid isSolid]
  simp

theorem takeWhile_append_cons {head : Char} (solid : isBlank head = false) (before after : Text) :
    (before ++ head :: after).takeWhile isBlank = before.takeWhile isBlank := by
  induction before with
  | nil => rw [List.nil_append, List.takeWhile_cons_of_neg (by rw [solid]; decide)]; rfl
  | cons first others inductionHypothesis =>
    rw [List.cons_append, List.takeWhile_cons, List.takeWhile_cons, inductionHypothesis]

theorem dropWhile_append_cons {head : Char} (solid : isBlank head = false) (before after : Text) :
    (before ++ head :: after).dropWhile isBlank = before.dropWhile isBlank ++ head :: after := by
  induction before with
  | nil => rw [List.nil_append, List.dropWhile_cons_of_neg (by rw [solid]; decide)]; rfl
  | cons first others inductionHypothesis =>
    rw [List.cons_append, List.dropWhile_cons, List.dropWhile_cons, inductionHypothesis]
    split <;> rfl

/-- What is left on the two sides of a character that is no blank. -/
theorem withoutBlankRuns_append_cons {head : Char} (solid : isBlank head = false)
    (before after : Text) :
    withoutBlankRuns (before ++ head :: after) =
      withoutBlankRuns before ++ head :: withoutBlankRuns after := by
  fun_induction withoutBlankRuns before with
  | case1 => exact withoutBlankRuns_cons_of_solid solid after
  | case2 first others blank single inductionHypothesis =>
    rw [List.cons_append, withoutBlankRuns, takeWhile_append_cons solid, if_pos blank,
      if_pos single, inductionHypothesis]
    rfl
  | case3 first others blank run inductionHypothesis =>
    rw [List.cons_append, withoutBlankRuns, takeWhile_append_cons solid, if_pos blank,
      if_neg run, dropWhile_append_cons solid, inductionHypothesis]
  | case4 first others firstSolid inductionHypothesis =>
    rw [List.cons_append, withoutBlankRuns, if_neg firstSolid, inductionHypothesis]
    rfl

def Spaced (text : Text) : Prop :=
  text.IsChain fun left right => isBlank left = false ∨ isBlank right = false

instance (text : Text) : Decidable (Spaced text) :=
  inferInstanceAs (Decidable (List.IsChain _ text))

/-- A spaced text that does not end with a blank stays as it is, whatever follows. -/
theorem withoutBlankRuns_append_of_spaced {text : Text} (spaced : Spaced text)
    (ends : ∀ last, text.getLast? = some last → isBlank last = false) (rest : Text) :
    withoutBlankRuns (text ++ rest) = text ++ withoutBlankRuns rest := by
  induction text with
  | nil => rfl
  | cons first others inductionHypothesis =>
    cases others with
    | nil => exact withoutBlankRuns_cons_of_solid (ends first rfl) rest
    | cons second others =>
      obtain ⟨apart, othersSpaced⟩ := List.isChain_cons_cons.1 spaced
      have othersEnd : ∀ last, (second :: others).getLast? = some last → isBlank last = false := by
        intro last isLast
        apply ends
        rw [List.getLast?_cons_cons]
        exact isLast
      have later := inductionHypothesis othersSpaced othersEnd
      by_cases firstSolid : isBlank first = false
      · rw [List.cons_append, withoutBlankRuns_cons_of_solid firstSolid, later]
        rfl
      · have secondSolid : isBlank second = false := apart.resolve_left firstSolid
        rw [List.cons_append, withoutBlankRuns_cons_of_solid secondSolid] at later
        rw [List.cons_append, List.cons_append, withoutBlankRuns_cons_cons secondSolid, later]
        rfl

/-- A word stays as it is, and keeps its two sides apart. -/
theorem withoutBlankRuns_append_word {word : Text} (solid : Solid word) (filled : word ≠ [])
    (before after : Text) :
    withoutBlankRuns (before ++ word ++ after) =
      withoutBlankRuns before ++ word ++ withoutBlankRuns after := by
  induction word generalizing before with
  | nil => exact absurd rfl filled
  | cons head tail inductionHypothesis =>
    have headSolid : isBlank head = false := solid head List.mem_cons_self
    rw [List.append_assoc, List.cons_append, withoutBlankRuns_append_cons headSolid]
    by_cases single : tail = []
    · subst single
      simp
    · have tailSolid : Solid tail := fun tested member =>
        solid tested (List.mem_cons_of_mem head member)
      have later := inductionHypothesis tailSolid single []
      rw [List.nil_append, withoutBlankRuns, List.nil_append] at later
      rw [later]
      simp

/-- A word between blanks is all that trimming leaves of it once the runs of blanks are gone. -/
theorem trim_withoutBlankRuns {before word after : Text} (blankBefore : Blank before)
    (solid : Solid word) (blankAfter : Blank after) :
    Text.trim (withoutBlankRuns (before ++ word ++ after)) = word := by
  by_cases filled : word = []
  · subst filled
    rw [List.append_nil]
    have blank : Blank (before ++ after) := blankBefore.append blankAfter
    exact (blank.of_sublist (withoutBlankRuns_sublist _)).trim
  · rw [withoutBlankRuns_append_word solid filled]
    exact Text.trim_append (blankBefore.of_sublist (withoutBlankRuns_sublist before)) solid
      (blankAfter.of_sublist (withoutBlankRuns_sublist after))

/-- Runs of blanks can be taken out of each piece between separators on its own. -/
theorem pieces_withoutBlankRuns {separator : Char} (solid : isBlank separator = false)
    (text : Text) :
    Text.pieces separator (withoutBlankRuns text) =
      (Text.pieces separator text).map withoutBlankRuns := by
  generalize size : text.length = length
  induction length using Nat.strongRecOn generalizing text with
  | ind length inductionHypothesis =>
    by_cases member : separator ∈ text
    · obtain ⟨first, others, rfl, free⟩ := List.eq_append_cons_of_mem member
      have shorter : others.length < length := by
        rw [← size, List.length_append, List.length_cons]
        omega
      have firstFree : separator ∉ withoutBlankRuns first := fun found =>
        free ((withoutBlankRuns_sublist first).subset found)
      rw [withoutBlankRuns_append_cons solid, Text.pieces_append_cons firstFree,
        Text.pieces_append_cons free, List.map_cons,
        inductionHypothesis others.length shorter others rfl]
    · have free : separator ∉ withoutBlankRuns text := fun found =>
        member ((withoutBlankRuns_sublist text).subset found)
      rw [Text.pieces_of_notMem free, Text.pieces_of_notMem member, List.map_cons, List.map_nil]

end SourceCatalog.Source
