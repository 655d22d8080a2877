import Mathlib.Data.List.TakeWhile
import SourceCatalog.Proofs.Source.BlankRuns

/-!
# Texts without runs of blanks

Once the runs of blanks are taken out, no two blanks stand side by side, so there is nothing
more to take out. All other characters are still there, in their order.
-/

namespace SourceCatalog.Source

open Text (isBlank Blank Solid)

def solidPart (text : Text) : Text :=
  text.filter fun tested => !isBlank tested

@[simp]
theorem solidPart_append (left right : Text) :
    solidPart (left ++ right) = solidPart left ++ solidPart right :=
  List.filter_append left right

theorem solidPart_cons_of_blank {head : Char} (blank : isBlank head = true) (tail : Text) :
    solidPart (head :: tail) = solidPart tail := by
  simp [solidPart, blank]

theorem solidPart_cons_of_solid {head : Char} (solid : isBlank head = false) (tail : Text) :
    solidPart (head :: tail) = head :: solidPart tail := by
  simp [solidPart, solid]

theorem solidPart_of_blank {text : Text} (blank : Blank text) : solidPart text = [] := by
  simpa [solidPart, Blank] using blank

theorem solidPart_sublist (text : Text) : (solidPart text).Sublist text :=
  List.filter_sublist

/-- Only blanks are taken out. -/
theorem solidPart_withoutBlankRuns (text : Text) :
    solidPart (withoutBlankRuns text) = solidPart text := by
  fun_induction withoutBlankRuns text with
  | case1 => rfl
  | case2 head tail blank single inductionHypothesis =>
    rw [solidPart_cons_of_blank blank, solidPart_cons_of_blank blank, inductionHypothesis]
  | case3 head tail blank run inductionHypothesis =>
    have front : Blank (tail.takeWhile isBlank) :=
      fun tested member => List.mem_takeWhile_imp member
    have parts : solidPart tail = solidPart (tail.dropWhile isBlank) := by
      conv_lhs => rw [← List.takeWhile_append_dropWhile (p := isBlank) (l := tail)]
      rw [solidPart_append, solidPart_of_blank front, List.nil_append]
    rw [solidPart_cons_of_blank blank, inductionHypothesis, parts]
  | case4 head tail solid inductionHypothesis =>
    have headSolid : isBlank head = false := by simpa using solid
    rw [solidPart_cons_of_solid headSolid, solidPart_cons_of_solid headSolid, inductionHypothesis]

/-- Runs of blanks are taken out once and for all. -/
theorem spaced_withoutBlankRuns (text : Text) : Spaced (withoutBlankRuns text) := by
  fun_induction withoutBlankRuns text with
  | case1 => exact List.IsChain.nil
  | case2 head tail blank single inductionHypothesis =>
    apply List.isChain_cons.2
    refine ⟨?_, inductionHypothesis⟩
    intro second isSecond
    right
    cases tail with
    | nil => simp [withoutBlankRuns] at isSecond
    | cons first others =>
      have solid : isBlank first = false := by
        by_contra firstBlank
        rw [List.takeWhile_cons_of_pos (by simpa using firstBlank)] at single
        cases single
      rw [withoutBlankRuns_cons_of_solid solid] at isSecond
      obtain rfl : first = second := by simpa using isSecond
      exact solid
  | case3 head tail blank run inductionHypothesis => exact inductionHypothesis
  | case4 head tail solid inductionHypothesis =>
    apply List.isChain_cons.2
    refine ⟨?_, inductionHypothesis⟩
    intro second _
    left
    simpa using solid

theorem Spaced.within {piece text : Text} (spaced : Spaced text) (inside : piece <:+: text) :
    Spaced piece := by
  obtain ⟨front, back, rfl⟩ := inside
  obtain ⟨upTo, _, _⟩ := List.isChain_append.1 spaced
  exact (List.isChain_append.1 upTo).2.1

theorem withoutBlankRuns_of_spaced {text : Text} (spaced : Spaced text) :
    withoutBlankRuns text = text := by
  fun_induction withoutBlankRuns text with
  | case1 => rfl
  | case2 head tail blank single inductionHypothesis => rw [inductionHypothesis spaced.tail]
  | case3 head tail blank run inductionHypothesis =>
    cases tail with
    | nil => simp at run
    | cons second others =>
      have secondBlank : isBlank second = true := by
        by_contra secondSolid
        simp [secondSolid] at run
      obtain ⟨apart, _⟩ := List.isChain_cons_cons.1 spaced
      simp [blank, secondBlank] at apart
  | case4 head tail solid inductionHypothesis => rw [inductionHypothesis spaced.tail]

end SourceCatalog.Source
