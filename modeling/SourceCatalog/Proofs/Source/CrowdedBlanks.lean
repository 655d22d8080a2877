import SourceCatalog.Proofs.Source.Spaced
import SourceCatalog.Source.Normal

/-!
# Blanks next to blanks

Runs of blanks are taken out whole, however long they are. Whether a character goes shows in its
two neighbours already. Main statement: the characters at all positions stay in their order, but
for the blanks with a blank next to them.
-/

namespace SourceCatalog.Source

open Text (isBlank Blank)

def blankAt (text : Text) (position : Nat) : Bool :=
  text[position]?.any isBlank

def crowdedAt (text : Text) (position : Nat) : Bool :=
  blankAt text position &&
    ((0 < position && blankAt text (position - 1)) || blankAt text (position + 1))

/-- The characters that are not crowded, in order and with their positions. -/
def uncrowded (text : Text) : List (Char × Nat) :=
  text.zipIdx.filter fun placed => !crowdedAt text placed.2

theorem blankAt_append_length (before after : Text) (offset : Nat) :
    blankAt (before ++ after) (before.length + offset) = blankAt after offset := by
  rw [blankAt, blankAt, List.getElem?_append_right (Nat.le_add_right _ _),
    Nat.add_sub_cancel_left]

theorem blankAt_of_blank {before run after : Text} (blank : Blank run) {offset : Nat}
    (inside : offset < run.length) :
    blankAt (before ++ (run ++ after)) (before.length + offset) = true := by
  rw [blankAt_append_length, blankAt, List.getElem?_append_left inside,
    List.getElem?_eq_getElem inside]
  exact blank _ (List.getElem_mem inside)

/-- Every position in a run of two or more blanks is crowded. -/
theorem crowdedAt_of_run {run : Text} (blank : Blank run) (long : 2 ≤ run.length)
    (before after : Text) {offset : Nat} (inside : offset < run.length) :
    crowdedAt (before ++ (run ++ after)) (before.length + offset) = true := by
  have here : blankAt (before ++ (run ++ after)) (before.length + offset) = true :=
    blankAt_of_blank blank inside
  rw [crowdedAt, here, Bool.true_and, Bool.or_eq_true, Bool.and_eq_true]
  cases offset with
  | zero => exact Or.inr (blankAt_of_blank blank long)
  | succ offset =>
    have previous : offset < run.length := Nat.lt_of_succ_lt inside
    exact Or.inl ⟨decide_eq_true (by omega), blankAt_of_blank blank previous⟩

/-- A character is not crowded if it is no blank. -/
theorem crowdedAt_of_solid {head : Char} (solid : isBlank head = false) (before after : Text) :
    crowdedAt (before ++ head :: after) before.length = false := by
  have here : blankAt (before ++ head :: after) before.length = false := by
    rw [← Nat.add_zero before.length, blankAt_append_length]
    exact solid
  rw [crowdedAt, here, Bool.false_and]

theorem any_head?_of_takeWhile {text : Text} (alone : text.takeWhile isBlank = []) :
    text.head?.any isBlank = false := by
  cases text with
  | nil => rfl
  | cons first others =>
    change isBlank first = false
    by_contra blank
    rw [List.takeWhile_cons_of_pos (by simpa using blank)] at alone
    cases alone

theorem any_head?_dropWhile (text : Text) : (text.dropWhile isBlank).head?.any isBlank = false := by
  cases isFirst : (text.dropWhile isBlank).head? with
  | none => rfl
  | some first => exact Text.notBlank_of_head?_dropWhile isFirst

/-- No run of blanks goes on from the first text into the second one. -/
def Severed (before after : Text) : Prop :=
  before.getLast?.any isBlank = false ∨ after.head?.any isBlank = false

/-- A blank is not crowded if no run goes on to it or from it. -/
theorem crowdedAt_of_single {head : Char} {before after : Text} (blank : isBlank head = true)
    (severed : Severed before (head :: after)) (alone : after.takeWhile isBlank = []) :
    crowdedAt (before ++ head :: after) before.length = false := by
  have next : blankAt (before ++ head :: after) (before.length + 1) = false := by
    rw [blankAt_append_length, blankAt, List.getElem?_cons_succ, ← List.head?_eq_getElem?]
    exact any_head?_of_takeWhile alone
  have ended : before.getLast?.any isBlank = false := by
    refine severed.resolve_right ?_
    change ¬ isBlank head = false
    rw [blank]
    decide
  rw [crowdedAt, next, Bool.or_false, Bool.and_eq_false_iff, Bool.and_eq_false_iff]
  right
  by_cases filled : before = []
  · left
    rw [filled]
    rfl
  · right
    have shorter : before.length - 1 < before.length :=
      Nat.sub_one_lt_of_lt (List.length_pos_iff.2 filled)
    rw [blankAt, List.getElem?_append_left shorter, ← List.getLast?_eq_getElem?]
    exact ended

/-- The characters of a text behind another one that are not crowded there. -/
def uncrowdedBehind (before text : Text) : List (Char × Nat) :=
  (text.zipIdx before.length).filter fun placed => !crowdedAt (before ++ text) placed.2

theorem uncrowdedBehind_cons {before tail : Text} {head : Char}
    (stays : crowdedAt (before ++ head :: tail) before.length = false) :
    uncrowdedBehind before (head :: tail) =
      (head, before.length) :: uncrowdedBehind (before ++ [head]) tail := by
  have moved : before ++ [head] ++ tail = before ++ head :: tail := by simp
  rw [uncrowdedBehind, uncrowdedBehind, moved, List.length_append, List.zipIdx_cons,
    List.filter_cons_of_pos (by rw [stays]; rfl)]
  rfl

/-- A run of two blanks or more is crowded as a whole. -/
theorem uncrowdedBehind_append {run : Text} (blank : Blank run) (long : 2 ≤ run.length)
    (before after : Text) :
    uncrowdedBehind before (run ++ after) = uncrowdedBehind (before ++ run) after := by
  have gone : (run.zipIdx before.length).filter
      (fun placed => !crowdedAt (before ++ (run ++ after)) placed.2) = [] := by
    apply List.filter_eq_nil_iff.2
    rintro ⟨tested, position⟩ member
    obtain ⟨above, below, _⟩ := List.mem_zipIdx member
    have inside : position - before.length < run.length := by omega
    have crowded := crowdedAt_of_run blank long before after inside
    rw [Nat.add_sub_cancel' above] at crowded
    simp [crowded]
  rw [uncrowdedBehind, List.zipIdx_append, List.filter_append, gone, List.nil_append,
    uncrowdedBehind, List.append_assoc, List.length_append]

/-- Where no run goes on from one text into the next, the characters that stay in the latter are
those that are not crowded. -/
theorem withoutBlankRuns_eq_uncrowdedBehind (before text : Text)
    (severed : Severed before text) :
    withoutBlankRuns text = (uncrowdedBehind before text).map Prod.fst := by
  -- A position counts from the beginning of the whole text, so what is gone through already is kept
  -- in front. A run is stepped over at once: no text in front ever ends inside of one.
  fun_induction withoutBlankRuns text generalizing before with
  | case1 => rfl
  | case2 head tail blank single inductionHypothesis =>
    have alone : tail.takeWhile isBlank = [] := List.isEmpty_iff.1 single
    have next : Severed (before ++ [head]) tail := Or.inr (any_head?_of_takeWhile alone)
    rw [uncrowdedBehind_cons (crowdedAt_of_single blank severed alone), List.map_cons,
      inductionHypothesis _ next]
  | case3 head tail blank run inductionHypothesis =>
    have isRun : Blank (head :: tail.takeWhile isBlank) := by
      intro tested member
      rcases List.mem_cons.1 member with rfl | later
      · exact blank
      · exact List.mem_takeWhile_imp later
    have long : 2 ≤ (head :: tail.takeWhile isBlank).length := by
      have filled : tail.takeWhile isBlank ≠ [] := fun nothing =>
        run (List.isEmpty_iff.2 nothing)
      exact Nat.succ_le_succ (List.length_pos_iff.2 filled)
    have parts : head :: tail = head :: tail.takeWhile isBlank ++ tail.dropWhile isBlank := by
      rw [List.cons_append, List.takeWhile_append_dropWhile]
    rw [inductionHypothesis _ (Or.inr (any_head?_dropWhile tail)), parts,
      uncrowdedBehind_append isRun long before]
  | case4 head tail solid inductionHypothesis =>
    have isSolid : isBlank head = false := by simpa using solid
    have next : Severed (before ++ [head]) tail := by
      refine Or.inl ?_
      rw [List.getLast?_concat]
      exact isSolid
    rw [uncrowdedBehind_cons (crowdedAt_of_solid isSolid before tail), List.map_cons,
      inductionHypothesis _ next]

/-- The blanks that go are those with a blank beside them. -/
theorem withoutBlankRuns_eq_uncrowded (text : Text) :
    withoutBlankRuns text = (uncrowded text).map Prod.fst :=
  withoutBlankRuns_eq_uncrowdedBehind [] text (Or.inl rfl)

theorem withoutBlankRuns_withoutBlankRuns (text : Text) :
    withoutBlankRuns (withoutBlankRuns text) = withoutBlankRuns text :=
  withoutBlankRuns_of_spaced (spaced_withoutBlankRuns text)

/-- Just the blanks next to blanks go. So no two blanks are left side by side, in a normal form
either, all other characters stay, and nothing more goes the second time. -/
theorem withoutBlankRuns_pointwise (text source : Text) :
    withoutBlankRuns text = (uncrowded text).map Prod.fst ∧
      Spaced (withoutBlankRuns text) ∧ Spaced (normalize source) ∧
      solidPart (withoutBlankRuns text) = solidPart text ∧
      withoutBlankRuns (withoutBlankRuns text) = withoutBlankRuns text :=
  ⟨withoutBlankRuns_eq_uncrowded text, spaced_withoutBlankRuns text,
    spaced_withoutBlankRuns (withoutComments source), solidPart_withoutBlankRuns text,
    withoutBlankRuns_withoutBlankRuns text⟩

end SourceCatalog.Source
