import SourceCatalog.Proofs.Source.CommentedLine
import SourceCatalog.Proofs.Source.Spaced
import SourceCatalog.Source.Normal

/-!
# The two conventions for line ends

A source text may end its lines with line feeds, or with a carriage return in front of each line
feed. Main statement: the same comments are cut out of both, and the normal forms differ in the
line feeds that stand alone: with a carriage return in front they are runs of blanks.
-/

namespace SourceCatalog.Source

open Text (isBlank)

def withReturns : Text → Text
  | [] => []
  | head :: tail =>
    if head = '\n' then '\r' :: '\n' :: withReturns tail else head :: withReturns tail

theorem withReturns_feed (tail : Text) :
    withReturns ('\n' :: tail) = '\r' :: '\n' :: withReturns tail :=
  rfl

theorem withReturns_cons {head : Char} (different : head ≠ '\n') (tail : Text) :
    withReturns (head :: tail) = head :: withReturns tail :=
  if_neg different

theorem withReturns_append (left right : Text) :
    withReturns (left ++ right) = withReturns left ++ withReturns right := by
  induction left with
  | nil => rfl
  | cons head tail inductionHypothesis =>
    by_cases feed : head = '\n'
    · subst feed
      rw [List.cons_append, withReturns_feed, withReturns_feed, inductionHypothesis]
      rfl
    · rw [List.cons_append, withReturns_cons feed, withReturns_cons feed, inductionHypothesis]
      rfl

theorem withReturns_eq_nil_iff {text : Text} : withReturns text = [] ↔ text = [] := by
  cases text with
  | nil => exact ⟨fun _ => rfl, fun _ => rfl⟩
  | cons head tail =>
    rw [withReturns]
    split <;> simp

/-- A text begins with every mark without a carriage return with which it then begins. -/
theorem exists_append_of_withReturns {mark text rest : Text} (inside : '\r' ∉ mark)
    (same : withReturns text = mark ++ rest) : ∃ tail, text = mark ++ tail := by
  induction mark generalizing text with
  | nil => exact ⟨text, rfl⟩
  | cons first others inductionHypothesis =>
    rw [List.mem_cons, not_or] at inside
    cases text with
    | nil => cases same
    | cons head tail =>
      by_cases feed : head = '\n'
      · subst feed
        exact absurd (List.cons.inj same).1 inside.1
      · rw [withReturns_cons feed] at same
        obtain ⟨rfl, behind⟩ := List.cons.inj same
        obtain ⟨after, rfl⟩ := inductionHypothesis inside.2 behind
        exact ⟨after, rfl⟩

theorem toLineEnd_withReturns (text : Text) :
    toLineEnd (withReturns text) = withReturns (toLineEnd text) := by
  fun_induction toLineEnd text with
  | case1 => rfl
  | case2 head tail breaks => rcases breaks with rfl | rfl <;> rfl
  | case3 head tail inside inductionHypothesis =>
    rw [withReturns_cons (fun feed => inside (Or.inl feed)), toLineEnd, if_neg inside,
      inductionHypothesis]

theorem blankToLineEnd?_withReturns (text : Text) :
    blankToLineEnd? (withReturns text) = (blankToLineEnd? text).map withReturns := by
  fun_induction blankToLineEnd? text with
  | case1 => rfl
  | case2 head tail breaks => rcases breaks with rfl | rfl <;> rfl
  | case3 head tail inside blank inductionHypothesis =>
    rw [withReturns_cons (fun feed => inside (Or.inl feed)), blankToLineEnd?, if_neg inside,
      if_pos blank, inductionHypothesis]
  | case4 head tail inside solid =>
    rw [withReturns_cons (fun feed => inside (Or.inl feed)), blankToLineEnd?, if_neg inside,
      if_neg solid]
    rfl

def Cut.withReturns (cut : Cut) : Cut :=
  ⟨Source.withReturns cut.kept, Source.withReturns cut.after⟩

theorem closing?_withReturns (text : Text) :
    closing? (withReturns text) = (closing? text).map Cut.withReturns := by
  by_cases comma : ∃ tail, text = ',' :: tail
  · obtain ⟨tail, rfl⟩ := comma
    rw [withReturns_cons (by decide), closing?, closing?, blankToLineEnd?_withReturns]
    cases blankToLineEnd? tail <;> rfl
  · have noComma : ∀ tail, text ≠ ',' :: tail := fun tail same => comma ⟨tail, same⟩
    have noCommaToo : ∀ tail, withReturns text ≠ ',' :: tail := by
      intro tail same
      have noReturn : '\r' ∉ [','] := by decide
      obtain ⟨others, parts⟩ := exists_append_of_withReturns noReturn same
      exact noComma others parts
    rw [closing?.eq_2 _ noCommaToo, closing?.eq_2 _ noComma, blankToLineEnd?_withReturns]
    cases blankToLineEnd? text <;> rfl

theorem blockEnd?_withReturns (text : Text) :
    blockEnd? (withReturns text) = (blockEnd? text).map Cut.withReturns := by
  fun_induction blockEnd? text with
  | case1 => rfl
  | case2 tail cut closes =>
    have closesToo := closing?_withReturns tail
    rw [closes] at closesToo
    rw [withReturns_cons (by decide), withReturns_cons (by decide), blockEnd?, closesToo]
    rfl
  | case3 tail stays inductionHypothesis =>
    have staysToo := closing?_withReturns tail
    rw [stays] at staysToo
    rw [withReturns_cons (by decide), withReturns_cons (by decide), blockEnd?, staysToo]
    exact inductionHypothesis
  | case4 head tail different inductionHypothesis =>
    by_cases feed : head = '\n'
    · subst feed
      rw [withReturns_feed, blockEnd?, blockEnd?, inductionHypothesis]
      · exact fun _ star _ => absurd star (by decide)
      · exact fun _ star _ => absurd star (by decide)
    · rw [withReturns_cons feed, blockEnd?, inductionHypothesis]
      intro rest star slash
      have noReturn : '\r' ∉ ['/'] := by decide
      obtain ⟨others, parts⟩ := exists_append_of_withReturns noReturn slash
      exact different others star parts

/-- A comment is the same with either kind of line end. -/
theorem commentAt?_withReturns (text : Text) :
    commentAt? (withReturns text) = (commentAt? text).map Cut.withReturns := by
  conv_rhs => unfold commentAt?
  split
  · next tail =>
    rw [withReturns_cons (by decide), withReturns_cons (by decide), commentAt?,
      toLineEnd_withReturns]
    rfl
  · next tail =>
    rw [withReturns_cons (by decide), withReturns_cons (by decide), commentAt?,
      blockEnd?_withReturns]
  · next tail =>
    rw [withReturns_cons (by decide), withReturns_cons (by decide), withReturns_cons (by decide),
      commentAt?, blockEnd?_withReturns]
  · next noLine noBlock noSpacedBlock =>
    have missing : ∀ mark : Text, '\r' ∉ mark → (∀ tail, text ≠ mark ++ tail) →
        ∀ rest, withReturns text ≠ mark ++ rest := by
      intro mark inside absent rest same
      obtain ⟨tail, parts⟩ := exists_append_of_withReturns inside same
      exact absent tail parts
    rw [commentAt?.eq_4]
    · rfl
    · exact missing ['/', '/'] (by decide) noLine
    · exact missing ['/', '*'] (by decide) noBlock
    · exact missing [' ', '/', '*'] (by decide) noSpacedBlock

theorem withoutComments_withReturns (text : Text) :
    withoutComments (withReturns text) = withReturns (withoutComments text) := by
  fun_induction withoutComments text with
  | case1 text cut found inductionHypothesis =>
    have foundToo := commentAt?_withReturns text
    rw [found] at foundToo
    rw [withoutComments_of_some foundToo, withReturns_append, ← inductionHypothesis]
    rfl
  | case2 missing => exact withoutComments_nil
  | case3 head tail missing inductionHypothesis =>
    have missingToo := commentAt?_withReturns (head :: tail)
    rw [missing] at missingToo
    by_cases feed : head = '\n'
    · subst feed
      rw [withReturns_feed, withoutComments_of_none rfl, withoutComments_of_none rfl,
        inductionHypothesis]
      rfl
    · rw [withReturns_cons feed] at missingToo ⊢
      rw [withoutComments_of_none missingToo, inductionHypothesis, withReturns_cons feed]

theorem takeWhile_withReturns (text : Text) :
    (withReturns text).takeWhile isBlank = withReturns (text.takeWhile isBlank) := by
  induction text with
  | nil => rfl
  | cons head tail inductionHypothesis =>
    by_cases feed : head = '\n'
    · subst feed
      rw [withReturns_feed, List.takeWhile_cons_of_pos (by decide),
        List.takeWhile_cons_of_pos (by decide), List.takeWhile_cons_of_pos (by decide),
        inductionHypothesis]
      rfl
    · rw [withReturns_cons feed, List.takeWhile_cons, List.takeWhile_cons, inductionHypothesis]
      split
      · rw [withReturns_cons feed]
      · rfl

theorem dropWhile_withReturns (text : Text) :
    (withReturns text).dropWhile isBlank = withReturns (text.dropWhile isBlank) := by
  induction text with
  | nil => rfl
  | cons head tail inductionHypothesis =>
    by_cases feed : head = '\n'
    · subst feed
      rw [withReturns_feed, List.dropWhile_cons_of_pos (by decide),
        List.dropWhile_cons_of_pos (by decide), List.dropWhile_cons_of_pos (by decide),
        inductionHypothesis]
    · rw [withReturns_cons feed, List.dropWhile_cons, List.dropWhile_cons, inductionHypothesis]
      split
      · rfl
      · rw [withReturns_cons feed]

/-- A line feed that stands alone is the beginning of a run with a carriage return. -/
theorem withoutBlankRuns_withReturns (text : Text) :
    withoutBlankRuns (withReturns text) = (withoutBlankRuns text).filter (· ≠ '\n') := by
  fun_induction withoutBlankRuns text with
  | case1 => simp [withReturns, withoutBlankRuns]
  | case2 head tail blank single inductionHypothesis =>
    have alone : tail.takeWhile isBlank = [] := by simpa using single
    have aloneToo : (withReturns tail).takeWhile isBlank = [] := by
      rw [takeWhile_withReturns, alone]
      rfl
    by_cases feed : head = '\n'
    · subst feed
      have whole : tail.dropWhile isBlank = tail := by
        have parts := List.takeWhile_append_dropWhile (p := isBlank) (l := tail)
        rwa [alone] at parts
      have goes : ('\n' :: withReturns tail).dropWhile isBlank = withReturns tail := by
        rw [List.dropWhile_cons_of_pos (by decide), dropWhile_withReturns, whole]
      rw [withReturns_feed, withoutBlankRuns_cons_of_run (by decide) (by simp [isBlank]), goes,
        inductionHypothesis]
      rfl
    · rw [withReturns_cons feed, withoutBlankRuns_cons_of_single blank aloneToo,
        inductionHypothesis, List.filter_cons_of_pos (by simpa using feed)]
  | case3 head tail blank run inductionHypothesis =>
    have runs : tail.takeWhile isBlank ≠ [] := by simpa using run
    have runsToo : (withReturns tail).takeWhile isBlank ≠ [] := by
      rw [takeWhile_withReturns]
      exact fun nothing => runs (withReturns_eq_nil_iff.1 nothing)
    by_cases feed : head = '\n'
    · subst feed
      rw [withReturns_feed, withoutBlankRuns_cons_of_run (by decide) (by simp [isBlank]),
        List.dropWhile_cons_of_pos (by decide), dropWhile_withReturns, inductionHypothesis]
    · rw [withReturns_cons feed, withoutBlankRuns_cons_of_run blank runsToo,
        dropWhile_withReturns, inductionHypothesis]
  | case4 head tail solid inductionHypothesis =>
    have isSolid : isBlank head = false := by simpa using solid
    have noFeed : head ≠ '\n' := by
      rintro rfl
      exact solid (by decide)
    rw [withReturns_cons noFeed, withoutBlankRuns_cons_of_solid isSolid, inductionHypothesis,
      List.filter_cons_of_pos (by simpa using noFeed)]

/-- Carriage returns in front of the line feeds stay there when the comments are cut out. They
make runs of the line feeds that stand alone in the normal form, and change nothing else. -/
theorem normalize_withReturns (text : Text) :
    withoutComments (withReturns text) = withReturns (withoutComments text) ∧
      normalize (withReturns text) = (normalize text).filter (· ≠ '\n') ∧
        Spaced (normalize text) := by
  refine ⟨withoutComments_withReturns text, ?_, spaced_withoutBlankRuns _⟩
  rw [normalize, normalize, withoutComments_withReturns, withoutBlankRuns_withReturns]

end SourceCatalog.Source
