import SourceCatalog.Proofs.Source.CommentedLine

/-!
# The comment at a place

A remark is a comment taken apart. Whether it stands at a place of a text is said without a
search: a line comment goes on to the end of its line, and a block comment to the first `*/`
that closes its line, however many lines further down. Main statement: at each place there is
at most one remark, and the one that stands there is the comment that is cut out.
-/

namespace SourceCatalog.Source

/-- A line ends between two parts of a text, but not between a carriage return and its line
feed. -/
def LineEndsBetween (before after : Text) : Prop :=
  after = [] ∨ after.head? = some '\r' ∨ after.head? = some '\n' ∧ before.getLast? ≠ some '\r'

theorem lineEndsBetween_iff {before after : Text} (inside : before.getLast? ≠ some '\r') :
    LineEndsBetween before after ↔ OpensWithLineEnd after := by
  unfold LineEndsBetween OpensWithLineEnd
  constructor
  · rintro (ended | carriage | ⟨feed, _⟩)
    · exact Or.inl ended
    · exact Or.inr (Or.inr carriage)
    · exact Or.inr (Or.inl feed)
  · rintro (ended | feed | carriage)
    · exact Or.inl ended
    · exact Or.inr (Or.inr ⟨feed, inside⟩)
    · exact Or.inr (Or.inl carriage)

/-- A `*/` that closes its line is found, or an earlier one is. -/
theorem blockEnd?_append_isSome (content : Text) {tail : Text}
    (closes : (closing? tail).isSome) : (blockEnd? (content ++ '*' :: '/' :: tail)).isSome := by
  induction content with
  | nil =>
    obtain ⟨cut, found⟩ := Option.isSome_iff_exists.1 closes
    rw [List.nil_append, blockEnd?, found]
    rfl
  | cons head others inductionHypothesis =>
    rw [List.cons_append]
    unfold blockEnd?
    split
    · next nothing => cases nothing
    · next early starts =>
      obtain ⟨rfl, follows⟩ := List.cons.inj starts
      split
      · rfl
      · rw [← follows]
        exact inductionHypothesis
    · next first rest _ starts =>
      obtain ⟨_, rfl⟩ := List.cons.inj starts
      exact inductionHypothesis

theorem exists_append_of_blockEnd? {text : Text} {cut : Cut} (found : blockEnd? text = some cut) :
    ∃ content tail, text = content ++ '*' :: '/' :: tail ∧ closing? tail = some cut ∧
      ∀ other rest, text = other ++ '*' :: '/' :: rest → (closing? rest).isSome →
        content.length ≤ other.length := by
  fun_induction blockEnd? text with
  | case1 => cases found
  | case2 tail here closes =>
    obtain rfl := Option.some.inj found
    exact ⟨[], tail, rfl, closes, fun other rest _ _ => Nat.zero_le _⟩
  | case3 tail stays inductionHypothesis =>
    obtain ⟨content, last, parts, closes, shortest⟩ := inductionHypothesis found
    refine ⟨'*' :: content, last, by rw [parts]; rfl, closes, ?_⟩
    intro other rest same otherCloses
    cases other with
    | nil =>
      obtain ⟨_, sameTail⟩ := List.cons.inj (List.cons.inj same).2
      rw [← sameTail, stays] at otherCloses
      cases otherCloses
    | cons head others =>
      have := shortest others rest (List.cons.inj same).2 otherCloses
      simpa using this
  | case4 head tail different inductionHypothesis =>
    obtain ⟨content, last, parts, closes, shortest⟩ := inductionHypothesis found
    refine ⟨head :: content, last, by rw [parts]; rfl, closes, ?_⟩
    intro other rest same otherCloses
    cases other with
    | nil => exact (different rest (List.cons.inj same).1 (List.cons.inj same).2).elim
    | cons first others =>
      have := shortest others rest (List.cons.inj same).2 otherCloses
      simpa using this

/-- The parts of a comment. A block comment may take a space with it in front, and a comma
behind. -/
inductive Remark where
  | line (content : Text)
  | block (spaced : Bool) (content : Text) (comma : Bool) (margin : Text)
  deriving DecidableEq, Repr

/-- Behind a block comment's content and its `*/`, which follow `before`, there is at most a
comma in front of the end of the line. -/
def ClosesLine (before : Text) (comma : Bool) (margin after : Text) : Prop :=
  Margin margin ∧
    LineEndsBetween (before ++ '*' :: '/' :: (commaText comma ++ margin)) after

namespace Remark

def opening (spaced : Bool) : Text :=
  (if spaced then [' '] else []) ++ ['/', '*']

/-- A content with the end that closes its line. -/
def closed (content : Text) (comma : Bool) (margin : Text) : Text :=
  content ++ '*' :: '/' :: (commaText comma ++ margin)

def text : Remark → Text
  | line content => '/' :: '/' :: content
  | block spaced content comma margin => opening spaced ++ closed content comma margin

def kept : Remark → Text
  | line _ => []
  | block _ _ comma _ => commaText comma

/-- A remark is all of the comment that begins behind `before`, and `after` follows it. -/
def Stands (before : Text) (remark : Remark) (after : Text) : Prop :=
  match remark with
  | line content => OnOneLine content ∧ OpensWithLineEnd after
  | block spaced content comma margin =>
    ClosesLine (before ++ opening spaced ++ content) comma margin after ∧
      -- and no earlier `*/` closes a line
      ∀ content' comma' margin' after',
        closed content' comma' margin' ++ after' = closed content comma margin ++ after →
          ClosesLine (before ++ opening spaced ++ content') comma' margin' after' →
            content.length ≤ content'.length

end Remark

theorem eq_of_mem_commaText_append {comma : Bool} {margin : Text} (isMargin : Margin margin)
    {tested : Char} (member : tested ∈ commaText comma ++ margin) :
    tested = ',' ∨ tested = ' ' ∨ tested = '\t' := by
  rcases List.mem_append.1 member with inComma | inMargin
  · cases comma with
    | true => exact Or.inl (List.mem_singleton.1 inComma)
    | false => cases inComma
  · exact Or.inr (isMargin tested inMargin)

/-- Whether a line ends there is seen from the text behind. -/
theorem closesLine_iff {before margin after : Text} {comma : Bool} :
    ClosesLine before comma margin after ↔ Margin margin ∧ OpensWithLineEnd after := by
  apply and_congr_right
  intro isMargin
  apply lineEndsBetween_iff
  intro last
  have closing : (before ++ '*' :: '/' :: (commaText comma ++ margin)).getLast? =
      ('/' :: (commaText comma ++ margin)).getLast? := by
    rw [List.getLast?_append, List.getLast?_cons_cons, List.getLast?_cons]
    rfl
  have member := List.mem_of_getLast? (closing ▸ last)
  rcases List.mem_cons.1 member with same | behind
  · exact absurd same (by decide)
  · rcases eq_of_mem_commaText_append isMargin behind with same | same | same <;>
      exact absurd same (by decide)

theorem closing?_of_closesLine {before margin after : Text} {comma : Bool}
    (closes : ClosesLine before comma margin after) :
    closing? (commaText comma ++ (margin ++ after)) = some ⟨commaText comma, after⟩ := by
  obtain ⟨isMargin, opens⟩ := closesLine_iff.1 closes
  exact closing?_eq_some_iff.2 ⟨opens, comma, margin, isMargin, rfl, rfl⟩

namespace Remark

variable {before after : Text}

theorem closed_append (content : Text) (comma : Bool) (margin after : Text) :
    closed content comma margin ++ after =
      content ++ '*' :: '/' :: (commaText comma ++ (margin ++ after)) := by
  simp [closed]

theorem commentAt?_opening (spaced : Bool) (text : Text) :
    commentAt? (opening spaced ++ text) = blockEnd? text := by
  cases spaced <;> rfl

/-- The first `*/` that closes its line ends a block comment that stands at a place. -/
theorem Stands.blockEnd?_eq {spaced comma : Bool} {content margin : Text}
    (stands : (block spaced content comma margin).Stands before after) :
    blockEnd? (closed content comma margin ++ after) = some ⟨commaText comma, after⟩ := by
  obtain ⟨closes, shortest⟩ := stands
  have here := closing?_of_closesLine closes
  have ends : (blockEnd? (closed content comma margin ++ after)).isSome := by
    rw [closed_append]
    exact blockEnd?_append_isSome content (by rw [here]; rfl)
  obtain ⟨cut, found⟩ := Option.isSome_iff_exists.1 ends
  obtain ⟨first, tail, parts, firstCloses, firstShortest⟩ := exists_append_of_blockEnd? found
  obtain ⟨opens, comma', margin', isMargin, kept, rfl⟩ := closing?_eq_some_iff.1 firstCloses
  -- neither content is longer than the other
  have notLonger : first.length ≤ content.length := by
    apply firstShortest content _ (closed_append content comma margin after)
    rw [here]
    rfl
  have notShorter : content.length ≤ first.length := by
    apply shortest first comma' margin' cut.after
    · rw [closed_append, parts]
    · exact closesLine_iff.2 ⟨isMargin, opens⟩
  rw [closed_append] at parts
  obtain ⟨_, behind⟩ := List.append_inj parts (Nat.le_antisymm notShorter notLonger)
  have same := (List.cons.inj (List.cons.inj behind).2).2
  rw [← same, here] at firstCloses
  rw [found, ← firstCloses]

/-- A remark that stands in a text is found as it is. -/
theorem Stands.commentAt?_eq {remark : Remark} (stands : remark.Stands before after) :
    commentAt? (remark.text ++ after) = some ⟨remark.kept, after⟩ := by
  cases remark with
  | line content =>
    obtain ⟨onOneLine, opens⟩ := stands
    have ends := toLineEnd_append_of_opens onOneLine opens
    simp [text, kept, commentAt?, ends]
  | block spaced content comma margin =>
    rw [text, List.append_assoc, commentAt?_opening]
    exact stands.blockEnd?_eq

/-- A comment that is cut out stands at its place. -/
theorem exists_stands (before : Text) {source : Text} {cut : Cut}
    (found : commentAt? source = some cut) :
    ∃ remark : Remark, remark.Stands before cut.after ∧ remark.kept = cut.kept ∧
      source = remark.text ++ cut.after := by
  have ofBlock : ∀ (spaced : Bool) (tail : Text), blockEnd? tail = some cut →
      ∃ remark : Remark, remark.Stands before cut.after ∧ remark.kept = cut.kept ∧
        opening spaced ++ tail = remark.text ++ cut.after := by
    intro spaced tail ends
    obtain ⟨content, rest, rfl, closes, shortest⟩ := exists_append_of_blockEnd? ends
    obtain ⟨opens, comma, margin, isMargin, kept, rfl⟩ := closing?_eq_some_iff.1 closes
    refine ⟨block spaced content comma margin, ⟨?_, ?_⟩, kept.symm, ?_⟩
    · exact closesLine_iff.2 ⟨isMargin, opens⟩
    · intro content' comma' margin' after' same otherCloses
      rw [closed_append, closed_append] at same
      apply shortest content' _ same.symm
      rw [closing?_of_closesLine otherCloses]
      rfl
    · simp [text, closed]
  unfold commentAt? at found
  split at found
  · next tail =>
    obtain rfl := Option.some.inj found
    obtain ⟨content, onOneLine, parts⟩ := exists_append_toLineEnd tail
    refine ⟨line content, ⟨onOneLine, opens_toLineEnd tail⟩, rfl, ?_⟩
    simp [text, ← parts]
  · next tail => exact ofBlock false tail found
  · next tail => exact ofBlock true tail found
  · cases found

theorem text_ne_nil (remark : Remark) : remark.text ≠ [] := by
  cases remark with
  | line content => exact List.cons_ne_nil _ _
  | block spaced content comma margin => cases spaced <;> exact List.cons_ne_nil _ _

theorem commaText_injective :
    ∀ comma comma' : Bool, commaText comma = commaText comma' → comma = comma' := by
  decide

/-- Two block comments that stand at one place and have one text have the same parts. -/
theorem Stands.block_unique {spaced comma spaced' comma' : Bool}
    {content margin content' margin' : Text}
    (stands : (block spaced content comma margin).Stands before after)
    (otherStands : (block spaced' content' comma' margin').Stands before after)
    (sameComma : commaText comma = commaText comma')
    (same : opening spaced ++ closed content comma margin =
      opening spaced' ++ closed content' comma' margin') :
    block spaced content comma margin = block spaced' content' comma' margin' := by
  have sameSpaced : spaced = spaced' := by
    cases spaced <;> cases spaced' <;> simp [opening] at same ⊢
  obtain rfl := sameSpaced
  have sameClosed := List.append_cancel_left same
  have whole := congrArg (· ++ after) sameClosed
  have notLonger := stands.2 content' comma' margin' after whole.symm otherStands.1
  have notShorter := otherStands.2 content comma margin after whole stands.1
  obtain ⟨rfl, behind⟩ := List.append_inj sameClosed (Nat.le_antisymm notLonger notShorter)
  obtain rfl := commaText_injective comma comma' sameComma
  have sameMargin := List.append_cancel_left (List.cons.inj (List.cons.inj behind).2).2
  rw [sameMargin]

/-- At most one remark stands at a place. -/
theorem Stands.unique {remark other : Remark} {rest : Text}
    (stands : remark.Stands before after) (otherStands : other.Stands before rest)
    (same : remark.text ++ after = other.text ++ rest) : remark = other ∧ after = rest := by
  have cut := stands.commentAt?_eq
  rw [same, otherStands.commentAt?_eq] at cut
  obtain ⟨sameKept, rfl⟩ := Cut.mk.inj (Option.some.inj cut)
  refine ⟨?_, rfl⟩
  have sameText := List.append_cancel_right same
  cases remark with
  | line content =>
    cases other with
    | line content' => rw [(List.cons.inj (List.cons.inj sameText).2).2]
    | block spaced content' comma margin => cases spaced <;> simp [text, opening] at sameText
  | block spaced content comma margin =>
    cases other with
    | line content' => cases spaced <;> simp [text, opening] at sameText
    | block spaced' content' comma' margin' =>
      exact stands.block_unique otherStands sameKept.symm sameText

end Remark

/-- A comment that is cut out leaves at most a comma, and the end of its line follows. -/
theorem exists_commaText_of_commentAt? {text : Text} {cut : Cut}
    (found : commentAt? text = some cut) :
    OpensWithLineEnd cut.after ∧ ∃ comma, cut.kept = commaText comma := by
  obtain ⟨remark, stands, sameKept, _⟩ := Remark.exists_stands [] found
  rw [← sameKept]
  cases remark with
  | line content => exact ⟨stands.2, false, rfl⟩
  | block spaced content comma margin => exact ⟨(closesLine_iff.1 stands.1).2, comma, rfl⟩

end SourceCatalog.Source
