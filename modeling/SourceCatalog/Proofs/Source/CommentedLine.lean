import SourceCatalog.Source.Comment

/-!
# Lines with a comment at their end

A line is code, perhaps a comment behind it, and a line end. The code holds no slash, so the
first slash of the line opens the comment, whatever the comment says. Main statement: the
comments of a text that begins with such lines are cut out line by line.
-/

namespace SourceCatalog.Source

inductive LineEnd where
  | feed
  | returnFeed
  deriving DecidableEq, Repr

def LineEnd.text : LineEnd → Text
  | feed => ['\n']
  | returnFeed => ['\r', '\n']

def Margin (text : Text) : Prop :=
  ∀ tested ∈ text, tested = ' ' ∨ tested = '\t'

instance (text : Text) : Decidable (Margin text) :=
  List.decidableBAll _ text

/-- Text on one line in which no comment can begin. -/
structure Plain (text : Text) : Prop where
  noSlash : '/' ∉ text
  noFeed : '\n' ∉ text
  noReturn : '\r' ∉ text

/-- A comment that closes its line. Behind a block comment there may be a comma and a margin. -/
inductive Comment where
  | line (content : Text) (noFeed : '\n' ∉ content) (noReturn : '\r' ∉ content)
  | block (content : Text) (closedOnce : ¬ ['*', '/'] <:+: content) (comma : Bool)
      (margin : Text) (isMargin : Margin margin)

def commaText (comma : Bool) : Text :=
  if comma then [','] else []

def Comment.text : Comment → Text
  | line content _ _ => '/' :: '/' :: content
  | block content _ comma margin _ =>
    '/' :: '*' :: (content ++ '*' :: '/' :: (commaText comma ++ margin))

/-- Whether a comma stays of a comment. -/
def Comment.keepsComma : Comment → Bool
  | line .. => false
  | block _ _ comma _ _ => comma

structure Line where
  code : Text
  plain : Plain code
  comment : Option Comment
  ending : LineEnd

namespace Line

def text (line : Line) : Text :=
  line.code ++ (line.comment.map Comment.text).getD [] ++ line.ending.text

/-- The code in front of a comment as it stays: a block comment takes one space with it. -/
def codeLeft (comment : Option Comment) (code : Text) : Text :=
  match comment with
  | some (.block ..) => if code.getLast? = some ' ' then code.dropLast else code
  | _ => code

def keepsComma (line : Line) : Bool :=
  line.comment.any Comment.keepsComma

def bare (line : Line) : Text :=
  codeLeft line.comment line.code ++ commaText line.keepsComma ++ line.ending.text

/-- The space that a comment takes with it is taken from the end of the code. -/
theorem exists_codeLeft (comment : Option Comment) {before : Text}
    (solid : before.getLast? ≠ some ' ') (after : Text) :
    ∃ left, left.Sublist after ∧ codeLeft comment (before ++ after) = before ++ left := by
  unfold codeLeft
  split
  · split
    · next spaced =>
      have filled : after ≠ [] := by
        rintro rfl
        rw [List.append_nil] at spaced
        exact solid spaced
      exact ⟨after.dropLast, List.dropLast_sublist after, List.dropLast_append_of_ne_nil filled⟩
    · exact ⟨after, List.Sublist.refl after, rfl⟩
  · exact ⟨after, List.Sublist.refl after, rfl⟩

end Line

/-- A text goes on with a line end, or not at all. -/
def OpensWithLineEnd (after : Text) : Prop :=
  after = [] ∨ after.head? = some '\n' ∨ after.head? = some '\r'

def OnOneLine (text : Text) : Prop :=
  ∀ tested ∈ text, tested ≠ '\n' ∧ tested ≠ '\r'

theorem LineEnd.opens (ending : LineEnd) (rest : Text) :
    OpensWithLineEnd (ending.text ++ rest) := by
  cases ending <;> simp [OpensWithLineEnd, LineEnd.text]

theorem toLineEnd_of_opens {after : Text} (opens : OpensWithLineEnd after) :
    toLineEnd after = after := by
  cases after with
  | nil => rfl
  | cons head tail =>
    have breaks : head = '\n' ∨ head = '\r' := by simpa [OpensWithLineEnd] using opens
    rw [toLineEnd, if_pos breaks]

theorem opens_toLineEnd (text : Text) : OpensWithLineEnd (toLineEnd text) := by
  fun_induction toLineEnd text with
  | case1 => exact Or.inl rfl
  | case2 head tail breaks => simpa [OpensWithLineEnd] using breaks
  | case3 head tail inside inductionHypothesis => exact inductionHypothesis

theorem toLineEnd_append_of_opens {content after : Text} (onOneLine : OnOneLine content)
    (opens : OpensWithLineEnd after) : toLineEnd (content ++ after) = after := by
  induction content with
  | nil => exact toLineEnd_of_opens opens
  | cons head tail inductionHypothesis =>
    have inside : ¬ (head = '\n' ∨ head = '\r') := by
      simpa using onOneLine head List.mem_cons_self
    have later := inductionHypothesis fun tested member =>
      onOneLine tested (List.mem_cons_of_mem head member)
    rw [List.cons_append, toLineEnd, if_neg inside, later]

theorem exists_append_toLineEnd (text : Text) :
    ∃ content, OnOneLine content ∧ text = content ++ toLineEnd text := by
  fun_induction toLineEnd text with
  | case1 => exact ⟨[], by simp [OnOneLine], rfl⟩
  | case2 head tail breaks => exact ⟨[], by simp [OnOneLine], rfl⟩
  | case3 head tail inside inductionHypothesis =>
    obtain ⟨content, onOneLine, parts⟩ := inductionHypothesis
    refine ⟨head :: content, ?_, by rw [List.cons_append, ← parts]⟩
    intro tested member
    rcases List.mem_cons.1 member with rfl | inContent
    · simpa using inside
    · exact onOneLine tested inContent

theorem blankToLineEnd?_eq_some_iff {text after : Text} :
    blankToLineEnd? text = some after ↔
      OpensWithLineEnd after ∧ ∃ margin, Margin margin ∧ text = margin ++ after := by
  constructor
  · intro found
    fun_induction blankToLineEnd? text with
    | case1 =>
      obtain rfl := Option.some.inj found
      exact ⟨Or.inl rfl, [], by simp [Margin], rfl⟩
    | case2 head tail breaks =>
      obtain rfl := Option.some.inj found
      exact ⟨by simpa [OpensWithLineEnd] using breaks, [], by simp [Margin], rfl⟩
    | case3 head tail inside blank inductionHypothesis =>
      obtain ⟨opens, margin, isMargin, rfl⟩ := inductionHypothesis found
      refine ⟨opens, head :: margin, ?_, rfl⟩
      simpa [Margin, blank] using isMargin
    | case4 => cases found
  · rintro ⟨opens, margin, isMargin, rfl⟩
    induction margin with
    | nil =>
      cases after with
      | nil => rfl
      | cons head tail =>
        have breaks : head = '\n' ∨ head = '\r' := by simpa [OpensWithLineEnd] using opens
        rw [List.nil_append, blankToLineEnd?, if_pos breaks]
    | cons head tail inductionHypothesis =>
      have blank : head = ' ' ∨ head = '\t' := isMargin head List.mem_cons_self
      have inside : ¬ (head = '\n' ∨ head = '\r') := by
        rcases blank with rfl | rfl <;> decide
      have later := inductionHypothesis fun tested member =>
        isMargin tested (List.mem_cons_of_mem head member)
      rw [List.cons_append, blankToLineEnd?, if_neg inside, if_pos blank, later]

/-- Behind `*/` a comma, spaces and tabs may stand in front of the end of the line. -/
theorem closing?_eq_some_iff {text : Text} {cut : Cut} :
    closing? text = some cut ↔
      OpensWithLineEnd cut.after ∧ ∃ comma margin, Margin margin ∧
        cut.kept = commaText comma ∧ text = commaText comma ++ (margin ++ cut.after) := by
  constructor
  · intro found
    unfold closing? at found
    split at found
    · next tail =>
      obtain ⟨after, blank, rfl⟩ := Option.map_eq_some_iff.1 found
      obtain ⟨opens, margin, isMargin, rfl⟩ := blankToLineEnd?_eq_some_iff.1 blank
      exact ⟨opens, true, margin, isMargin, rfl, rfl⟩
    · obtain ⟨after, blank, rfl⟩ := Option.map_eq_some_iff.1 found
      obtain ⟨opens, margin, isMargin, rfl⟩ := blankToLineEnd?_eq_some_iff.1 blank
      exact ⟨opens, false, margin, isMargin, rfl, rfl⟩
  · rintro ⟨opens, comma, margin, isMargin, kept, rfl⟩
    have blank := blankToLineEnd?_eq_some_iff.2 ⟨opens, margin, isMargin, rfl⟩
    obtain ⟨_, after⟩ := cut
    obtain rfl := kept
    cases comma with
    | true => simpa [commaText, closing?] using blank
    | false =>
      simp only [commaText, Bool.false_eq_true, if_false, List.nil_append] at blank ⊢
      unfold closing?
      split
      · next tail starts =>
        rw [starts] at blank
        simp [blankToLineEnd?] at blank
      · simpa using blank

theorem toLineEnd_append {content : Text} (noFeed : '\n' ∉ content) (noReturn : '\r' ∉ content)
    (ending : LineEnd) (rest : Text) :
    toLineEnd (content ++ (ending.text ++ rest)) = ending.text ++ rest := by
  apply toLineEnd_append_of_opens _ (ending.opens rest)
  intro tested member
  exact ⟨fun same => noFeed (same ▸ member), fun same => noReturn (same ▸ member)⟩

theorem closing?_append (comma : Bool) {margin : Text} (isMargin : Margin margin)
    (ending : LineEnd) (rest : Text) :
    closing? (commaText comma ++ (margin ++ (ending.text ++ rest))) =
      some ⟨commaText comma, ending.text ++ rest⟩ :=
  closing?_eq_some_iff.2 ⟨ending.opens rest, comma, margin, isMargin, rfl, rfl⟩

/-- The first `*/` ends a block comment if it closes its line. -/
theorem blockEnd?_append {content after : Text} {cut : Cut}
    (closedOnce : ¬ ['*', '/'] <:+: content) (closes : closing? after = some cut) :
    blockEnd? (content ++ '*' :: '/' :: after) = some cut := by
  induction content with
  | nil => rw [List.nil_append, blockEnd?, closes]
  | cons head tail inductionHypothesis =>
    have later := inductionHypothesis fun inTail =>
      closedOnce (inTail.trans (List.suffix_cons head tail).isInfix)
    rw [List.cons_append]
    unfold blockEnd?
    split
    · next unfinished => cases unfinished
    · next early starts =>
      -- `*/` at the beginning would have to be the content's own
      obtain ⟨rfl, follows⟩ := List.cons.inj starts
      cases tail with
      | nil => exact absurd (List.cons.inj follows).1 (by decide)
      | cons second others =>
        obtain ⟨rfl, _⟩ := List.cons.inj follows
        exact absurd (List.prefix_append ['*', '/'] others).isInfix closedOnce
    · next first others _ starts =>
      obtain ⟨_, rfl⟩ := List.cons.inj starts
      exact later

theorem commentAt?_append (comment : Comment) (ending : LineEnd) (rest : Text) :
    commentAt? (comment.text ++ (ending.text ++ rest)) =
      some ⟨commaText comment.keepsComma, ending.text ++ rest⟩ := by
  cases comment with
  | line content noFeed noReturn =>
    have ends := toLineEnd_append noFeed noReturn ending rest
    exact congrArg (fun after => some (Cut.mk [] after)) ends
  | block content closedOnce comma margin isMargin =>
    have closes := closing?_append comma isMargin ending rest
    have found := blockEnd?_append closedOnce closes
    simp only [Comment.text, List.cons_append, List.append_assoc]
    exact found

/-- A space in front of a block comment belongs to it. -/
theorem commentAt?_space_append {content : Text} (closedOnce : ¬ ['*', '/'] <:+: content)
    (comma : Bool) {margin : Text} (isMargin : Margin margin) (ending : LineEnd) (rest : Text) :
    commentAt? (' ' :: ((Comment.block content closedOnce comma margin isMargin).text ++
      (ending.text ++ rest))) = some ⟨commaText comma, ending.text ++ rest⟩ := by
  have closes := closing?_append comma isMargin ending rest
  have found := blockEnd?_append closedOnce closes
  simp only [Comment.text, List.cons_append, List.append_assoc]
  exact found

/-! ## Cutting comments out -/

theorem withoutComments_of_some {text : Text} {cut : Cut} (found : commentAt? text = some cut) :
    withoutComments text = cut.kept ++ withoutComments cut.after := by
  rw [withoutComments]
  split
  · next other here =>
    rw [found] at here
    cases here
    rfl
  · next missing => rw [found] at missing; cases missing

theorem withoutComments_of_none {head : Char} {tail : Text}
    (missing : commentAt? (head :: tail) = none) :
    withoutComments (head :: tail) = head :: withoutComments tail := by
  rw [withoutComments]
  split
  · next found => rw [missing] at found; cases found
  · rfl

@[simp]
theorem withoutComments_nil : withoutComments [] = [] := by
  rw [withoutComments]
  split
  · next found => cases found
  · rfl

/-- A text without slashes holds no comment, unless its last space belongs to one. -/
theorem withoutComments_append {code rest : Text} (noSlash : '/' ∉ code)
    (apart : code.getLast? = some ' ' → ∀ tail, rest ≠ '/' :: '*' :: tail) :
    withoutComments (code ++ rest) = code ++ withoutComments rest := by
  induction code with
  | nil => rfl
  | cons head tail inductionHypothesis =>
    rw [List.mem_cons, not_or] at noSlash
    have missing : commentAt? (head :: (tail ++ rest)) = none := by
      unfold commentAt?
      split
      · next starts => exact absurd (List.cons.inj starts).1.symm noSlash.1
      · next starts => exact absurd (List.cons.inj starts).1.symm noSlash.1
      · next after starts =>
        obtain ⟨rfl, follows⟩ := List.cons.inj starts
        cases tail with
        | nil => exact absurd follows (apart rfl after)
        | cons second others =>
          exact absurd (List.cons.inj follows).1 fun same =>
            noSlash.2 (same ▸ List.mem_cons_self)
      · rfl
    have tailApart : tail.getLast? = some ' ' → ∀ after, rest ≠ '/' :: '*' :: after := by
      intro last
      apply apart
      rw [List.getLast?_cons, last]
      rfl
    rw [List.cons_append, withoutComments_of_none missing,
      inductionHypothesis noSlash.2 tailApart]
    rfl

theorem withoutComments_ending (ending : LineEnd) (rest : Text) :
    withoutComments (ending.text ++ rest) = ending.text ++ withoutComments rest := by
  apply withoutComments_append
  · cases ending <;> decide
  · intro last
    cases ending <;> cases last

/-- A comment behind code is cut out up to the end of its line. -/
theorem withoutComments_comment (comment : Comment) {code : Text} (noSlash : '/' ∉ code)
    (ending : LineEnd) (rest : Text) :
    withoutComments (code ++ (comment.text ++ (ending.text ++ rest))) =
      Line.codeLeft (some comment) code ++ commaText comment.keepsComma ++
        (ending.text ++ withoutComments rest) := by
  have cut := withoutComments_of_some (commentAt?_append comment ending rest)
  rw [withoutComments_ending] at cut
  cases comment with
  | line content noFeed noReturn =>
    have apart : code.getLast? = some ' ' →
        ∀ tail, (Comment.line content noFeed noReturn).text ++ (ending.text ++ rest) ≠
          '/' :: '*' :: tail := by
      intro _ tail same
      exact absurd (List.cons.inj (List.cons.inj same).2).1 (by decide)
    rw [withoutComments_append noSlash apart, cut, List.append_assoc]
    rfl
  | block content closedOnce comma margin isMargin =>
    by_cases spaced : code.getLast? = some ' '
    · obtain ⟨before, rfl⟩ := List.getLast?_eq_some_iff.1 spaced
      have noSlashBefore : '/' ∉ before := fun member =>
        noSlash (List.mem_append_left [' '] member)
      have withSpace :=
        withoutComments_of_some (commentAt?_space_append closedOnce comma isMargin ending rest)
      rw [withoutComments_ending] at withSpace
      have apart : before.getLast? = some ' ' → ∀ tail,
          ' ' :: ((Comment.block content closedOnce comma margin isMargin).text ++
            (ending.text ++ rest)) ≠ '/' :: '*' :: tail := by
        intro _ tail same
        exact absurd (List.cons.inj same).1 (by decide)
      rw [List.append_assoc, List.cons_append, List.nil_append,
        withoutComments_append noSlashBefore apart, withSpace, Line.codeLeft, if_pos spaced,
        List.dropLast_concat, List.append_assoc]
      rfl
    · rw [withoutComments_append noSlash fun last => absurd last spaced, cut,
        Line.codeLeft, if_neg spaced, List.append_assoc]

/-- A line keeps its code, its comma and its end. -/
theorem withoutComments_line (line : Line) (rest : Text) :
    withoutComments (line.text ++ rest) = line.bare ++ withoutComments rest := by
  obtain ⟨code, plain, comment, ending⟩ := line
  cases comment with
  | none =>
    have apart : code.getLast? = some ' ' → ∀ tail, ending.text ++ rest ≠ '/' :: '*' :: tail := by
      intro _ tail same
      cases ending <;> exact absurd (List.cons.inj same).1 (by decide)
    have whole : (Line.mk code plain none ending).text ++ rest = code ++ (ending.text ++ rest) := by
      simp [Line.text]
    rw [whole, withoutComments_append plain.noSlash apart, withoutComments_ending,
      ← List.append_assoc, Line.bare]
    simp [Line.codeLeft, Line.keepsComma, commaText]
  | some comment =>
    have cut := withoutComments_comment comment plain.noSlash ending rest
    have whole : (Line.mk code plain (some comment) ending).text ++ rest =
        code ++ (comment.text ++ (ending.text ++ rest)) := by
      simp [Line.text]
    rw [whole, cut, ← List.append_assoc]
    rfl

/-- The comments of lines are cut out, whatever follows the lines. -/
theorem withoutComments_lines (lines : List Line) (rest : Text) :
    withoutComments (lines.flatMap Line.text ++ rest) =
      lines.flatMap Line.bare ++ withoutComments rest := by
  induction lines with
  | nil => rfl
  | cons head tail inductionHypothesis =>
    rw [List.flatMap_cons, List.append_assoc, withoutComments_line, inductionHypothesis,
      List.flatMap_cons, List.append_assoc]

end SourceCatalog.Source
