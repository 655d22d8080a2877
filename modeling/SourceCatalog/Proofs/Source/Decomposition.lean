import SourceCatalog.Proofs.Source.Remarks

/-!
# A text as its comments and what lies between them

Cutting comments out goes through a text from left to right, and the comment that begins first
is cut out. Main statement: this takes a text apart in the one way in which every comment begins
as early as it can, and no `//` is left.
-/

namespace SourceCatalog.Source

/-- A remark stands at the place between two parts of a text. -/
def Begins (before after : Text) : Prop :=
  ∃ remark rest, Remark.Stands before remark rest ∧ after = remark.text ++ rest

/-- No remark begins inside `between`, which lies between two parts of a text. -/
def NoneBegins (before between after : Text) : Prop :=
  ∀ left right, between = left ++ right → right ≠ [] → ¬ Begins (before ++ left) (right ++ after)

theorem begins_iff {before after : Text} : Begins before after ↔ (commentAt? after).isSome := by
  constructor
  · intro begins
    obtain ⟨remark, rest, stands, rfl⟩ := begins
    rw [stands.commentAt?_eq]
    rfl
  · intro found
    obtain ⟨cut, isCut⟩ := Option.isSome_iff_exists.1 found
    obtain ⟨remark, stands, _, whole⟩ := Remark.exists_stands before isCut
    exact ⟨remark, cut.after, stands, whole⟩

theorem noneBegins_nil (before after : Text) : NoneBegins before [] after := by
  intro left right parts filled
  exact absurd (List.append_eq_nil_iff.1 parts.symm).2 filled

theorem NoneBegins.cons {before between after : Text} {head : Char}
    (missing : commentAt? (head :: (between ++ after)) = none)
    (later : NoneBegins (before ++ [head]) between after) :
    NoneBegins before (head :: between) after := by
  intro left right parts filled
  cases left with
  | nil =>
    obtain rfl : head :: between = right := parts
    rw [begins_iff, List.cons_append, missing]
    exact Bool.false_ne_true
  | cons first others =>
    obtain ⟨rfl, inside⟩ := List.cons.inj parts
    simpa using later others right inside filled

/-- A text taken apart: its remarks, each with what lies in front of it, and what lies behind
the last one. -/
structure Parts where
  passages : List (Text × Remark)
  last : Text
  deriving DecidableEq, Repr

namespace Parts

def text (parts : Parts) : Text :=
  (parts.passages.flatMap fun passage => passage.1 ++ passage.2.text) ++ parts.last

def kept (parts : Parts) : Text :=
  (parts.passages.flatMap fun passage => passage.1 ++ passage.2.kept) ++ parts.last

/-- Behind `before`, the remarks of the passages stand one after the other, and each of them is
the first to begin. -/
def EarliestFrom (before last : Text) : List (Text × Remark) → Prop
  | [] => NoneBegins before last []
  | (between, remark) :: later =>
    let rest := text ⟨later, last⟩
    NoneBegins before between (remark.text ++ rest) ∧
      remark.Stands (before ++ between) rest ∧
        EarliestFrom (before ++ between ++ remark.text) last later

def Earliest (parts : Parts) : Prop :=
  EarliestFrom [] parts.last parts.passages

@[simp]
theorem text_nil (last : Text) : text ⟨[], last⟩ = last :=
  rfl

theorem text_cons (between : Text) (remark : Remark) (later : List (Text × Remark))
    (last : Text) :
    text ⟨(between, remark) :: later, last⟩ = between ++ (remark.text ++ text ⟨later, last⟩) := by
  simp [text]

/-- A remark that stands in front of the end of a passage would begin inside it. -/
theorem eq_nil_of_stands {before between more after rest : Text} {remark : Remark}
    (none : NoneBegins before (between ++ more) after)
    (stands : remark.Stands (before ++ between) rest)
    (follows : remark.text ++ rest = more ++ after) : more = [] := by
  apply Classical.byContradiction
  intro filled
  exact none between more rfl filled ⟨remark, rest, stands, follows.symm⟩

theorem append_remark_inj {before between other : Text} {remark otherRemark : Remark}
    {rest otherRest : Text} (none : NoneBegins before between (remark.text ++ rest))
    (otherNone : NoneBegins before other (otherRemark.text ++ otherRest))
    (stands : remark.Stands (before ++ between) rest)
    (otherStands : otherRemark.Stands (before ++ other) otherRest)
    (same : between ++ (remark.text ++ rest) = other ++ (otherRemark.text ++ otherRest)) :
    between = other ∧ remark = otherRemark ∧ rest = otherRest := by
  have sameBetween : between = other := by
    rcases List.append_eq_append_iff.1 same with ⟨more, parts, follows⟩ | ⟨more, parts, follows⟩
    · rw [parts] at otherNone
      rw [parts, eq_nil_of_stands otherNone stands follows, List.append_nil]
    · rw [parts] at none
      rw [parts, eq_nil_of_stands none otherStands follows, List.append_nil]
  subst sameBetween
  exact ⟨rfl, stands.unique otherStands (List.append_cancel_left same)⟩

theorem not_noneBegins_append {before between rest : Text} {remark : Remark}
    (stands : remark.Stands (before ++ between) rest) :
    ¬ NoneBegins before (between ++ (remark.text ++ rest)) [] := by
  intro none
  have nothing := eq_nil_of_stands none stands (List.append_nil _).symm
  exact remark.text_ne_nil (List.append_eq_nil_iff.1 nothing).1

/-- There is one way at most to take a text apart from the left. -/
theorem earliestFrom_unique {before last otherLast : Text} {passages others : List (Text × Remark)}
    (earliest : EarliestFrom before last passages)
    (otherEarliest : EarliestFrom before otherLast others)
    (same : text ⟨passages, last⟩ = text ⟨others, otherLast⟩) :
    passages = others ∧ last = otherLast := by
  induction passages generalizing before others with
  | nil =>
    cases others with
    | nil => exact ⟨rfl, same⟩
    | cons passage later =>
      obtain ⟨_, stands, _⟩ := otherEarliest
      rw [text_cons, text_nil] at same
      rw [EarliestFrom, same] at earliest
      exact absurd earliest (not_noneBegins_append stands)
  | cons passage later inductionHypothesis =>
    obtain ⟨none, stands, earliestLater⟩ := earliest
    cases others with
    | nil =>
      rw [text_cons, text_nil] at same
      rw [EarliestFrom, ← same] at otherEarliest
      exact absurd otherEarliest (not_noneBegins_append stands)
    | cons other otherLater =>
      obtain ⟨otherNone, otherStands, otherEarliestLater⟩ := otherEarliest
      rw [text_cons, text_cons] at same
      obtain ⟨sameBetween, sameRemark, sameRest⟩ :=
        append_remark_inj none otherNone stands otherStands same
      obtain rfl : passage = other := Prod.ext sameBetween sameRemark
      obtain ⟨rfl, rfl⟩ := inductionHypothesis earliestLater otherEarliestLater sameRest
      exact ⟨rfl, rfl⟩

def prepend (head : Char) : Parts → Parts
  | ⟨[], last⟩ => ⟨[], head :: last⟩
  | ⟨(between, remark) :: later, last⟩ => ⟨(head :: between, remark) :: later, last⟩

@[simp]
theorem text_prepend (head : Char) (parts : Parts) :
    (prepend head parts).text = head :: parts.text := by
  obtain ⟨passages, last⟩ := parts
  cases passages <;> rfl

@[simp]
theorem kept_prepend (head : Char) (parts : Parts) :
    (prepend head parts).kept = head :: parts.kept := by
  obtain ⟨passages, last⟩ := parts
  cases passages <;> rfl

theorem earliestFrom_prepend {before : Text} {head : Char} {parts : Parts}
    (missing : commentAt? (head :: parts.text) = none)
    (earliest : EarliestFrom (before ++ [head]) parts.last parts.passages) :
    EarliestFrom before (prepend head parts).last (prepend head parts).passages := by
  obtain ⟨passages, last⟩ := parts
  cases passages with
  | nil =>
    apply NoneBegins.cons _ earliest
    simpa using missing
  | cons passage later =>
    obtain ⟨between, remark⟩ := passage
    obtain ⟨none, stands, earliestLater⟩ := earliest
    rw [text_cons] at missing
    refine ⟨NoneBegins.cons missing none, ?_, ?_⟩
    · simpa [prepend] using stands
    · simpa [prepend] using earliestLater

/-- The reader takes every text apart. -/
theorem exists_earliestFrom (text before : Text) :
    ∃ parts : Parts, parts.text = text ∧ EarliestFrom before parts.last parts.passages ∧
      withoutComments text = parts.kept := by
  fun_induction withoutComments text generalizing before with
  | case1 text cut found inductionHypothesis =>
    obtain ⟨remark, stands, sameKept, whole⟩ := Remark.exists_stands before found
    obtain ⟨parts, sameText, earliest, rest⟩ := inductionHypothesis (before ++ remark.text)
    refine ⟨⟨([], remark) :: parts.passages, parts.last⟩, ?_, ⟨noneBegins_nil _ _, ?_, ?_⟩, ?_⟩
    · rw [text_cons, whole, ← sameText]
      rfl
    · rw [List.append_nil, sameText]
      exact stands
    · rw [List.append_nil]
      exact earliest
    · rw [rest, ← sameKept]
      simp [kept]
  | case2 missing => exact ⟨⟨[], []⟩, rfl, noneBegins_nil _ _, rfl⟩
  | case3 head tail missing inductionHypothesis =>
    obtain ⟨parts, rfl, earliest, rest⟩ := inductionHypothesis (before ++ [head])
    refine ⟨prepend head parts, by simp, earliestFrom_prepend missing earliest, ?_⟩
    rw [rest, kept_prepend]

end Parts

/-! ## No line comment is left -/

theorem withoutComments_of_opens {after : Text} (opens : OpensWithLineEnd after) :
    OpensWithLineEnd (withoutComments after) := by
  cases after with
  | nil => simpa using opens
  | cons head tail =>
    have breaks : head = '\n' ∨ head = '\r' := by simpa [OpensWithLineEnd] using opens
    have missing : commentAt? (head :: tail) = none := by
      rcases breaks with rfl | rfl <;> rfl
    rw [withoutComments_of_none missing]
    simpa [OpensWithLineEnd] using breaks

/-- A comment that is cut out leaves at most a comma in front of the end of its line. -/
theorem head?_kept_append {text : Text} {cut : Cut} (found : commentAt? text = some cut) :
    (cut.kept ++ withoutComments cut.after).head? ≠ some '/' := by
  obtain ⟨opens, comma, isComma⟩ := exists_commaText_of_commentAt? found
  rw [isComma]
  cases comma with
  | true => simp [commaText]
  | false =>
    intro slash
    rcases withoutComments_of_opens opens with ended | feed | carriage
    · simp [commaText, ended] at slash
    · simp [commaText, feed] at slash
    · simp [commaText, carriage] at slash

theorem head?_of_withoutComments {text : Text} (slash : (withoutComments text).head? = some '/') :
    text.head? = some '/' := by
  cases found : commentAt? text with
  | some cut =>
    rw [withoutComments_of_some found] at slash
    exact absurd slash (head?_kept_append found)
  | none =>
    cases text with
    | nil => simp at slash
    | cons head tail =>
      rw [withoutComments_of_none found] at slash
      exact slash

/-- No two slashes are left side by side. -/
theorem not_doubleSlash_withoutComments (text : Text) :
    ¬ ['/', '/'] <:+: withoutComments text := by
  fun_induction withoutComments text with
  | case1 text cut found inductionHypothesis =>
    obtain ⟨_, comma, isComma⟩ := exists_commaText_of_commentAt? found
    rw [isComma]
    cases comma with
    | true => simpa [commaText, List.infix_cons_iff] using inductionHypothesis
    | false => simpa [commaText] using inductionHypothesis
  | case2 missing => simp
  | case3 head tail missing inductionHypothesis =>
    intro found
    rcases List.infix_cons_iff.1 found with atHead | inTail
    · obtain ⟨sameHead, follows⟩ := List.cons_prefix_cons.1 atHead
      have slash : (withoutComments tail).head? = some '/' := by
        obtain ⟨rest, parts⟩ := follows
        rw [← parts]
        rfl
      obtain ⟨others, rfl⟩ := List.head?_eq_some_iff.1 (head?_of_withoutComments slash)
      rw [← sameHead] at missing
      cases missing
    · exact inductionHypothesis inTail

/-- A text is taken apart in exactly one way in which each remark is the first to begin, and
this is how comments are cut out. No line comment is left. -/
theorem withoutComments_decomposes (text : Text) :
    ∃ parts : Parts, (parts.text = text ∧ parts.Earliest) ∧
      (∀ other : Parts, other.text = text → other.Earliest → other = parts) ∧
        withoutComments text = parts.kept ∧ ¬ ['/', '/'] <:+: withoutComments text := by
  obtain ⟨parts, sameText, earliest, sameKept⟩ := Parts.exists_earliestFrom text []
  refine ⟨parts, ⟨sameText, earliest⟩, ?_, sameKept, not_doubleSlash_withoutComments text⟩
  intro other otherText otherEarliest
  obtain ⟨samePassages, sameLast⟩ :=
    Parts.earliestFrom_unique otherEarliest earliest (otherText.trans sameText.symm)
  cases other
  cases parts
  simp_all

end SourceCatalog.Source
