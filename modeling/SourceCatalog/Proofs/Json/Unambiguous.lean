import SourceCatalog.Proofs.Json.Strings

/-!
# The grammar of JSON is unambiguous

A document says one thing only. The first character of a part tells its kind, and brackets, quotes
and words show where they end; only a numeral may be cut short, so a value counts in the place
where no character of a numeral follows it.
-/

namespace SourceCatalog.Json

variable {text rest left : Text}

def isNumeric (tested : Char) : Bool :=
  ('0' ≤ tested && tested ≤ '9') || ['-', '+', '.', 'e', 'E'].contains tested

def isOpening (tested : Char) : Bool :=
  ('0' ≤ tested && tested ≤ '9') || ['-', 'n', 't', 'f', '"', '[', '\x7b'].contains tested

/-- No character of a numeral follows. -/
def Ends (rest : Text) : Prop :=
  ∀ head ∈ rest.head?, isNumeric head = false

theorem isNumeric_of_isDigits {digits : Text} (isDigits : IsDigits digits) :
    ∀ digit ∈ digits, isNumeric digit = true := by
  intro digit member
  obtain ⟨atLeast, atMost⟩ := isDigits.2 digit member
  simp [isNumeric, atLeast, atMost]

theorem isNumeric_of_isNumeral {written : Text} (numeral : IsNumeral written) :
    ∀ character ∈ written, isNumeric character = true := by
  obtain @⟨sign, whole, fraction, power, sign_eq, whole_eq, fraction_eq, power_eq⟩ := numeral
  have signNumeric : ∀ character ∈ sign, isNumeric character = true := by
    rcases sign_eq with rfl | rfl
    · exact List.forall_mem_nil _
    · exact List.forall_mem_singleton.2 rfl
  have wholeNumeric : ∀ character ∈ whole, isNumeric character = true := by
    rcases whole_eq with rfl | ⟨isDigits, _⟩
    · exact List.forall_mem_singleton.2 rfl
    · exact isNumeric_of_isDigits isDigits
  have fractionNumeric : ∀ character ∈ fraction, isNumeric character = true := by
    rcases fraction_eq with rfl | ⟨digits, isDigits, rfl⟩
    · exact List.forall_mem_nil _
    · exact List.forall_mem_cons.2 ⟨rfl, isNumeric_of_isDigits isDigits⟩
  have powerNumeric : ∀ character ∈ power, isNumeric character = true := by
    rcases power_eq with rfl | ⟨mark, direction, digits, mark_eq, direction_eq, isDigits, rfl⟩
    · exact List.forall_mem_nil _
    · have markNumeric : isNumeric mark = true := by
        rcases mark_eq with rfl | rfl <;> rfl
      have directionNumeric : ∀ character ∈ direction, isNumeric character = true := by
        rcases direction_eq with rfl | rfl | rfl
        · exact List.forall_mem_nil _
        · exact List.forall_mem_singleton.2 rfl
        · exact List.forall_mem_singleton.2 rfl
      exact List.forall_mem_cons.2 ⟨markNumeric,
        List.forall_mem_append.2 ⟨directionNumeric, isNumeric_of_isDigits isDigits⟩⟩
  simp only [List.forall_mem_append]
  exact ⟨⟨⟨signNumeric, wholeNumeric⟩, fractionNumeric⟩, powerNumeric⟩

theorem IsNumeral.opens {written : Text} (numeral : IsNumeral written) :
    ∃ head tail, written = head :: tail ∧ isOpening head = true := by
  obtain ⟨sign_eq, whole_eq, _, _⟩ := numeral
  rcases sign_eq with rfl | rfl
  · rcases whole_eq with rfl | ⟨⟨someDigit, areDigits⟩, _⟩
    · exact ⟨'0', _, rfl, rfl⟩
    · obtain ⟨head, others, rfl⟩ := List.exists_cons_of_ne_nil someDigit
      obtain ⟨atLeast, atMost⟩ := areDigits head List.mem_cons_self
      exact ⟨head, _, rfl, by simp [isOpening, atLeast, atMost]⟩
  · exact ⟨'-', _, rfl, rfl⟩

theorem isNumeric_of_append {written tail : Text} {head : Char} (numeral : IsNumeral written)
    (same : head :: tail = written ++ rest) : isNumeric head = true := by
  obtain ⟨first, others, rfl, _⟩ := numeral.opens
  cases same
  exact isNumeric_of_isNumeral numeral head List.mem_cons_self

/-- A numeral ends with the last of its characters. -/
theorem IsNumeral.takeWhile_append {written : Text} (numeral : IsNumeral written)
    (ends : Ends rest) : (written ++ rest).takeWhile isNumeric = written := by
  have stops : rest.takeWhile isNumeric = [] := by
    cases rest with
    | nil => rfl
    | cons head tail => exact List.takeWhile_cons_of_neg (by simp [ends head rfl])
  rw [List.takeWhile_append_of_pos (isNumeric_of_isNumeral numeral), stops, List.append_nil]

/-- Where a numeral ends is seen from the character behind it. -/
theorem IsNumeral.unique {written other : Text} (first : IsNumeral written)
    (second : IsNumeral other) (ends : Ends rest) (otherEnds : Ends left)
    (same : written ++ rest = other ++ left) : written = other ∧ rest = left := by
  have equal : written = other := by
    rw [← first.takeWhile_append ends, same, second.takeWhile_append otherEnds]
  subst equal
  exact ⟨rfl, List.append_cancel_left same⟩

theorem isNumeric_of_isSpace {blank : Char} (space : isSpace blank = true) :
    isNumeric blank = false := by
  rcases isSpace_iff.1 space with rfl | rfl | rfl | rfl <;> rfl

theorem Spaces.ends {after : Text} (spaces : Spaces after rest) (ends : Ends rest) :
    Ends after := by
  cases spaces with
  | none => exact ends
  | more blank _ =>
    rintro head ⟨⟩
    exact isNumeric_of_isSpace (isSpace_iff.2 blank)

/-- No mark is a character of a numeral. -/
theorem Spaces.ends_of_mark {after : Text} {mark : Char} (spaces : Spaces after (mark :: rest))
    (other : isNumeric mark = false) : Ends after := by
  apply spaces.ends
  rintro head ⟨⟩
  exact other

theorem Written.opens {part : Part} (written : Written text part rest) :
    ∃ head tail, text = head :: tail ∧ isOpening head = true := by
  induction written with
  | number numeral text_eq =>
    obtain ⟨head, tail, rfl, opens⟩ := numeral.opens
    exact ⟨head, _, text_eq, opens⟩
  | lastItem _ _ inductionHypothesis => exact inductionHypothesis
  | nextItem _ _ _ _ inductionHypothesis _ => exact inductionHypothesis
  | lastMember _ _ inductionHypothesis => exact inductionHypothesis
  | nextMember _ _ _ _ inductionHypothesis _ => exact inductionHypothesis
  | _ => exact ⟨_, _, rfl, rfl⟩

theorem isSpace_of_isOpening {head : Char} (opens : isOpening head = true) :
    isSpace head = false := by
  cases space : isSpace head with
  | false => rfl
  | true => rcases isSpace_iff.1 space with rfl | rfl | rfl | rfl <;> cases opens

theorem Written.skipSpace_eq {inner : Text} {part : Part} (written : Written inner part rest)
    (spaces : Spaces text inner) : skipSpace text = inner := by
  obtain ⟨head, tail, rfl, opens⟩ := written.opens
  exact (skipSpace_eq_cons_iff (isSpace_of_isOpening opens)).2 spaces

/-- Blanks leave one rest only that begins with a mark or a part. -/
theorem Spaces.unique {mark other : Char} (first : Spaces text (mark :: rest))
    (second : Spaces text (other :: left)) (visible : isSpace mark = false)
    (otherVisible : isSpace other = false) : mark = other ∧ rest = left := by
  have skipped := (skipSpace_eq_cons_iff visible).2 first
  rw [(skipSpace_eq_cons_iff otherVisible).2 second] at skipped
  cases skipped
  exact ⟨rfl, rfl⟩

/-- Blanks leave one place only where a part can begin. -/
theorem Written.start_unique {part otherPart : Part} {inner other : Text}
    (written : Written inner part rest) (otherWritten : Written other otherPart left)
    (first : Spaces text inner) (second : Spaces text other) : inner = other := by
  rw [← written.skipSpace_eq first, otherWritten.skipSpace_eq second]

theorem Written.isOpening_of_mark {part : Part} {mark : Char} {others : Text}
    (written : Written text part rest) (spaces : Spaces left text)
    (marked : Spaces left (mark :: others)) (visible : isSpace mark = false) :
    isOpening mark = true := by
  obtain ⟨head, tail, rfl, opens⟩ := written.opens
  obtain ⟨rfl, _⟩ := spaces.unique marked (isSpace_of_isOpening opens) visible
  exact opens

/-- The part has no other reading of the same kind at the text. -/
def Only {α : Type} (part : α → Part) (text : Text) (found : α) (rest : Text) : Prop :=
  Ends rest → ∀ other left, Written text (part other) left → Ends left →
    found = other ∧ rest = left

/-- A character that tells where a value or a member ends. -/
def isMark (tested : Char) : Bool :=
  !isSpace tested && !isNumeric tested

/-- What is behind an element of a list: the closing mark, or a comma and the other elements. -/
inductive Behind {α : Type} (list : List α → Part) (closing : Char) (after : Text) :
    List α → Text → Prop
  | last {rest : Text} (closed : Spaces after (closing :: rest)) : Behind list closing after [] rest
  | next {others : List α} {behind inner rest : Text} (comma : Spaces after (',' :: behind))
      (spaces : Spaces behind inner) (written : Written inner (list others) rest) :
      Behind list closing after others rest

/-- What is behind an opening bracket: the closing one, or the elements of a list. -/
inductive Within {α : Type} (list : List α → Part) (closing : Char) (text : Text) :
    List α → Text → Prop
  | nothing {rest : Text} (closed : Spaces text (closing :: rest)) :
      Within list closing text [] rest
  | elements {elements : List α} {inner rest : Text} (spaces : Spaces text inner)
      (written : Written inner (list elements) rest) : Within list closing text elements rest

section Lists

variable {α : Type} {part : α → Part} {list : List α → Part} {closing : Char}
  {after inner otherAfter : Text} {first other : α} {others more : List α}

/-- The mark behind a value or a member leaves it one reading. -/
theorem Only.before_mark {mark otherMark : Char} (only : Only part text first after)
    (again : Written text (part other) otherAfter) (behind : Spaces after (mark :: rest))
    (otherBehind : Spaces otherAfter (otherMark :: left)) (marks : isMark mark = true)
    (otherMarks : isMark otherMark = true) :
    first = other ∧ mark = otherMark ∧ rest = left := by
  simp only [isMark, Bool.and_eq_true, Bool.not_eq_true'] at marks otherMarks
  obtain ⟨rfl, rfl⟩ := only (behind.ends_of_mark marks.2) other otherAfter again
    (otherBehind.ends_of_mark otherMarks.2)
  exact ⟨rfl, behind.unique otherBehind marks.1 otherMarks.1⟩

/-- Behind the last element there is no other one. -/
theorem Only.last (only : Only part text first after) (closed : Spaces after (closing :: rest))
    (marks : isMark closing = true) (noComma : closing ≠ ',')
    (again : Written text (part other) otherAfter)
    (behind : Behind list closing otherAfter others left) :
    first = other ∧ [] = others ∧ rest = left := by
  cases behind with
  | last otherClosed =>
    obtain ⟨same, _, sameRest⟩ := only.before_mark again closed otherClosed marks marks
    exact ⟨same, rfl, sameRest⟩
  | next comma _ _ =>
    exact absurd (only.before_mark again closed comma marks rfl).2.1 noComma

/-- Behind a comma there is exactly one reading of the others. -/
theorem Only.next {behind : Text} (only : Only part text first after)
    (comma : Spaces after (',' :: behind)) (spaces : Spaces behind inner)
    (written : Written inner (list others) rest) (onlyOthers : Only list inner others rest)
    (ends : Ends rest) (marks : isMark closing = true) (noComma : closing ≠ ',')
    (again : Written text (part other) otherAfter)
    (otherBehind : Behind list closing otherAfter more left) (otherEnds : Ends left) :
    first = other ∧ others = more ∧ rest = left := by
  cases otherBehind with
  | last closed =>
    exact absurd (only.before_mark again comma closed rfl marks).2.1.symm noComma
  | next otherComma otherSpaces otherWritten =>
    obtain ⟨same, _, rfl⟩ := only.before_mark again comma otherComma rfl rfl
    obtain rfl := written.start_unique otherWritten spaces otherSpaces
    exact ⟨same, onlyOthers ends more left otherWritten otherEnds⟩

/-- A list that is closed at once is empty in every reading. -/
theorem Within.unique_nothing (closed : Spaces text (closing :: rest))
    (visible : isSpace closing = false) (noOpening : isOpening closing = false)
    (within : Within list closing text others left) : [] = others ∧ rest = left := by
  cases within with
  | nothing otherClosed => exact ⟨rfl, (closed.unique otherClosed visible visible).2⟩
  | elements spaces written =>
    cases noOpening.symm.trans (written.isOpening_of_mark spaces closed visible)

theorem Within.unique_elements (spaces : Spaces text inner)
    (written : Written inner (list others) rest) (onlyOthers : Only list inner others rest)
    (ends : Ends rest) (visible : isSpace closing = false) (noOpening : isOpening closing = false)
    (within : Within list closing text more left) (otherEnds : Ends left) :
    others = more ∧ rest = left := by
  cases within with
  | nothing closed =>
    cases noOpening.symm.trans (written.isOpening_of_mark spaces closed visible)
  | elements otherSpaces otherWritten =>
    obtain rfl := written.start_unique otherWritten spaces otherSpaces
    exact onlyOthers ends more left otherWritten otherEnds

end Lists

/-- A list of items: a value, and what is behind it. -/
theorem Written.items_eq {items : List Value} (written : Written text (.items items) rest) :
    ∃ value others after, items = value :: others ∧ Written text (.value value) after ∧
      Behind .items ']' after others rest := by
  cases written with
  | lastItem value closed => exact ⟨_, _, _, rfl, value, .last closed⟩
  | nextItem value comma spaces others => exact ⟨_, _, _, rfl, value, .next comma spaces others⟩

/-- A list of members: a key with its value, and what is behind them. -/
theorem Written.members_eq {members : List (Text × Value)}
    (written : Written text (.members members) rest) :
    ∃ member others after, members = member :: others ∧
      Written text (.member member.1 member.2) after ∧
      Behind .members '\x7d' after others rest := by
  cases written with
  | lastMember member closed => exact ⟨_, _, _, rfl, member, .last closed⟩
  | nextMember member comma spaces others => exact ⟨_, _, _, rfl, member, .next comma spaces others⟩

theorem Written.array_eq {value : Value} (written : Written ('[' :: text) (.value value) rest) :
    ∃ items, value = .array items ∧ Within .items ']' text items rest := by
  cases written with
  | emptyArray closed => exact ⟨[], rfl, .nothing closed⟩
  | array spaces inner => exact ⟨_, rfl, .elements spaces inner⟩
  | number numeral same => cases isNumeric_of_append numeral same

theorem Written.object_eq {value : Value}
    (written : Written ('\x7b' :: text) (.value value) rest) :
    ∃ members, value = .object members ∧ Within .members '\x7d' text members rest := by
  cases written with
  | emptyObject closed => exact ⟨[], rfl, .nothing closed⟩
  | object spaces inner => exact ⟨_, rfl, .elements spaces inner⟩
  | number numeral same => cases isNumeric_of_append numeral same

/-! ## One reading -/

/-- The text has no other reading as a part of the same kind. -/
def OnlyReading (text rest : Text) : Part → Prop
  | .value value => Only .value text value rest
  | .items items => Only .items text items rest
  | .member key value => Only (fun member => .member member.1 member.2) text (key, value) rest
  | .members members => Only .members text members rest

/-- Each part of a document determines what it says and where it ends. -/
theorem Written.onlyReading {part : Part} (written : Written text part rest) :
    OnlyReading text rest part := by
  -- A second reading begins with the same character. Where two rules could begin alike, a numeral
  -- is told from a word or a bracket by that character, an empty list from one with items by the
  -- first visible character within, and a last item from an earlier one by the mark behind it.
  induction written with
  | nullWord =>
    intro _ other left second _
    cases second with
    | nullWord => exact ⟨rfl, rfl⟩
    | number numeral same => cases isNumeric_of_append numeral same
  | trueWord =>
    intro _ other left second _
    cases second with
    | trueWord => exact ⟨rfl, rfl⟩
    | number numeral same => cases isNumeric_of_append numeral same
  | falseWord =>
    intro _ other left second _
    cases second with
    | falseWord => exact ⟨rfl, rfl⟩
    | number numeral same => cases isNumeric_of_append numeral same
  | string content =>
    intro _ other left second _
    cases second with
    | string otherContent =>
      obtain ⟨rfl, rfl⟩ := content.unique otherContent
      exact ⟨rfl, rfl⟩
    | number numeral same => cases isNumeric_of_append numeral same
  | number numeral text_eq =>
    intro ends other left second otherEnds
    cases second with
    | number otherNumeral same =>
      obtain ⟨rfl, rfl⟩ :=
        numeral.unique otherNumeral ends otherEnds (text_eq.symm.trans same)
      exact ⟨rfl, rfl⟩
    | _ => cases isNumeric_of_append numeral text_eq
  | emptyArray closed =>
    intro _ other left second _
    obtain ⟨items, rfl, within⟩ := second.array_eq
    obtain ⟨rfl, rfl⟩ := within.unique_nothing closed rfl rfl
    exact ⟨rfl, rfl⟩
  | array spaces inner inductionHypothesis =>
    intro ends other left second otherEnds
    obtain ⟨items, rfl, within⟩ := second.array_eq
    obtain ⟨rfl, rfl⟩ :=
      within.unique_elements spaces inner inductionHypothesis ends rfl rfl otherEnds
    exact ⟨rfl, rfl⟩
  | lastItem _ closed inductionHypothesis =>
    intro _ other left second _
    obtain ⟨value, others, after, rfl, again, behind⟩ := second.items_eq
    obtain ⟨rfl, rfl, rfl⟩ := inductionHypothesis.last closed rfl (by decide) again behind
    exact ⟨rfl, rfl⟩
  | nextItem _ comma spaces others valueHypothesis othersHypothesis =>
    intro ends other left second otherEnds
    obtain ⟨value, more, after, rfl, again, behind⟩ := second.items_eq
    obtain ⟨rfl, rfl, rfl⟩ := valueHypothesis.next comma spaces others othersHypothesis ends rfl
      (by decide) again behind otherEnds
    exact ⟨rfl, rfl⟩
  | emptyObject closed =>
    intro _ other left second _
    obtain ⟨members, rfl, within⟩ := second.object_eq
    obtain ⟨rfl, rfl⟩ := within.unique_nothing closed rfl rfl
    exact ⟨rfl, rfl⟩
  | object spaces inner inductionHypothesis =>
    intro ends other left second otherEnds
    obtain ⟨members, rfl, within⟩ := second.object_eq
    obtain ⟨rfl, rfl⟩ :=
      within.unique_elements spaces inner inductionHypothesis ends rfl rfl otherEnds
    exact ⟨rfl, rfl⟩
  | member key colon spaces value inductionHypothesis =>
    rintro ends ⟨otherKey, other⟩ left second otherEnds
    cases second with
    | member keyAgain otherColon otherSpaces otherValue =>
      obtain ⟨rfl, rfl⟩ := key.unique keyAgain
      obtain ⟨_, rfl⟩ := colon.unique otherColon rfl rfl
      obtain rfl := value.start_unique otherValue spaces otherSpaces
      obtain ⟨rfl, rfl⟩ := inductionHypothesis ends other left otherValue otherEnds
      exact ⟨rfl, rfl⟩
  | lastMember _ closed inductionHypothesis =>
    intro _ other left second _
    obtain ⟨member, others, after, rfl, again, behind⟩ := second.members_eq
    obtain ⟨rfl, rfl, rfl⟩ := inductionHypothesis.last closed rfl (by decide) again behind
    exact ⟨rfl, rfl⟩
  | nextMember _ comma spaces others memberHypothesis othersHypothesis =>
    intro ends other left second otherEnds
    obtain ⟨member, more, after, rfl, again, behind⟩ := second.members_eq
    obtain ⟨rfl, rfl, rfl⟩ := memberHypothesis.next comma spaces others othersHypothesis ends rfl
      (by decide) again behind otherEnds
    exact ⟨rfl, rfl⟩

/-- A document says one thing only. -/
theorem IsDocument.unique {value other : Value} (first : IsDocument text value)
    (second : IsDocument text other) : value = other := by
  obtain ⟨inner, after, before, written, behind⟩ := first
  obtain ⟨otherInner, otherAfter, otherBefore, otherWritten, otherBehind⟩ := second
  have ends : Ends [] := by
    rintro head ⟨⟩
  obtain rfl := written.start_unique otherWritten before otherBefore
  exact (written.onlyReading (behind.ends ends) _ _ otherWritten (otherBehind.ends ends)).1

end SourceCatalog.Json
