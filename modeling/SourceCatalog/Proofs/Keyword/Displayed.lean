import Mathlib.Data.List.Infix
import SourceCatalog.Keyword.Document
import SourceCatalog.Proofs.Text.Cutting
import SourceCatalog.Proofs.Text.Lowering

/-!
# The word that displayed forms leave out

Each occurrence of the word goes in one pass from left to right. What stood on its two sides then
stands together, and may make up the word again. Main statement: a displayed form holds the word
exactly if the name in lower case has it with copies of it between its letters.
-/

namespace SourceCatalog.Keyword

def word : Text := "keyword".toList

/-- Two occurrences of the word never overlap. -/
theorem word_unbordered : Text.Unbordered word := by
  decide

def HoldsWord (text : Text) : Prop :=
  word <:+: text.lower

instance (text : Text) : Decidable (HoldsWord text) :=
  inferInstanceAs (Decidable (_ <:+: _))

theorem withoutKeyword_word_append (text : Text) :
    withoutKeyword (word ++ text) = withoutKeyword text :=
  withoutKeyword.eq_1 text

theorem withoutKeyword_cons {head : Char} {tail : Text} (absent : ¬ word <+: head :: tail) :
    withoutKeyword (head :: tail) = head :: withoutKeyword tail := by
  apply withoutKeyword.eq_2
  rintro rest rfl rfl
  exact absent ⟨rest, rfl⟩

theorem not_prefix_word {head : Char} {tail : Text}
    (different : ∀ rest, head = 'k' → tail = "eyword".toList ++ rest → False) :
    ¬ word <+: head :: tail := by
  rintro ⟨rest, same⟩
  obtain ⟨rfl, rfl⟩ := List.cons.inj same
  exact different rest rfl rfl

theorem withoutKeyword_sublist (text : Text) : (withoutKeyword text).Sublist text := by
  fun_induction withoutKeyword text with
  | case1 tail inductionHypothesis =>
    exact inductionHypothesis.trans (List.suffix_append word tail).sublist
  | case2 head tail absent inductionHypothesis => exact inductionHypothesis.cons_cons head
  | case3 => exact List.Sublist.refl []

theorem withoutKeyword_of_free {text : Text} (free : ¬ word <:+: text) :
    withoutKeyword text = text := by
  induction text with
  | nil => rfl
  | cons head tail inductionHypothesis =>
    rw [withoutKeyword_cons fun begins => free begins.isInfix,
      inductionHypothesis fun inTail => free (inTail.trans (List.suffix_cons head tail).isInfix)]

/-- No occurrence of the word that begins in front of the text reaches into it. -/
def Apart (text : Text) : Prop :=
  ∀ before, before ≠ [] → word <+: before ++ text → word <+: before

/-- Two occurrences of the word never overlap. -/
theorem apart_of_begins {text rest : Text} (begins : text <+: word ++ rest) : Apart text := by
  intro before filled found
  by_contra absent
  have early : word <+: before ++ word ++ rest := by
    rw [List.append_assoc]
    exact found.trans ((List.prefix_append_right_inj before).2 begins)
  exact Text.not_prefix_append word_unbordered absent filled early

/-- A text may be cut where no occurrence reaches across. -/
theorem withoutKeyword_append {after : Text} (apart : Apart after) (before : Text) :
    withoutKeyword (before ++ after) = withoutKeyword before ++ withoutKeyword after := by
  fun_induction withoutKeyword before with
  | case1 tail inductionHypothesis => exact inductionHypothesis
  | case2 head tail different inductionHypothesis =>
    have absent : ¬ word <+: head :: (tail ++ after) := fun found =>
      not_prefix_word different (apart (head :: tail) (List.cons_ne_nil head tail) found)
    rw [List.cons_append, withoutKeyword_cons absent, inductionHypothesis]
    rfl
  | case3 => rfl

/-- Every occurrence of the word is left out. -/
theorem withoutKeyword_append_word (before after : Text) :
    withoutKeyword (before ++ (word ++ after)) =
      withoutKeyword before ++ withoutKeyword after := by
  rw [withoutKeyword_append (apart_of_begins List.prefix_rfl), withoutKeyword_word_append]

def copies (count : Nat) : Text :=
  (List.replicate count word).flatten

theorem copies_succ_append (count : Nat) (text : Text) :
    copies (count + 1) ++ text = word ++ (copies count ++ text) := by
  rw [copies, List.replicate_succ, List.flatten_cons, List.append_assoc, ← copies]

theorem withoutKeyword_copies_append (count : Nat) (text : Text) :
    withoutKeyword (copies count ++ text) = withoutKeyword text := by
  induction count with
  | zero => rfl
  | succ count inductionHypothesis =>
    rw [copies_succ_append, withoutKeyword_word_append, inductionHypothesis]

/-- The letters stand in the text in their order, with nothing but copies of the word between
them. -/
inductive Woven : Text → Text → Prop where
  | last (letter : Char) : Woven [letter] [letter]
  | letter (letter : Char) (count : Nat) {letters text : Text} (later : Woven letters text) :
      Woven (letter :: letters) (letter :: (copies count ++ text))

/-- The text has the word with copies of it between its letters. -/
def Hides (text : Text) : Prop :=
  ∃ before hidden after, text = before ++ (hidden ++ after) ∧ Woven word hidden ∧ hidden ≠ word

theorem exists_woven_of_prefix {text letters : Text} (filled : letters ≠ [])
    (begins : letters <+: withoutKeyword text) :
    ∃ count hidden after, text = copies count ++ (hidden ++ after) ∧ Woven letters hidden := by
  fun_induction withoutKeyword text generalizing letters with
  | case1 tail inductionHypothesis =>
    obtain ⟨count, hidden, after, rfl, woven⟩ := inductionHypothesis filled begins
    exact ⟨count + 1, hidden, after, (copies_succ_append count _).symm, woven⟩
  | case2 head tail different inductionHypothesis =>
    cases letters with
    | nil => exact absurd rfl filled
    | cons first others =>
      obtain ⟨rfl, later⟩ := List.cons_prefix_cons.1 begins
      by_cases single : others = []
      · subst single
        exact ⟨0, [first], tail, rfl, .last first⟩
      · obtain ⟨count, hidden, after, rfl, woven⟩ := inductionHypothesis single later
        refine ⟨0, first :: (copies count ++ hidden), after, ?_, .letter first count woven⟩
        simp [copies]
  | case3 => exact absurd (List.prefix_nil.1 begins) filled

/-- The word is only left if copies of it stood between its letters. -/
theorem hides_of_infix_withoutKeyword {text : Text} (found : word <:+: withoutKeyword text) :
    Hides text := by
  fun_induction withoutKeyword text with
  | case1 tail inductionHypothesis =>
    obtain ⟨before, hidden, after, rfl, woven⟩ := inductionHypothesis found
    exact ⟨word ++ before, hidden, after, rfl, woven⟩
  | case2 head tail different inductionHypothesis =>
    rcases List.infix_cons_iff.1 found with atHead | inTail
    · have absent := not_prefix_word different
      rw [← withoutKeyword_cons absent] at atHead
      obtain ⟨count, hidden, after, parts, woven⟩ := exists_woven_of_prefix (by decide) atHead
      rw [parts] at absent
      cases count with
      | succ count =>
        rw [copies_succ_append] at absent
        exact absurd (List.prefix_append word _) absent
      | zero =>
        refine ⟨[], hidden, after, parts, woven, ?_⟩
        rintro rfl
        exact absent (List.prefix_append word after)
    · obtain ⟨before, hidden, after, rfl, woven⟩ := inductionHypothesis inTail
      exact ⟨head :: before, hidden, after, rfl, woven⟩
  | case3 => exact absurd (List.eq_nil_of_infix_nil found) (by decide)

theorem Woven.letters_ne_nil {letters text : Text} (woven : Woven letters text) :
    letters ≠ [] := by
  cases woven <;> exact List.cons_ne_nil _ _

/-- Letters with which the word does not begin are left, and only they. -/
theorem Woven.withoutKeyword_append {letters text : Text} (woven : Woven letters text)
    (inside : 'k' ∉ letters) (after : Text) :
    withoutKeyword (text ++ after) = letters ++ withoutKeyword after := by
  induction woven with
  | last letter =>
    have absent : ¬ word <+: letter :: after := fun begins =>
      inside (List.mem_singleton.2 (List.cons_prefix_cons.1 begins).1)
    exact withoutKeyword_cons absent
  | @letter letter count letters text later inductionHypothesis =>
    rw [List.mem_cons, not_or] at inside
    have absent : ¬ word <+: letter :: (copies count ++ (text ++ after)) := fun begins =>
      inside.1 (List.cons_prefix_cons.1 begins).1
    rw [List.cons_append, List.append_assoc, withoutKeyword_cons absent,
      withoutKeyword_copies_append, inductionHypothesis inside.2]
    rfl

/-- The first copy of the word stands behind some of the letters, but not all of them. -/
theorem Woven.eq_or_exists_copy {letters text : Text} (woven : Woven letters text) :
    text = letters ∨ ∃ front back count rest, front ≠ [] ∧ letters = front ++ back ∧
      Woven back rest ∧ text = front ++ (word ++ (copies count ++ rest)) := by
  induction woven with
  | last letter => exact Or.inl rfl
  | @letter letter count letters text later inductionHypothesis =>
    cases count with
    | succ count =>
      refine Or.inr ⟨[letter], letters, count, text, by simp, rfl, later, ?_⟩
      rw [copies_succ_append]
      rfl
    | zero =>
      rcases inductionHypothesis with rfl | ⟨front, back, count, rest, _, rfl, isWoven, rfl⟩
      · exact Or.inl rfl
      · exact Or.inr ⟨letter :: front, back, count, rest, by simp, rfl, isWoven, rfl⟩

/-- Where copies of the word stand between its letters, its letters are left. -/
theorem withoutKeyword_of_woven {hidden : Text} (woven : Woven word hidden)
    (different : hidden ≠ word) (before after : Text) :
    withoutKeyword (before ++ (hidden ++ after)) =
      withoutKeyword before ++ (word ++ withoutKeyword after) := by
  rcases woven.eq_or_exists_copy with same | ⟨front, back, count, rest, filled, parts, later, rfl⟩
  · exact absurd same different
  have shorter : front.length < word.length := by
    have := List.length_pos_iff.2 later.letters_ne_nil
    rw [parts, List.length_append]
    omega
  have frontStays : withoutKeyword front = front := by
    apply withoutKeyword_of_free
    intro found
    have := found.length_le
    omega
  have begins : front <+: word ++ [] := ⟨back, by simp [parts]⟩
  have frontApart : Apart front := apart_of_begins begins
  have backInside : 'k' ∉ back := by
    obtain ⟨first, others, rfl⟩ := List.exists_cons_of_ne_nil filled
    have behind : "eyword".toList = others ++ back := (List.cons.inj parts).2
    intro member
    have inWord : 'k' ∈ "eyword".toList := behind ▸ List.mem_append_right others member
    exact absurd inWord (by decide)
  have regrouped : before ++ (front ++ (word ++ (copies count ++ rest)) ++ after) =
      (before ++ front) ++ (word ++ (copies count ++ (rest ++ after))) := by
    simp
  rw [regrouped, withoutKeyword_append_word, withoutKeyword_append frontApart, frontStays,
    withoutKeyword_copies_append, later.withoutKeyword_append backInside, parts]
  simp

/-- The word remains exactly if it is hidden in itself. -/
theorem infix_withoutKeyword_iff {text : Text} : word <:+: withoutKeyword text ↔ Hides text := by
  constructor
  · exact hides_of_infix_withoutKeyword
  · rintro ⟨before, hidden, after, rfl, woven, different⟩
    rw [withoutKeyword_of_woven woven different]
    exact ⟨withoutKeyword before, withoutKeyword after, by simp⟩

/-! ## Displayed forms -/

/-- The value is in lower case, and it holds the word only where the name hides it. -/
def Displays (name value : Text) : Prop :=
  value.lower = value ∧ (HoldsWord value ↔ Hides name.lower)

theorem displays_displayValue (name : Text) : Displays name (displayValue name) := by
  have stays : (displayValue name).lower = displayValue name :=
    Text.lower_of_sublist_lower (withoutKeyword_sublist name.lower)
  refine ⟨stays, ?_⟩
  rw [HoldsWord, stays]
  exact infix_withoutKeyword_iff

theorem displays_of_mem_tokenize {body : Text} {record : Record} (member : record ∈ tokenize body) :
    Displays record.name record.value := by
  obtain ⟨name, _, rfl⟩ := List.mem_map.1 member
  exact displays_displayValue name

theorem exists_of_map_eq_ok {Result Value : Type} {result : Except Fault Result}
    {made : Result → Value} {value : Value} (same : result.map made = .ok value) :
    ∃ found, result = .ok found ∧ made found = value := by
  cases result with
  | error fault => cases same
  | ok found => exact ⟨found, rfl, Except.ok.inj same⟩

theorem displays_of_extract {source : Text} {records : List Record}
    (extracted : extract source = .ok records) {record : Record} (member : record ∈ records) :
    Displays record.name record.value := by
  obtain ⟨body, _, rfl⟩ := exists_of_map_eq_ok extracted
  exact displays_of_mem_tokenize member

/-- All displayed forms are in lower case. A name that hides the word is displayed with it. -/
theorem displayed_forms (name body source : Text) (format : Format) :
    Displays name (displayValue name) ∧
      (∀ record ∈ tokenize body, Displays record.name record.value) ∧
      (∀ records, extract source = .ok records →
        ∀ record ∈ records, Displays record.name record.value) ∧
      ∀ records written, document source format = .ok (records, written) →
        ∀ record ∈ records, Displays record.name record.value := by
  refine ⟨displays_displayValue name, fun _ => displays_of_mem_tokenize, ?_, ?_⟩
  · intro records extracted record member
    exact displays_of_extract extracted member
  · intro records written documented record member
    exact displays_of_extract (document_eq_ok_iff.1 documented).1 member

def plainRecord : Record :=
  ⟨"SelfKEYWORD".toList, "self".toList⟩

/-- A name with the word in the middle of the word. -/
def hidingRecord : Record :=
  ⟨"KeyKeywordWord".toList, "keyword".toList⟩

def displaySample : Text := "enum KeyWord \x7bSelfKEYWORD, KeyKeywordWord\x7d".toList

/-- Capitals are no obstacle, and a hidden word comes to light. -/
theorem displayed_forms_displaySample :
    Displays "KEYWORDSuper".toList (displayValue "KEYWORDSuper".toList) ∧
      (hidingRecord ∈ tokenize "KeyKeywordWord,".toList ∧
        Displays hidingRecord.name hidingRecord.value) ∧
      (extract displaySample = .ok [plainRecord, hidingRecord] ∧
        ∀ record ∈ [plainRecord, hidingRecord], Displays record.name record.value) ∧
      document displaySample .text =
          .ok ([plainRecord, hidingRecord], renderText [plainRecord, hidingRecord]) ∧
        ∀ record ∈ [plainRecord, hidingRecord], Displays record.name record.value := by
  have inBody : hidingRecord ∈ tokenize "KeyKeywordWord,".toList := by decide +kernel
  have extracted : extract displaySample = .ok [plainRecord, hidingRecord] := by decide +kernel
  have documented : document displaySample .text =
      .ok ([plainRecord, hidingRecord], renderText [plainRecord, hidingRecord]) := by
    decide +kernel
  obtain ⟨ofName, ofBody, ofSource, ofDocument⟩ := displayed_forms "KEYWORDSuper".toList
    "KeyKeywordWord,".toList displaySample .text
  exact ⟨ofName, ⟨inBody, ofBody _ inBody⟩, ⟨extracted, ofSource _ extracted⟩,
    documented, ofDocument _ _ documented⟩

/-- A displayed form may hold the word. -/
theorem displayValue_holdsWord :
    displayValue "KeyKeywordWord".toList = word ∧
      HoldsWord (displayValue "KeyKeywordWord".toList) := by
  decide +kernel

end SourceCatalog.Keyword
