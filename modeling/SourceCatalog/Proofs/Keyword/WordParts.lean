import SourceCatalog.Proofs.Keyword.Displayed

/-!
# The parts of a name between the occurrences of the word

Each occurrence of the word is looked for behind the one before. It ends a part of the text, and a
last part without the word is left over. Main statement: a name in lower case falls into such parts
in one way only, and its displayed form is these parts put together.
-/

namespace SourceCatalog.Keyword

/-- A text in parts. Behind each part but the last one stands the word, and it does not begin any
earlier there. The last part does not hold it. -/
structure Parted (text : Text) (parts : List Text) (last : Text) : Prop where
  joined : text = parts.flatMap (· ++ word) ++ last
  first : ∀ part ∈ parts, ∀ front back, part ++ word = front ++ word ++ back →
    part.length ≤ front.length
  fresh : ¬ word <:+: last

/-- The word stands for the first time behind a part that does not hold it, and behind no other. -/
theorem first_at_end_iff {part : Text} :
    (∀ front back, part ++ word = front ++ word ++ back → part.length ≤ front.length) ↔
      ¬ word <:+: part := by
  have behind : (∀ front back, part ++ word ++ [] = front ++ word ++ back →
      part.length ≤ front.length) ↔ ¬ word <:+: part :=
    Text.first_occurrence_iff word_unbordered (by decide)
  rwa [List.append_nil] at behind

theorem parted_of_fresh {text : Text} (fresh : ¬ word <:+: text) : Parted text [] text where
  joined := rfl
  first := fun _ member => absurd member List.not_mem_nil
  fresh := fresh

namespace Parted

variable {text part last : Text} {parts : List Text}

theorem prepend (parted : Parted text parts last) (fresh : ¬ word <:+: part) :
    Parted (part ++ word ++ text) (part :: parts) last where
  joined := by
    rw [parted.joined, List.flatMap_cons, List.append_assoc (part ++ word)]
  first := List.forall_mem_cons.2 ⟨first_at_end_iff.2 fresh, parted.first⟩
  fresh := parted.fresh

theorem eq_last (parted : Parted text [] last) : text = last :=
  parted.joined

theorem exists_rest (parted : Parted text (part :: parts) last) :
    ∃ rest, text = part ++ word ++ rest ∧ ¬ word <:+: part ∧ Parted rest parts last := by
  obtain ⟨here, later⟩ := List.forall_mem_cons.1 parted.first
  refine ⟨parts.flatMap (· ++ word) ++ last, ?_, first_at_end_iff.1 here, rfl, later, parted.fresh⟩
  rw [parted.joined, List.flatMap_cons, List.append_assoc (part ++ word)]

theorem word_infix (parted : Parted text (part :: parts) last) : word <:+: text := by
  obtain ⟨rest, joined, _⟩ := parted.exists_rest
  exact ⟨part, rest, joined.symm⟩

end Parted

/-- Every text falls into parts. -/
theorem exists_parted (text : Text) : ∃ parts last, Parted text parts last := by
  generalize size : text.length = length
  induction length using Nat.strongRecOn generalizing text with
  | ind length inductionHypothesis =>
    cases cut : Text.splitFirst? word text with
    | none => exact ⟨[], text, parted_of_fresh (Text.splitFirst?_eq_none_iff.1 cut)⟩
    | some found =>
      obtain ⟨before, after⟩ := found
      have joined : text = before ++ word ++ after := Text.append_of_splitFirst? cut
      have fresh : ¬ word <:+: before :=
        Text.fresh_of_splitFirst? word_unbordered (by decide) cut
      have shorter : after.length < length := by
        rw [← size, joined, List.length_append, List.length_append]
        have : 0 < word.length := by decide
        omega
      obtain ⟨parts, last, parted⟩ := inductionHypothesis after.length shorter after rfl
      rw [joined]
      exact ⟨before :: parts, last, parted.prepend fresh⟩

/-- A text falls into parts in one way only. -/
theorem Parted.unique {text last otherLast : Text} {parts others : List Text}
    (parted : Parted text parts last) (other : Parted text others otherLast) :
    others = parts ∧ otherLast = last := by
  induction parts generalizing text others with
  | nil =>
    cases others with
    | nil => exact ⟨rfl, other.eq_last.symm.trans parted.eq_last⟩
    | cons second others => exact absurd other.word_infix (parted.eq_last ▸ parted.fresh)
  | cons part parts inductionHypothesis =>
    cases others with
    | nil => exact absurd parted.word_infix (other.eq_last ▸ other.fresh)
    | cons second others =>
      -- Either first part is what the search for the word finds in front of it.
      obtain ⟨rest, joined, partFresh, later⟩ := parted.exists_rest
      obtain ⟨otherRest, otherJoined, secondFresh, otherLater⟩ := other.exists_rest
      have cut : Text.splitFirst? word text = some (part, rest) :=
        joined ▸ Text.splitFirst?_append word_unbordered partFresh rest
      have otherCut : Text.splitFirst? word text = some (second, otherRest) :=
        otherJoined ▸ Text.splitFirst?_append word_unbordered secondFresh otherRest
      obtain ⟨rfl, rfl⟩ := Prod.mk.inj (Option.some.inj (cut.symm.trans otherCut))
      obtain ⟨rfl, rfl⟩ := inductionHypothesis later otherLater
      exact ⟨rfl, rfl⟩

section

variable {text last : Text} {parts : List Text}

/-- What is left are the parts. -/
theorem Parted.withoutKeyword_eq (parted : Parted text parts last) :
    withoutKeyword text = parts.flatten ++ last := by
  induction parts generalizing text with
  | nil =>
    rw [parted.eq_last, withoutKeyword_of_free parted.fresh]
    rfl
  | cons part parts inductionHypothesis =>
    obtain ⟨rest, rfl, partFresh, later⟩ := parted.exists_rest
    rw [List.append_assoc, withoutKeyword_append_word, withoutKeyword_of_free partFresh,
      inductionHypothesis later, List.flatten_cons, List.append_assoc]

/-- Each occurrence of the word takes seven characters. -/
theorem Parted.length_eq (parted : Parted text parts last) :
    text.length = (parts.flatten ++ last).length + 7 * parts.length := by
  induction parts generalizing text with
  | nil =>
    rw [parted.eq_last]
    rfl
  | cons part parts inductionHypothesis =>
    obtain ⟨rest, rfl, _, later⟩ := parted.exists_rest
    have letters : word.length = 7 := rfl
    have behind := inductionHypothesis later
    simp only [List.length_append, List.flatten_cons, List.length_cons] at behind ⊢
    omega

end

/-- Nothing is left only of the word again and again. -/
theorem withoutKeyword_eq_nil_iff {text : Text} :
    withoutKeyword text = [] ↔ ∃ count, text = copies count := by
  constructor
  · intro nothing
    fun_induction withoutKeyword text with
    | case1 tail inductionHypothesis =>
      obtain ⟨count, rfl⟩ := inductionHypothesis nothing
      refine ⟨count + 1, ?_⟩
      have one := copies_succ_append count []
      rw [List.append_nil, List.append_nil] at one
      exact one.symm
    | case2 => cases nothing
    | case3 => exact ⟨0, rfl⟩
  · rintro ⟨count, rfl⟩
    have whole := withoutKeyword_copies_append count []
    rwa [List.append_nil] at whole

theorem apart_of_notMem {letter : Char} (absent : letter ∉ word) (after : Text) :
    Apart (letter :: after) := by
  intro before _ found
  have upTo : before ++ [letter] <+: before ++ letter :: after := ⟨after, by simp⟩
  rcases List.prefix_or_prefix_of_prefix found upTo with short | long
  · rcases List.prefix_concat_iff.1 short with whole | begins
    · have member : letter ∈ word := whole ▸ List.mem_append_right before List.mem_cons_self
      exact absurd member absent
    · exact begins
  · exact absurd (long.subset (List.mem_append_right before List.mem_cons_self)) absent

/-- Each side of a letter that the word does not have is gone through on its own. -/
theorem withoutKeyword_append_cons {letter : Char} (absent : letter ∉ word)
    (before after : Text) :
    withoutKeyword (before ++ letter :: after) =
      withoutKeyword before ++ letter :: withoutKeyword after := by
  have elsewhere : ¬ word <+: letter :: after := by
    intro begins
    obtain ⟨rfl, _⟩ := List.cons_prefix_cons.1 begins
    exact absent List.mem_cons_self
  rw [withoutKeyword_append (apart_of_notMem absent after), withoutKeyword_cons elsewhere]

/-- A character that the word does not have divides the work. -/
theorem displayValue_append_cons {front back : Text} {joint : Char}
    (ascii : Text.IsAscii (front ++ joint :: back)) (absent : joint.toLower ∉ word) :
    displayValue (front ++ joint :: back) =
      displayValue front ++ joint.toLower :: displayValue back := by
  have frontAscii : Text.IsAscii front := fun tested member =>
    ascii tested (List.mem_append_left _ member)
  have backAscii : Text.IsAscii back := fun tested member =>
    ascii tested (List.mem_append_right front (List.mem_cons_of_mem joint member))
  rw [displayValue, displayValue, displayValue, Text.lower_of_isAscii ascii,
    Text.lower_of_isAscii frontAscii, Text.lower_of_isAscii backAscii, List.map_append,
    List.map_cons, withoutKeyword_append_cons absent]

/-- The occurrences of the word that are left out are those between the parts, and nothing else is.
On the two sides of a letter that the word does not have they are left out apart from each other. -/
theorem displayValue_parts (name : Text) :
    (∃ parts last, Parted name.lower parts last ∧
        (∀ others otherLast, Parted name.lower others otherLast →
          others = parts ∧ otherLast = last) ∧
        displayValue name = parts.flatten ++ last ∧
        name.lower.length = (displayValue name).length + 7 * parts.length) ∧
      (displayValue name = [] ↔ ∃ count, name.lower = copies count) ∧
      ∀ joint back, Text.IsAscii (name ++ joint :: back) → joint.toLower ∉ word →
        displayValue (name ++ joint :: back) =
          displayValue name ++ joint.toLower :: displayValue back := by
  refine ⟨?_, withoutKeyword_eq_nil_iff, fun _ _ => displayValue_append_cons⟩
  obtain ⟨parts, last, parted⟩ := exists_parted name.lower
  have left : displayValue name = parts.flatten ++ last := parted.withoutKeyword_eq
  refine ⟨parts, last, parted, fun _ _ => parted.unique, left, ?_⟩
  rw [left]
  exact parted.length_eq

/-- A name that begins the word, breaks off, and then has the word twice. -/
def overlapName : Text := "KeyKeywordKEYWORDs".toList

theorem parted_overlapName : Parted overlapName.lower ["key".toList, []] ['s'] := by
  have lowered : overlapName.lower = "key".toList ++ word ++ ([] ++ word ++ ['s']) := by
    decide +kernel
  have final : ¬ word <:+: ['s'] := by decide +kernel
  have between : ¬ word <:+: [] := by decide +kernel
  have initial : ¬ word <:+: "key".toList := by decide +kernel
  rw [lowered]
  exact ((parted_of_fresh final).prepend between).prepend initial

theorem displayValue_parts_overlapName :
    (Parted overlapName.lower ["key".toList, []] ['s'] ∧
        displayValue overlapName = "keys".toList ∧ overlapName.lower.length = 4 + 7 * 2) ∧
      Text.IsAscii (overlapName ++ 'X' :: "wordKEYWORD".toList) ∧ 'X'.toLower ∉ word ∧
      displayValue (overlapName ++ 'X' :: "wordKEYWORD".toList) =
        "keys".toList ++ 'X'.toLower :: displayValue "wordKEYWORD".toList := by
  obtain ⟨⟨parts, last, _, unique, left, length⟩, _, joined⟩ := displayValue_parts overlapName
  obtain ⟨rfl, rfl⟩ := unique _ _ parted_overlapName
  have shown : displayValue overlapName = "keys".toList := left
  have ascii : Text.IsAscii (overlapName ++ 'X' :: "wordKEYWORD".toList) := by decide +kernel
  have absent : 'X'.toLower ∉ word := by decide
  have apart := joined 'X' "wordKEYWORD".toList ascii absent
  rw [shown] at length apart
  exact ⟨⟨parted_overlapName, shown, length⟩, ascii, absent, apart⟩

end SourceCatalog.Keyword
