import SourceCatalog.Json.ObjectReader
import SourceCatalog.Proofs.Json.Unambiguous

/-!
# Objects of strings by the grammar

The reader of a document accepts exactly the documents that are one object with strings as values,
and finds its members in the order of the text.
-/

namespace SourceCatalog.Json

variable {text rest : Text}

def textMembers (pairs : List (Text × Text)) : List (Text × Value) :=
  pairs.map fun (key, content) => (key, .string content)

theorem readColon_eq_ok_iff : readColon text = .ok rest ↔ text = ':' :: rest := by
  constructor
  · intro read
    rw [readColon.eq_def] at read
    split at read
    · cases read
    · cases read
      rfl
    · cases read
  · rintro rfl
    rfl

theorem readNextKey_eq_ok_iff : readNextKey text = .ok rest ↔ text = '"' :: rest := by
  constructor
  · intro read
    rw [readNextKey.eq_def] at read
    split at read
    · cases read
    · cases read
      rfl
    · cases read
    · cases read
  · rintro rfl
    rfl

theorem readMore_eq_end_iff : readMore text = .ok (false, rest) ↔ text = '\x7d' :: rest := by
  constructor
  · intro read
    rw [readMore.eq_def] at read
    split at read
    · cases read
    · cases read
      rfl
    · next tail =>
      cases key : readNextKey (skipSpace tail) with
      | error refusal =>
        rw [key] at read
        cases read
      | ok after =>
        rw [key] at read
        cases read
    · cases read
  · rintro rfl
    rfl

/-- Behind a comma the quote of the next key follows. -/
theorem readMore_eq_more_iff : readMore text = .ok (true, rest) ↔
    ∃ next, text = ',' :: next ∧ Spaces next ('"' :: rest) := by
  constructor
  · intro read
    rw [readMore.eq_def] at read
    split at read
    · cases read
    · cases read
    · next tail =>
      cases key : readNextKey (skipSpace tail) with
      | error refusal =>
        rw [key] at read
        cases read
      | ok after =>
        rw [key] at read
        cases read
        exact ⟨tail, rfl, (skipSpace_eq_cons_iff rfl).1 (readNextKey_eq_ok_iff.1 key)⟩
    · cases read
  · rintro ⟨next, rfl, spaces⟩
    rw [readMore, (skipSpace_eq_cons_iff rfl).2 spaces]
    rfl

/-- The reader of values accepts strings only. -/
theorem readStringValue_eq_ok_iff {content : Text} :
    readStringValue text = .ok (content, rest) ↔ Written text (.value (.string content)) rest := by
  constructor
  · intro read
    rw [readStringValue.eq_def] at read
    split at read
    · cases read
    · exact Written.string (readString_eq_ok_iff.1 read)
    · cases read
  · intro written
    cases written with
    | string spelled => exact spelled.readString_eq

theorem readMember_eq_ok_iff {key content : Text} :
    readMember text = .ok ((key, content), rest) ↔
      Written ('"' :: text) (.member key (.string content)) rest := by
  constructor
  · intro read
    rw [readMember] at read
    split at read
    · cases read
    · next afterKey keyRead =>
      split at read
      · cases read
      · next afterColon colonRead =>
        split at read
        · cases read
        · next valueRead =>
          cases read
          have colon := (skipSpace_eq_cons_iff rfl).1 (readColon_eq_ok_iff.1 colonRead)
          exact Written.member (readString_eq_ok_iff.1 keyRead) colon
            (spaces_skipSpace afterColon) (readStringValue_eq_ok_iff.1 valueRead)
  · intro written
    cases written with
    | member keySpelled colon spaces value =>
      rw [readMember, keySpelled.readString_eq]
      dsimp only
      rw [(skipSpace_eq_cons_iff rfl).2 colon, readColon]
      dsimp only
      rw [value.skipSpace_eq spaces, readStringValue_eq_ok_iff.2 value]

theorem exists_quote_of_members {members : List (Text × Value)}
    (written : Written text (.members members) rest) : ∃ inner, text = '"' :: inner := by
  cases written with
  | lastMember member _ =>
    cases member
    exact ⟨_, rfl⟩
  | nextMember member _ _ _ =>
    cases member
    exact ⟨_, rfl⟩

/-- What is read as members is written as such. -/
theorem written_of_readMembers {pairs : List (Text × Text)}
    (read : readMembers text = .ok (pairs, rest)) :
    Written ('"' :: text) (.members (textMembers pairs)) rest := by
  fun_induction readMembers text generalizing pairs with
  | case1 | case2 | case4 => cases read
  | case3 text pair afterMember memberRead after ending =>
    cases read
    have closed := (skipSpace_eq_cons_iff rfl).1 (readMore_eq_end_iff.1 ending)
    exact Written.lastMember (readMember_eq_ok_iff.1 memberRead) closed
  | case5 text pair afterMember memberRead afterQuote more others after othersRead
      inductionHypothesis =>
    cases read
    obtain ⟨next, comma, spaces⟩ := readMore_eq_more_iff.1 more
    have separated := (skipSpace_eq_cons_iff rfl).1 comma
    exact Written.nextMember (readMember_eq_ok_iff.1 memberRead) separated spaces
      (inductionHypothesis othersRead)

/-- Members of strings are read to their end. -/
theorem readMembers_of_written {pairs : List (Text × Text)}
    (written : Written ('"' :: text) (.members (textMembers pairs)) rest) :
    readMembers text = .ok (pairs, rest) := by
  -- The derivation also covers members that are no strings, so the induction is on the pairs.
  induction pairs generalizing text with
  | nil => cases written
  | cons pair others inductionHypothesis =>
    change Written _ (.members ((pair.1, .string pair.2) :: textMembers others)) rest at written
    generalize left_eq : textMembers others = left at written
    rw [readMembers.eq_def]
    cases written with
    | lastMember member closed =>
      obtain rfl : others = [] := List.map_eq_nil_iff.1 left_eq
      rw [readMember_eq_ok_iff.2 member]
      dsimp only
      rw [readMore_eq_end_iff.2 ((skipSpace_eq_cons_iff rfl).2 closed)]
    | nextMember member comma spaces later =>
      obtain ⟨inner, rfl⟩ := exists_quote_of_members later
      subst left_eq
      rw [readMember_eq_ok_iff.2 member]
      dsimp only
      rw [readMore_eq_more_iff.2 ⟨_, (skipSpace_eq_cons_iff rfl).2 comma, spaces⟩]
      dsimp only
      rw [inductionHypothesis later]

theorem readFirst_eq_ok_iff {pairs : List (Text × Text)} :
    readFirst (skipSpace text) = .ok (pairs, rest) ↔
      Written ('\x7b' :: text) (.value (.object (textMembers pairs))) rest := by
  constructor
  · intro read
    rw [readFirst.eq_def] at read
    split at read
    · cases read
    · next found =>
      cases read
      exact Written.emptyObject ((skipSpace_eq_cons_iff rfl).1 found)
    · next found =>
      exact Written.object ((skipSpace_eq_cons_iff rfl).1 found) (written_of_readMembers read)
    · cases read
  · intro written
    generalize members_eq : textMembers pairs = members at written
    cases written with
    | emptyObject closed =>
      obtain rfl : pairs = [] := List.map_eq_nil_iff.1 members_eq
      rw [(skipSpace_eq_cons_iff rfl).2 closed, readFirst]
    | object spaces inner =>
      obtain ⟨text, rfl⟩ := exists_quote_of_members inner
      subst members_eq
      rw [(skipSpace_eq_cons_iff rfl).2 spaces, readFirst, readMembers_of_written inner]

theorem exists_brace_of_object {members : List (Text × Value)}
    (written : Written text (.value (.object members)) rest) : ∃ inner, text = '\x7b' :: inner := by
  cases written with
  | emptyObject => exact ⟨_, rfl⟩
  | object => exact ⟨_, rfl⟩

/-- An object is read exactly if all of its values are strings. -/
theorem readObject_eq_ok_iff {pairs : List (Text × Text)} :
    readObject text = .ok (pairs, rest) ↔
      Written text (.value (.object (textMembers pairs))) rest := by
  constructor
  · intro read
    rw [readObject.eq_def] at read
    split at read
    · cases read
    · exact readFirst_eq_ok_iff.1 read
    · cases read
  · intro written
    obtain ⟨inner, rfl⟩ := exists_brace_of_object written
    exact readFirst_eq_ok_iff.2 written

/-- The reader accepts a document exactly if the grammar makes it one object of strings. -/
theorem stringMembers_eq_ok_iff {document : Text} {pairs : List (Text × Text)} :
    stringMembers document = .ok pairs ↔ IsDocument document (.object (textMembers pairs)) := by
  constructor
  · intro read
    rw [stringMembers] at read
    split at read
    · cases read
    · next members after object =>
      dsimp only at read
      split at read
      · next blank =>
        cases read
        exact ⟨_, _, spaces_skipSpace document, readObject_eq_ok_iff.1 object,
          skipSpace_eq_nil_iff.1 (List.isEmpty_iff.1 blank)⟩
      · cases read
  · rintro ⟨inner, after, before, written, behind⟩
    rw [stringMembers, written.skipSpace_eq before, readObject_eq_ok_iff.2 written]
    dsimp only
    rw [skipSpace_eq_nil_iff.2 behind]
    rfl

end SourceCatalog.Json
