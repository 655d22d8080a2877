import Mathlib.Data.Finset.Dedup
import Mathlib.Data.Finset.Card
import SourceCatalog.Descriptions
import SourceCatalog.Proofs.Json.Objects

/-!
# Descriptions read from a document

A document is a description map exactly if it is one object of strings, and the last value of a
key counts: an empty one hides an earlier one that is not.
-/

namespace SourceCatalog.Descriptions

theorem mem_keys_insert {name : Text} (descriptions : Descriptions) (entry : Text × Text) :
    name ∈ (descriptions.insert entry).entries.map Prod.fst ↔
      name ∈ descriptions.entries.map Prod.fst ∨ name = entry.1 := by
  rw [insert, List.map_append, List.mem_append, List.map_singleton, List.mem_singleton]
  by_cases same : name = entry.1
  · simp [same]
  · refine or_congr_left ?_
    simp only [List.mem_map, List.mem_filter, bne_iff_ne]
    constructor
    · rintro ⟨known, ⟨member, _⟩, rfl⟩
      exact ⟨known, member, rfl⟩
    · rintro ⟨known, member, rfl⟩
      exact ⟨known, ⟨member, same⟩, rfl⟩

theorem mem_keys_foldl_insert {name : Text} (pairs : List (Text × Text))
    (descriptions : Descriptions) :
    name ∈ (pairs.foldl insert descriptions).entries.map Prod.fst ↔
      name ∈ descriptions.entries.map Prod.fst ∨ name ∈ pairs.map Prod.fst := by
  induction pairs generalizing descriptions with
  | nil => simp
  | cons pair others inductionHypothesis =>
    rw [List.foldl_cons, inductionHypothesis, mem_keys_insert, List.map_cons, List.mem_cons,
      or_assoc]

/-- No name is counted twice. -/
theorem size_eq_card (descriptions : Descriptions) :
    descriptions.size = (descriptions.entries.map Prod.fst).toFinset.card := by
  rw [List.toFinset_card_of_nodup descriptions.distinct, List.length_map, size]

theorem find?_foldl_insert_of_absent {name : Text} {pairs : List (Text × Text)}
    (absent : name ∉ pairs.map Prod.fst) (descriptions : Descriptions) :
    (pairs.foldl insert descriptions).find? name = descriptions.find? name := by
  induction pairs generalizing descriptions with
  | nil => rfl
  | cons pair others inductionHypothesis =>
    rw [List.map_cons, List.mem_cons, not_or] at absent
    obtain ⟨different, absent⟩ := absent
    rw [List.foldl_cons, inductionHypothesis absent, find?_insert_of_ne different]

/-- Of several values of a name the last one counts. -/
theorem find?_ofPairs_last {name : Text} {after : List (Text × Text)}
    (last : name ∉ after.map Prod.fst) (before : List (Text × Text)) (value : Text) :
    (ofPairs (before ++ (name, value) :: after)).find? name = some value := by
  rw [ofPairs, List.foldl_append, List.foldl_cons, find?_foldl_insert_of_absent last]
  exact find?_insert_self _ (name, value)

theorem find?_ofPairs_absent {name : Text} {pairs : List (Text × Text)}
    (absent : name ∉ pairs.map Prod.fst) : (ofPairs pairs).find? name = none :=
  find?_foldl_insert_of_absent absent empty

/-- A map that has one name for every key of a list, with the last value of the key unless that is
empty. -/
structure KeepsLast (pairs : List (Text × Text)) (descriptions : Descriptions) : Prop where
  size_eq : descriptions.size = (pairs.map Prod.fst).toFinset.card
  resolve_last : ∀ before name value after, pairs = before ++ (name, value) :: after →
    name ∉ after.map Prod.fst →
    descriptions.resolve name = if value = [] then fallback else value
  resolve_absent : ∀ name, name ∉ pairs.map Prod.fst → descriptions.resolve name = fallback

theorem keepsLast_ofPairs (pairs : List (Text × Text)) : KeepsLast pairs (ofPairs pairs) where
  size_eq := by
    have keys : ((ofPairs pairs).entries.map Prod.fst).toFinset =
        (pairs.map Prod.fst).toFinset := by
      ext name
      rw [List.mem_toFinset, List.mem_toFinset, ofPairs, mem_keys_foldl_insert]
      simp [empty]
    rw [size_eq_card, keys]
  resolve_last := by
    rintro before name value after rfl last
    rw [resolve, find?_ofPairs_last last]
    simp only [List.isEmpty_iff]
  resolve_absent := by
    intro name absent
    rw [resolve, find?_ofPairs_absent absent]

/-- A document is accepted exactly if it is an object of strings. -/
theorem parse_eq_ok_iff {document : Text} {descriptions : Descriptions} :
    parse document = .ok descriptions ↔
      ∃ pairs, Json.IsDocument document (.object (Json.textMembers pairs)) ∧
        ofPairs pairs = descriptions := by
  rw [parse]
  constructor
  · intro parsed
    cases read : Json.stringMembers document with
    | error refusal =>
      rw [read] at parsed
      cases parsed
    | ok pairs =>
      rw [read] at parsed
      cases parsed
      exact ⟨pairs, Json.stringMembers_eq_ok_iff.1 read, rfl⟩
  · rintro ⟨pairs, document, rfl⟩
    rw [Json.stringMembers_eq_ok_iff.2 document]
    rfl

/-- A document is accepted exactly if it is one object of strings, and the last of equal keys is
kept. -/
theorem parse_keepsLast (document : Text) :
    ((∃ descriptions, parse document = .ok descriptions) ↔
      ∃ pairs, Json.IsDocument document (.object (Json.textMembers pairs))) ∧
    ∀ pairs, Json.IsDocument document (.object (Json.textMembers pairs)) →
      parse document = .ok (ofPairs pairs) ∧ KeepsLast pairs (ofPairs pairs) := by
  refine ⟨?_, ?_⟩
  · simp only [parse_eq_ok_iff]
    constructor
    · rintro ⟨_, pairs, written, _⟩
      exact ⟨pairs, written⟩
    · rintro ⟨pairs, written⟩
      exact ⟨_, pairs, written, rfl⟩
  · intro pairs written
    exact ⟨parse_eq_ok_iff.2 ⟨pairs, written, rfl⟩, keepsLast_ofPairs pairs⟩

/-- A document with blanks around its tokens, a pair of surrogates, and one key that is spelled in
two ways, the second time with an empty value. -/
def respelled : Text :=
  " \x7b\"tools\" : \"Tools.\" , \"\\ud83d\\ude00\":\"\\/\\n\",\t".toList ++
    "\"to\\u006fls\":\"\"\x7d\r\n ".toList

def respelledPairs : List (Text × Text) :=
  [("tools".toList, "Tools.".toList), (['😀'], ['/', '\n']), ("tools".toList, [])]

theorem stringMembers_respelled : Json.stringMembers respelled = .ok respelledPairs := by
  decide +kernel

/-- Both spellings are the same key, and its empty value stands for none. -/
theorem parse_keepsLast_respelled :
    Json.IsDocument respelled (.object (Json.textMembers respelledPairs)) ∧
      ∃ descriptions, parse respelled = .ok descriptions ∧ descriptions.size = 2 ∧
        descriptions.resolve "tools".toList = fallback ∧
        descriptions.resolve ['😀'] = ['/', '\n'] ∧
        descriptions.resolve "docs".toList = fallback := by
  have written := Json.stringMembers_eq_ok_iff.1 stringMembers_respelled
  obtain ⟨parsed, keeps⟩ := (parse_keepsLast respelled).2 respelledPairs written
  refine ⟨written, ofPairs respelledPairs, parsed, ?_, ?_, ?_, ?_⟩
  · rw [keeps.size_eq]
    decide
  · exact keeps.resolve_last [("tools".toList, "Tools.".toList), (['😀'], ['/', '\n'])] _ [] []
      rfl (by decide)
  · exact keeps.resolve_last [("tools".toList, "Tools.".toList)] ['😀'] ['/', '\n']
      [("tools".toList, [])] rfl (by decide)
  · exact keeps.resolve_absent _ (by decide)

end SourceCatalog.Descriptions
