import Mathlib.Data.List.TakeWhile
import SourceCatalog.Proofs.Toml.Items
import SourceCatalog.Proofs.Toml.Rests

/-!
# Strings where a TOML document assigns them

An assignment at the root keeps where its key begins and where its value does. Main statement: at
the places of an item with a string, the document assigns that string to the name of the item.
-/

namespace SourceCatalog.Toml

variable {text rest document : Text}

/-- The name of the item begins at the first of its places, and at the second one the string that
it is assigned. -/
def Item.Assigned (document : Text) (item : Item) (content : Text) : Prop :=
  ∃ front between value rest, document = front ++ (between ++ value) ∧
    item.keyPlace = Text.Place.start.after front ∧
    item.valuePlace = Text.Place.start.after (front ++ between) ∧
    Assigns (between ++ value) item.name value content rest

/-- The same by the ends of the document where the key and the string begin. -/
def Mention.Assigned (document : Text) (mention : Mention) (content : Text) : Prop :=
  ∃ key value rest, key <:+ document ∧ value <:+ key ∧ mention.key = key.length ∧
    mention.left = value.length ∧ Assigns key mention.name value content rest

theorem placeOf_length (front text : Text) :
    placeOf (front ++ text) text.length = Text.Place.start.after front := by
  rw [placeOf, List.length_append, Nat.add_sub_cancel, List.take_left]

section Mentions

variable {mention : Mention} {content : Text}

theorem Mention.Assigned.of_suffix (assigned : mention.Assigned text content)
    (inside : text <:+ document) : mention.Assigned document content := by
  obtain ⟨key, value, rest, isEnd, placed⟩ := assigned
  exact ⟨key, value, rest, isEnd.trans inside, placed⟩

/-- The ends of the document where key and string begin are the places of the item. -/
theorem Mention.Assigned.item (assigned : mention.Assigned document content) :
    (mention.item document).Assigned document content := by
  obtain ⟨_, value, rest, ⟨front, rfl⟩, ⟨between, rfl⟩, isKey, isValue, assigns⟩ := assigned
  refine ⟨front, between, value, rest, rfl, ?_, ?_, assigns⟩
  · rw [Mention.item, isKey]
    exact placeOf_length front _
  · rw [Mention.item, isValue, ← List.append_assoc]
    exact placeOf_length _ value

theorem mem_of_mem_standing {before : List Mention} (member : mention ∈ standing before) :
    mention ∈ before := by
  induction before with
  | nil => exact member
  | cons head others inductionHypothesis =>
    rw [standing] at member
    split at member
    · exact List.mem_cons_of_mem head (inductionHypothesis member)
    · rcases List.mem_cons.1 member with rfl | later
      · exact List.mem_cons_self
      · exact List.mem_cons_of_mem head (inductionHypothesis (List.mem_filter.1 later).1)

/-- Every mention is that of some statement. -/
theorem exists_of_mem_mentions {statements : List Statement}
    (member : mention ∈ mentions statements) :
    ∃ statement ∈ statements, statement.mention = mention := by
  obtain ⟨statement, kept, rfl⟩ := List.mem_map.1 member
  refine ⟨statement, ?_, rfl⟩
  rcases List.mem_append.1 kept with before | header
  · exact (List.takeWhile_prefix _).subset before
  · exact (List.dropWhile_suffix _).subset (List.mem_filter.1 header).1

end Mentions

theorem isBareKey_iff {tested : Char} : isBareKey tested = true ↔ IsBareKey tested := by
  have opened : isBareKey tested =
      ((((tested.val ≥ 'A'.val ∧ tested.val ≤ 'Z'.val : Bool) ||
        tested.val ≥ 'a'.val && tested.val ≤ 'z'.val) ||
        tested.val ≥ '0'.val && tested.val ≤ '9'.val) || tested == '_' || tested == '-') := rfl
  rw [opened]
  simp only [IsBareKey, Bool.or_eq_true, Bool.and_eq_true, decide_eq_true_eq, beq_iff_eq, or_assoc,
    ge_iff_le]
  exact Iff.rfl

theorem isName_of_readName {name : Text} (read : readName text = some (name, rest)) :
    IsName text name rest := by
  rw [readName] at read
  split at read
  · exact .quoted (readLineString_eq_some_iff.1 read)
  · dsimp only at read
    split at read
    · cases read
    · next filled =>
      cases read
      have ends : ∀ head ∈ (text.dropWhile isBareKey).head?, ¬ IsBareKey head := by
        intro head isHead isBare
        have stops := List.head?_dropWhile_not isBareKey text
        rw [isHead] at stops
        exact absurd (isBareKey_iff.2 isBare) (Bool.eq_false_iff.1 stops)
      have isName := IsName.bare (mt List.isEmpty_iff.2 filled)
        (fun head member => isBareKey_iff.1 (List.mem_takeWhile_imp member)) ends
      rwa [List.takeWhile_append_dropWhile] at isName

/-- A key of the root has one name, which gaps may surround. -/
theorem isName_of_readPath {path : KeyPath} (read : readPath text = some (path, rest))
    (atRoot : path.parents = []) :
    ∃ after, IsName (skipGap text) path.last.name after ∧
      path.last.left = (skipGap text).length ∧ rest = skipGap after := by
  rw [readPath, readParts.eq_def] at read
  dsimp only at read
  split at read
  · cases read
  · split at read
    · cases read
    · next name after isName =>
      split at read
      · obtain ⟨further, _, same⟩ := Option.map_eq_some_iff.1 read
        cases same
        cases atRoot
      · cases read
        exact ⟨after, isName_of_readName isName, rfl, rfl⟩

/-- Only quotes make a string. -/
theorem exists_of_readBare {value : Value} (read : readBare text = some (value, rest)) :
    ∃ found, value = .other found := by
  rw [readBare] at read
  split at read
  · split at read
    · cases read
      exact ⟨.map, rfl⟩
    · obtain ⟨found, _, same⟩ := Option.map_eq_some_iff.1 read
      cases same
      exact ⟨found, rfl⟩
  · obtain ⟨found, _, same⟩ := Option.map_eq_some_iff.1 read
    cases same
    exact ⟨found, rfl⟩

section Readers

variable {content : Text}

theorem isString_of_readFlat (read : readFlat text = some (.string content, rest)) :
    IsString text content rest := by
  rw [readFlat] at read
  split at read
  · obtain ⟨⟨found, after⟩, isString, same⟩ := Option.map_eq_some_iff.1 read
    cases same
    exact readString_eq_some_iff.1 isString
  · obtain ⟨found, other⟩ := exists_of_readBare read
    cases other

theorem isString_of_readLevels {levels : Nat}
    (read : readLevels levels text = some (.string content, rest)) : IsString text content rest := by
  cases levels with
  | zero => exact isString_of_readFlat read
  | succ levels =>
    rw [readLevels, readNested.eq_def] at read
    split at read
    · obtain ⟨_, _, same⟩ := Option.map_eq_some_iff.1 read
      cases same
    · obtain ⟨_, _, same⟩ := Option.map_eq_some_iff.1 read
      cases same
    · exact isString_of_readFlat read

/-- An assignment at the root has one name, and it stands in front of the string. -/
theorem assigned_of_readAssigned {path : KeyPath} {statement : Statement}
    (isPath : readPath text = some (path, rest)) {left : Text}
    (read : readAssigned path rest = some (statement, left))
    (isString : statement.mention.value = .string content) :
    statement.mention.Assigned text content := by
  rw [readAssigned.eq_def] at read
  split at read
  · next tail =>
    obtain ⟨⟨value, after⟩, isValue, same⟩ := Option.map_eq_some_iff.1 read
    cases same
    cases parents : path.parents with
    | nil =>
      obtain ⟨behind, isName, isKey, gone⟩ := isName_of_readPath isPath parents
      simp only [Statement.mention, KeyPath.mention, parents] at isString ⊢
      subst isString
      have gaps := gaps_skipGap behind
      rw [← gone] at gaps
      have assigns := Assigns.string isName gaps (gaps_skipGap tail) (isString_of_readLevels isValue)
      refine ⟨skipGap text, skipGap tail, _, skipGap_suffix text, ?_, isKey, rfl, assigns⟩
      exact (skipGap_suffix tail).trans
        ((List.suffix_cons _ _).trans (gaps.suffix.trans isName.suffix))
    | cons first others =>
      simp only [Statement.mention, KeyPath.mention, parents, Key.mention] at isString
      cases isString
  · cases read

theorem KeyPath.mention_value_ne (path : KeyPath) (found : Misfit) (left : Nat) (own : Bool) :
    (path.mention (.other found) left own).value ≠ .string content := by
  intro same
  rw [KeyPath.mention] at same
  split at same <;> cases same

theorem assigned_of_readStatement {statement : Statement}
    (read : readStatement text = some (statement, rest))
    (isString : statement.mention.value = .string content) :
    statement.mention.Assigned text content := by
  rw [readStatement.eq_def] at read
  split at read
  · split at read
    · cases read
      exact absurd isString (KeyPath.mention_value_ne _ _ _ _)
    · cases read
  · split at read
    · cases read
      exact absurd isString (KeyPath.mention_value_ne _ _ _ _)
    · cases read
  · split at read
    · next isPath => exact assigned_of_readAssigned isPath read isString
    · cases read

theorem assigned_of_readLine {statements : List Statement}
    (read : readLine text = some (statements, rest)) {statement : Statement}
    (member : statement ∈ statements) (isString : statement.mention.value = .string content) :
    statement.mention.Assigned text content := by
  rw [readLine] at read
  split at read
  · cases read
    cases member
  · split at read
    · cases read
    · next found after isStatement =>
      obtain ⟨_, _, same⟩ := Option.map_eq_some_iff.1 read
      cases same
      obtain rfl := List.mem_singleton.1 member
      exact (assigned_of_readStatement isStatement isString).of_suffix (skipGap_suffix text)

/-- The lines behind leave an assignment where it is. -/
theorem assigned_of_readLines {lines : Nat} {statements : List Statement}
    (read : readLines lines text = some statements) {statement : Statement}
    (member : statement ∈ statements) (isString : statement.mention.value = .string content) :
    statement.mention.Assigned text content := by
  induction lines generalizing text statements with
  | zero =>
    cases text with
    | nil =>
      cases read
      cases member
    | cons => cases read
  | succ lines inductionHypothesis =>
    rw [readLines.eq_def] at read
    split at read
    · cases read
      cases member
    · cases read
    · next less same _ =>
      cases same
      split at read
      · cases read
      · next first after isLine =>
        obtain ⟨others, isOthers, same⟩ := Option.map_eq_some_iff.1 read
        subst same
        rcases List.mem_append.1 member with member | later
        · exact assigned_of_readLine isLine member isString
        · exact (inductionHypothesis isOthers later).of_suffix (leaves_readLine isLine)

end Readers

/-- What an item is said to be assigned is a string of the document, at the places of the item. -/
theorem assigned_of_items? {items : List Item} (found : items? document = some items) {item : Item}
    (member : item ∈ items) {content : Text} (isString : item.value = .string content) :
    item.Assigned document content := by
  obtain ⟨read, isRead, rfl⟩ := items?_eq_some found
  obtain ⟨mention, stands, rfl⟩ := List.mem_map.1 member
  obtain ⟨statement, isStatement, rfl⟩ := exists_of_mem_mentions (mem_of_mem_standing stands)
  have assigned := assigned_of_readLines isRead isStatement isString
  exact (assigned.of_suffix (skipMark_suffix document)).item

end SourceCatalog.Toml
