import Mathlib.Data.List.Nodup
import SourceCatalog.Toml.Document

/-!
# Keys at the root of a TOML document

A statement mentions a key of the root if it is a header, or if no header comes before it. Tables
may be mentioned many times, and one of the mentions stands for the key. One more statement adds
a mention, and may move the standing one to the end.
-/

namespace SourceCatalog.Toml

/-- What a statement says of a key of the root, with the number of characters left where the key
stands, and where the value or the header does. -/
structure Mention where
  name : Text
  value : Value
  key : Nat
  left : Nat
  /-- Whether it is the header of the very table. -/
  own : Bool
  deriving DecidableEq, Repr

def Mention.item (document : Text) (mention : Mention) : Item :=
  ⟨mention.name, mention.value, placeOf document mention.key, placeOf document mention.left⟩

def Key.mention (key : Key) : Mention :=
  ⟨key.name, .other .map, key.left, key.left, false⟩

def KeyPath.mention (path : KeyPath) (value : Value) (left : Nat) (own : Bool) : Mention :=
  match path.parents with
  | [] => ⟨path.last.name, value, path.last.left, left, own⟩
  | first :: _ => first.mention

/-- What a statement says of its key at the root, if it has one there. -/
def Statement.mention : Statement → Mention
  | .assign path value left => path.mention value left false
  | .openTable path left => path.mention (.other .map) left true
  | .openElement path left => path.mention (.other .sequence) left false

def Statement.isHeader : Statement → Bool
  | .assign .. => false
  | .openTable .. => true
  | .openElement .. => true

/-- The mentions of keys of the root, in order: all headers have them, and the assignments before
the first header. -/
def mentions (statements : List Statement) : List Mention :=
  (statements.takeWhile (!·.isHeader) ++
    (statements.dropWhile (!·.isHeader)).filter (·.isHeader)).map Statement.mention

/-- Whether some mention is the header of the table with a name. -/
def Owned (name : Text) (mentions : List Mention) : Prop :=
  ∃ mention ∈ mentions, mention.name = name ∧ mention.own = true

instance (name : Text) (mentions : List Mention) : Decidable (Owned name mentions) :=
  inferInstanceAs (Decidable (∃ mention ∈ mentions, mention.name = name ∧ mention.own = true))

/-- The mentions that stand for their keys. The first one does, unless the header of the very
table comes later. -/
def standing : List Mention → List Mention
  | [] => []
  | mention :: others =>
    if mention.own = false ∧ Owned mention.name others then standing others
    else mention :: (standing others).filter (·.name ≠ mention.name)

section Standing

variable {before : List Mention} {mention : Mention} {name : Text}

theorem owned_cons {head : Mention} {others : List Mention} :
    Owned name (head :: others) ↔ (head.name = name ∧ head.own = true) ∨ Owned name others :=
  List.exists_mem_cons_iff _ _ _

theorem owned_append_singleton :
    Owned name (before ++ [mention]) ↔
      Owned name before ∨ (mention.name = name ∧ mention.own = true) := by
  induction before with
  | nil => simp [Owned]
  | cons head others inductionHypothesis =>
    rw [List.cons_append, owned_cons, owned_cons, inductionHypothesis, or_assoc]

theorem Owned.mem_names (owned : Owned name before) : name ∈ before.map Mention.name := by
  obtain ⟨mention, member, rfl, _⟩ := owned
  exact List.mem_map_of_mem member

theorem mem_names_filter {other : Text} {kept : List Mention} :
    name ∈ (kept.filter (·.name ≠ other)).map Mention.name ↔
      name ∈ kept.map Mention.name ∧ name ≠ other := by
  simp only [List.mem_map, List.mem_filter, decide_eq_true_eq]
  constructor
  · rintro ⟨mention, ⟨member, different⟩, rfl⟩
    exact ⟨⟨mention, member, rfl⟩, different⟩
  · rintro ⟨⟨mention, member, rfl⟩, different⟩
    exact ⟨mention, ⟨member, different⟩, rfl⟩

/-- Every key has a standing mention. -/
theorem mem_names_standing :
    name ∈ (standing before).map Mention.name ↔ name ∈ before.map Mention.name := by
  induction before with
  | nil => exact Iff.rfl
  | cons head others inductionHypothesis =>
    rw [standing, List.map_cons, List.mem_cons]
    split
    · next passed =>
      rw [inductionHypothesis]
      constructor
      · exact .inr
      · rintro (rfl | member)
        · exact passed.2.mem_names
        · exact member
    · rw [List.map_cons, List.mem_cons, mem_names_filter, inductionHypothesis]
      tauto

/-- No key stands twice. -/
theorem nodup_names_standing : ((standing before).map Mention.name).Nodup := by
  induction before with
  | nil => exact List.nodup_nil
  | cons head others inductionHypothesis =>
    rw [standing]
    split
    · exact inductionHypothesis
    · rw [List.map_cons, List.nodup_cons]
      refine ⟨fun member => (mem_names_filter.1 member).2 rfl, ?_⟩
      exact inductionHypothesis.sublist (List.filter_sublist.map Mention.name)

/-- A table with a header of its own stands where that header is. -/
theorem Owned.standing (owned : Owned name before) : Owned name (standing before) := by
  induction before with
  | nil => exact owned
  | cons head others inductionHypothesis =>
    rw [Toml.standing]
    split
    · next passed =>
      rcases owned_cons.1 owned with ⟨_, isOwn⟩ | later
      · rw [passed.1] at isOwn
        cases isOwn
      · exact inductionHypothesis later
    · next taken =>
      rcases owned_cons.1 owned with first | later
      · exact owned_cons.2 (.inl first)
      · by_cases same : head.name = name
        · have isOwn : head.own = true := by
            by_contra notOwn
            exact taken ⟨Bool.eq_false_iff.2 notOwn, same ▸ later⟩
          exact owned_cons.2 (.inl ⟨same, isOwn⟩)
        · obtain ⟨found, member, rfl, isOwn⟩ := inductionHypothesis later
          have kept : found ∈ (Toml.standing others).filter (·.name ≠ head.name) :=
            List.mem_filter.2 ⟨member, decide_eq_true (Ne.symm same)⟩
          exact owned_cons.2 (.inr ⟨found, kept, rfl, isOwn⟩)

def place (placed : List Mention) (mention : Mention) : List Mention :=
  if mention.own then placed.filter (·.name ≠ mention.name) ++ [mention]
  else if (placed.map Mention.name).contains mention.name then placed
  else placed ++ [mention]

theorem place_of_mem {placed : List Mention} {mention : Mention} (led : mention.own = false)
    (member : mention.name ∈ placed.map Mention.name) : place placed mention = placed := by
  rw [place, led, if_neg Bool.false_ne_true, if_pos (List.contains_iff_mem.2 member)]

theorem place_of_notMem {placed : List Mention} {mention : Mention} (led : mention.own = false)
    (fresh : mention.name ∉ placed.map Mention.name) :
    place placed mention = placed ++ [mention] := by
  rw [place, led, if_neg Bool.false_ne_true, if_neg (mt List.contains_iff_mem.1 fresh)]

theorem place_of_own {placed : List Mention} {mention : Mention} (own : mention.own = true) :
    place placed mention = placed.filter (·.name ≠ mention.name) ++ [mention] := by
  rw [place, if_pos own]

/-- A mention that is no header of the very table stands if its key is new. -/
theorem standing_append_led (led : mention.own = false) :
    standing (before ++ [mention]) =
      if mention.name ∈ before.map Mention.name then standing before
      else standing before ++ [mention] := by
  have sameOwned : ∀ name others, Owned name (others ++ [mention]) ↔ Owned name others := by
    intro name others
    rw [owned_append_singleton, led]
    simp
  induction before with
  | nil => simp [standing, Owned]
  | cons head others inductionHypothesis =>
    simp only [List.cons_append, standing, sameOwned, inductionHypothesis, List.map_cons,
      List.mem_cons]
    split
    · next passed =>
      by_cases same : mention.name = head.name
      · have member : mention.name ∈ others.map Mention.name := same ▸ passed.2.mem_names
        rw [if_pos member, if_pos (.inr member)]
      · simp only [same, false_or]
    · by_cases member : mention.name ∈ others.map Mention.name
      · rw [if_pos member, if_pos (.inr member)]
      · rw [if_neg member, List.filter_append]
        by_cases same : mention.name = head.name
        · rw [if_pos (.inl same)]
          simp [same]
        · rw [if_neg (not_or.2 ⟨same, member⟩)]
          simp [same]

/-- The header of a table stands in place of a mention before it. -/
theorem standing_append_own (own : mention.own = true) (first : ¬ Owned mention.name before) :
    standing (before ++ [mention]) =
      (standing before).filter (·.name ≠ mention.name) ++ [mention] := by
  induction before with
  | nil => simp [standing, Owned]
  | cons head others inductionHypothesis =>
    rw [owned_cons, not_or] at first
    have later := inductionHypothesis first.2
    rw [List.cons_append, standing, standing, later]
    by_cases same : head.name = mention.name
    · have notOwn : head.own = false := Bool.eq_false_iff.2 fun isOwn => first.1 ⟨same, isOwn⟩
      have owned : Owned head.name (others ++ [mention]) :=
        owned_append_singleton.2 (.inr ⟨same.symm, own⟩)
      have notOwned : ¬ (head.own = false ∧ Owned head.name others) :=
        fun passed => first.2 (same ▸ passed.2)
      -- The head stood for the key until now; the new header takes its place.
      rw [if_pos ⟨notOwn, owned⟩, if_neg notOwned]
      simp [same]
    · have sameOwned : Owned head.name (others ++ [mention]) ↔ Owned head.name others := by
        rw [owned_append_singleton]
        exact or_iff_left fun found => same found.1.symm
      simp only [sameOwned]
      split
      · rfl
      · simp [same, Ne.symm same, List.filter_filter, Bool.and_comm]

/-- One more mention is placed among the standing ones. -/
theorem standing_append (first : mention.own = true → ¬ Owned mention.name before) :
    standing (before ++ [mention]) = place (standing before) mention := by
  cases own : mention.own with
  | true => rw [standing_append_own own (first own), place_of_own own]
  | false =>
    rw [standing_append_led own]
    split
    · next member => rw [place_of_mem own (mem_names_standing.2 member)]
    · next fresh => rw [place_of_notMem own (mt mem_names_standing.1 fresh)]

end Standing

section Statements

variable {statement head : Statement} {statements others : List Statement}

theorem mentions_cons_header (header : head.isHeader = true) :
    mentions (head :: others) =
      ((head :: others).filter (·.isHeader)).map Statement.mention := by
  simp [mentions, header]

theorem mentions_cons_assign (assign : head.isHeader = false) :
    mentions (head :: others) = head.mention :: mentions others := by
  simp [mentions, assign]

/-- A header mentions a key of the root wherever it stands, an assignment only before all
headers. -/
theorem mentions_append :
    mentions (statements ++ [statement]) =
      if statement.isHeader = true ∨ ∀ earlier ∈ statements, earlier.isHeader = false then
        mentions statements ++ [statement.mention]
      else mentions statements := by
  induction statements with
  | nil => cases header : statement.isHeader <;> simp [mentions, header]
  | cons head others inductionHypothesis =>
    rw [List.cons_append]
    cases header : head.isHeader with
    | true =>
      have notAll : ¬ ∀ earlier ∈ head :: others, earlier.isHeader = false := by
        intro all
        rw [all head List.mem_cons_self] at header
        cases header
      rw [mentions_cons_header header, mentions_cons_header header, ← List.cons_append,
        List.filter_append, List.map_append]
      by_cases isHeader : statement.isHeader = true
      · rw [if_pos (.inl isHeader)]
        simp [isHeader]
      · rw [if_neg (not_or.2 ⟨isHeader, notAll⟩)]
        simp [isHeader]
    | false =>
      rw [mentions_cons_assign header, mentions_cons_assign header, inductionHypothesis]
      simp only [List.forall_mem_cons, header, true_and]
      split <;> rfl

end Statements

end SourceCatalog.Toml
