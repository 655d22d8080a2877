import SourceCatalog.Json.ObjectReader

/-!
# Descriptions of directories

A description map gives top-level directories a description of their own. A directory that is
not in the map, or has an empty description there, gets a standing one.
-/

namespace SourceCatalog

structure Descriptions where
  entries : List (Text × Text)
  distinct : (entries.map Prod.fst).Nodup
  deriving DecidableEq, Repr

namespace Descriptions

def empty : Descriptions := ⟨[], by simp⟩

def fallback : Text := "No Description.".toList

/-- The map with one more description, in place of an earlier one of the same name. -/
def insert (descriptions : Descriptions) (entry : Text × Text) : Descriptions where
  entries := descriptions.entries.filter (·.1 != entry.1) ++ [entry]
  distinct := by
    have others := descriptions.distinct.sublist
      (List.filter_sublist (p := fun known => known.1 != entry.1) |>.map Prod.fst)
    rw [List.map_append, List.nodup_append]
    refine ⟨others, by simp, ?_⟩
    intro name old name' new equality
    simp only [List.map_cons, List.map_nil, List.mem_singleton] at new
    simp only [List.mem_map, List.mem_filter, bne_iff_ne] at old
    obtain ⟨known, ⟨_, different⟩, rfl⟩ := old
    exact different (equality.trans new)

/-- The map of a list of names and descriptions. The last one of each name counts. -/
def ofPairs (pairs : List (Text × Text)) : Descriptions :=
  pairs.foldl insert empty

def size (descriptions : Descriptions) : Nat :=
  descriptions.entries.length

def find? (descriptions : Descriptions) (name : Text) : Option Text :=
  descriptions.entries.lookup name

/-- The last description of a name counts. -/
theorem find?_insert_self (descriptions : Descriptions) (entry : Text × Text) :
    (descriptions.insert entry).find? entry.1 = some entry.2 := by
  have absent : (descriptions.entries.filter (·.1 != entry.1)).lookup entry.1 = none := by
    rw [List.lookup_eq_none_iff]
    intro known member
    exact bne_iff_ne.2 (Ne.symm (bne_iff_ne.1 (List.mem_filter.1 member).2))
  rw [find?, insert, List.lookup_append, absent, Option.none_or]
  exact List.lookup_cons_self

/-- A description changes nothing for other names. -/
theorem find?_insert_of_ne {name : Text} {entry : Text × Text} (different : name ≠ entry.1)
    (descriptions : Descriptions) :
    (descriptions.insert entry).find? name = descriptions.find? name := by
  rw [find?, find?, insert, List.lookup_append]
  have : ([entry] : List (Text × Text)).lookup name = none := by
    obtain ⟨key, value⟩ := entry
    rw [List.lookup_cons, beq_false_of_ne different]
    rfl
  rw [this, Option.or_none]
  induction descriptions.entries with
  | nil => rfl
  | cons head tail inductionHypothesis =>
    obtain ⟨key, value⟩ := head
    by_cases same : key = entry.1
    · rw [List.filter_cons_of_neg (by simp [same]), inductionHypothesis, List.lookup_cons,
        beq_false_of_ne (same ▸ different)]
    · rw [List.filter_cons_of_pos (by simp [same]), List.lookup_cons, List.lookup_cons,
        inductionHypothesis]

def resolve (descriptions : Descriptions) (name : Text) : Text :=
  match descriptions.find? name with
  | some description => if description.isEmpty then fallback else description
  | none => fallback

def parse (document : Text) : Except Json.Refusal Descriptions :=
  (Json.stringMembers document).map ofPairs

end Descriptions

end SourceCatalog
