import Mathlib.Data.List.Nodup
import SourceCatalog.FileTree.Basic

/-!
# What a tree holds

A location that holds something lies in a directory and is made of names. The children of a
directory are what the locations with one more name hold.
-/

namespace SourceCatalog.FileTree

variable {tree : FileTree} {location directory : Location} {node : Node}

theorem lookup_of_mem {entries : List (Location × Node)}
    (distinct : (entries.map Prod.fst).Nodup) (member : (location, node) ∈ entries) :
    entries.lookup location = some node := by
  induction entries with
  | nil => cases member
  | cons head tail inductionHypothesis =>
    obtain ⟨here, held⟩ := head
    rw [List.map_cons, List.nodup_cons] at distinct
    rcases List.mem_cons.1 member with first | inTail
    · cases first
      exact List.lookup_cons_self
    · have different : location ≠ here := by
        intro same
        exact distinct.1 (List.mem_map.2 ⟨(location, node), inTail, same⟩)
      rw [List.lookup_cons, beq_false_of_ne different]
      exact inductionHypothesis distinct.2 inTail

theorem node?_of_mem (member : (location, node) ∈ tree.entries) :
    tree.node? location = some node := by
  have below : location ≠ [] := fun root => tree.root_notMem node (root ▸ member)
  rw [node?, if_neg below]
  exact lookup_of_mem (List.nodup_cons.1 tree.distinct).2 member

/-- What a location below the root holds is an entry of the tree. -/
theorem mem_of_node? (below : location ≠ []) (held : tree.node? location = some node) :
    (location, node) ∈ tree.entries := by
  rw [node?, if_neg below] at held
  exact mem_of_lookup held

theorem isDirectory_iff : tree.isDirectory location = true ↔
    tree.node? location = some .directory :=
  beq_iff_eq

theorem isDirectory_root (tree : FileTree) : tree.isDirectory [] = true := by
  rw [isDirectory_iff, node?, if_pos rfl]

theorem isDirectory_dropLast (held : tree.node? location = some node) :
    tree.isDirectory location.dropLast = true := by
  by_cases root : location = []
  · rw [root]
    exact tree.isDirectory_root
  · rcases tree.within (location, node) (mem_of_node? root held) with atRoot | inDirectory
    · rw [atRoot]
      exact tree.isDirectory_root
    · exact isDirectory_iff.2 (node?_of_mem inDirectory)

theorem isName_of_node? (held : tree.node? location = some node) :
    ∀ name ∈ location, isName name = true := by
  by_cases root : location = []
  · rw [root]
    intro name member
    exact absurd member List.not_mem_nil
  · exact tree.named (location, node) (mem_of_node? root held)

theorem isSound_of_node? (held : tree.node? location = some node) : node.isSound = true := by
  by_cases root : location = []
  · rw [node?, if_pos root] at held
    cases held
    rfl
  · exact tree.sound (location, node) (mem_of_node? root held)

/-- A child lies one name below its directory. -/
theorem childName?_eq_some_iff {name : Text} :
    childName? directory location = some name ↔ location = directory ++ [name] := by
  rw [childName?]
  constructor
  · intro child
    by_cases inDirectory : location.dropLast = directory
    · rw [if_pos inDirectory] at child
      obtain ⟨front, rfl⟩ := List.getLast?_eq_some_iff.1 child
      rw [← inDirectory, List.dropLast_concat]
    · rw [if_neg inDirectory] at child
      cases child
  · intro equality
    rw [equality, List.dropLast_concat, if_pos rfl, List.getLast?_concat]

/-- A listing names exactly the entries directly below the directory. -/
theorem mem_children_iff {name : Text} {kind : Kind} :
    (name, kind) ∈ tree.children directory ↔
      ∃ node, tree.node? (directory ++ [name]) = some node ∧ node.kind = kind := by
  rw [children, List.mem_filterMap]
  constructor
  · rintro ⟨⟨location, node⟩, member, child⟩
    obtain ⟨found, named, equality⟩ := Option.map_eq_some_iff.1 child
    cases equality
    rw [childName?_eq_some_iff.1 named] at member
    exact ⟨node, node?_of_mem member, rfl⟩
  · rintro ⟨node, held, rfl⟩
    have below : directory ++ [name] ≠ [] := List.append_ne_nil_of_right_ne_nil _ (by simp)
    refine ⟨(directory ++ [name], node), mem_of_node? below held, ?_⟩
    exact congrArg (Option.map fun name => (name, node.kind)) (childName?_eq_some_iff.2 rfl)

theorem children_eq_nil (noDirectory : tree.isDirectory directory = false) :
    tree.children directory = [] := by
  rw [List.eq_nil_iff_forall_not_mem]
  rintro ⟨name, kind⟩ member
  obtain ⟨node, held, _⟩ := mem_children_iff.1 member
  have inDirectory := isDirectory_dropLast held
  rw [List.dropLast_concat, noDirectory] at inDirectory
  cases inDirectory

def subdirectories (tree : FileTree) (directory : Location) : List Text :=
  ((tree.children directory).filter fun (_, kind) => kind == .directory).map Prod.fst

theorem mem_subdirectories_iff {name : Text} :
    name ∈ tree.subdirectories directory ↔
      tree.isDirectory (directory ++ [name]) = true := by
  rw [subdirectories, List.mem_map, isDirectory_iff]
  constructor
  · rintro ⟨⟨found, kind⟩, member, rfl⟩
    obtain ⟨child, isDirectory⟩ := List.mem_filter.1 member
    obtain ⟨node, held, rfl⟩ := mem_children_iff.1 child
    cases node with
    | directory => exact held
    | file content => cases isDirectory
    | link target => cases isDirectory
  · intro held
    exact ⟨(name, .directory),
      List.mem_filter.2 ⟨mem_children_iff.2 ⟨.directory, held, rfl⟩, rfl⟩, rfl⟩

/-- No name is listed twice. -/
theorem nodup_subdirectories (tree : FileTree) (directory : Location) :
    (tree.subdirectories directory).Nodup := by
  have names : (tree.children directory).map Prod.fst =
      (tree.entries.map Prod.fst).filterMap (childName? directory) := by
    rw [children, List.map_filterMap, List.filterMap_map]
    congr 1
    funext entry
    simp [Function.comp_def]
  have distinct : ((tree.children directory).map Prod.fst).Nodup := by
    rw [names]
    refine (List.nodup_cons.1 tree.distinct).2.filterMap ?_
    intro first second name inFirst inSecond
    rw [childName?_eq_some_iff.1 inFirst, childName?_eq_some_iff.1 inSecond]
  exact distinct.sublist (List.filter_sublist.map Prod.fst)

end SourceCatalog.FileTree
