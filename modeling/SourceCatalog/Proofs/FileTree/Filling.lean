import SourceCatalog.Proofs.FileTree.Entries

/-!
# Filling a tree with files

A place is vacant if a file can be written to it. Where files have been written to some places,
the other locations hold what they held, and every directory has the subdirectories that it had.
-/

namespace SourceCatalog.FileTree

variable {tree later : FileTree} {location directory : Location} {node : Node}

/-- A place that a file can be written to: a name in a directory that is free or holds a file. -/
structure Vacant (tree : FileTree) (location : Location) : Prop where
  below : location ≠ []
  named : ∀ name ∈ location, isName name = true
  within : tree.isDirectory location.dropLast = true
  free : ∀ node, tree.node? location = some node → node.kind = .file

theorem Vacant.not_isDirectory (vacant : tree.Vacant location) :
    tree.isDirectory location = false := by
  rw [Bool.eq_false_iff]
  intro isDirectory
  exact absurd (vacant.free _ (isDirectory_iff.1 isDirectory)) (by decide)

theorem Vacant.fits (vacant : tree.Vacant location) (content : List UInt8) :
    tree.Fits location (.file content) where
  sound := rfl
  named := vacant.named
  within := vacant.within
  entered := Or.inr (children_eq_nil vacant.not_isDirectory)

/-- A file in a vacant place is found there. -/
theorem Vacant.node?_put (vacant : tree.Vacant location) (content : List UInt8) :
    (tree.put location (.file content)).node? location = some (.file content) :=
  node?_put_self (vacant.fits content) vacant.below

theorem ext_entries {first second : FileTree} (same : first.entries = second.entries) :
    first = second := by
  cases first
  cases second
  cases same
  rfl

theorem entries_put_of_held (fits : tree.Fits location node)
    (known : location ∈ [] :: tree.entries.map Prod.fst) :
    (tree.put location node).entries = replaced location node tree.entries := by
  rw [put, dif_pos fits, dif_pos known]

theorem entries_put_of_free (fits : tree.Fits location node)
    (unknown : location ∉ [] :: tree.entries.map Prod.fst) :
    (tree.put location node).entries = (location, node) :: tree.entries := by
  rw [put, dif_pos fits, dif_neg unknown]

/-- To put what is there already changes nothing. -/
theorem put_eq_self (below : location ≠ []) (held : tree.node? location = some node) :
    tree.put location node = tree := by
  have member := mem_of_node? below held
  have known : location ∈ [] :: tree.entries.map Prod.fst :=
    List.mem_cons_of_mem _ (List.mem_map.2 ⟨(location, node), member, rfl⟩)
  by_cases fits : tree.Fits location node
  · apply ext_entries
    rw [entries_put_of_held fits known, replaced, List.map_congr_left (g := id), List.map_id]
    rintro ⟨here, old⟩ inEntries
    by_cases same : here = location
    · subst same
      have sameNode : old = node :=
        Option.some.inj ((node?_of_mem inEntries).symm.trans held)
      rw [if_pos rfl, sameNode]
      rfl
    · rw [if_neg same]
      rfl
  · rw [put, dif_neg fits]

/-- A file in a vacant place is no subdirectory of anything. -/
theorem subdirectories_put (vacant : tree.Vacant location) (content : List UInt8)
    (directory : Location) :
    (tree.put location (.file content)).subdirectories directory =
      tree.subdirectories directory := by
  by_cases known : location ∈ [] :: tree.entries.map Prod.fst
  · have sameChildren : (tree.put location (.file content)).children directory =
        tree.children directory := by
      rw [children, children, entries_put_of_held (vacant.fits content) known]
      unfold replaced
      rw [List.filterMap_map]
      apply List.filterMap_congr
      rintro ⟨here, old⟩ member
      by_cases same : here = location
      · subst same
        have kinds : old.kind = (Node.file content).kind :=
          vacant.free old (node?_of_mem member)
        simp [kinds]
      · simp [same]
    rw [subdirectories, subdirectories, sameChildren]
  · rw [subdirectories, subdirectories, children, children,
      entries_put_of_free (vacant.fits content) known, List.filterMap_cons]
    cases named : childName? directory location with
    | none => simp [named]
    | some name => simp [named, Node.kind]

/-- The later tree is the earlier one with files in some vacant places. -/
structure Fills (tree later : FileTree) (places : List Location) : Prop where
  vacant : ∀ place ∈ places, tree.Vacant place
  filled : ∀ place ∈ places, ∃ content, later.node? place = some (.file content)
  outside : ∀ location, location ∉ places → later.node? location = tree.node? location
  subdirectories : ∀ directory, later.subdirectories directory = tree.subdirectories directory

theorem Fills.refl (tree : FileTree) : tree.Fills tree [] where
  vacant := fun _ member => absurd member List.not_mem_nil
  filled := fun _ member => absurd member List.not_mem_nil
  outside := fun _ _ => rfl
  subdirectories := fun _ => rfl

namespace Fills

variable {places : List Location}

/-- Files in vacant places make no directories and hide none. -/
theorem isDirectory (fills : tree.Fills later places) (location : Location) :
    later.isDirectory location = tree.isDirectory location := by
  by_cases member : location ∈ places
  · obtain ⟨content, held⟩ := fills.filled location member
    rw [(fills.vacant location member).not_isDirectory, FileTree.isDirectory, held]
    rfl
  · rw [FileTree.isDirectory, FileTree.isDirectory, fills.outside location member]

/-- A place stays vacant, whether it has been filled or not. -/
theorem vacant_iff (fills : tree.Fills later places) {location : Location} :
    later.Vacant location ↔ tree.Vacant location := by
  constructor
  · intro vacant
    by_cases member : location ∈ places
    · exact fills.vacant location member
    · exact ⟨vacant.below, vacant.named, fills.isDirectory _ ▸ vacant.within,
        fills.outside location member ▸ vacant.free⟩
  · intro vacant
    refine ⟨vacant.below, vacant.named, (fills.isDirectory _).trans vacant.within, ?_⟩
    intro node held
    by_cases member : location ∈ places
    · obtain ⟨content, written⟩ := fills.filled location member
      rw [written] at held
      cases held
      rfl
    · exact vacant.free node (fills.outside location member ▸ held)

theorem put (fills : tree.Fills later places) (vacant : tree.Vacant location)
    (content : List UInt8) :
    tree.Fills (later.put location (.file content)) (location :: places) := by
  have laterVacant := fills.vacant_iff.2 vacant
  refine ⟨List.forall_mem_cons.2 ⟨vacant, fills.vacant⟩, ?_, ?_, ?_⟩
  · intro place member
    by_cases same : place = location
    · rw [same]
      exact ⟨content, laterVacant.node?_put content⟩
    · rw [node?_put_of_ne same]
      exact fills.filled place (List.mem_of_ne_of_mem same member)
  · intro other notMember
    rw [List.mem_cons, not_or] at notMember
    rw [node?_put_of_ne notMember.1, fills.outside other notMember.2]
  · intro directory
    rw [subdirectories_put laterVacant, fills.subdirectories]

theorem trans {middle last : FileTree} {more : List Location} (first : tree.Fills middle places)
    (second : middle.Fills last more) : tree.Fills last (more ++ places) where
  vacant := by
    intro place member
    rcases List.mem_append.1 member with inMore | inPlaces
    · exact first.vacant_iff.1 (second.vacant place inMore)
    · exact first.vacant place inPlaces
  filled := by
    intro place member
    by_cases inMore : place ∈ more
    · exact second.filled place inMore
    · rw [second.outside place inMore]
      exact first.filled place ((List.mem_append.1 member).resolve_left inMore)
  outside := by
    intro other notMember
    rw [List.mem_append, not_or] at notMember
    rw [second.outside other notMember.1, first.outside other notMember.2]
  subdirectories := fun directory =>
    (second.subdirectories directory).trans (first.subdirectories directory)

end Fills

def putFiles (tree : FileTree) (files : List (Location × List UInt8)) : FileTree :=
  files.foldl (fun made file => made.put file.1 (.file file.2)) tree

variable {places : List Location} {files : List (Location × List UInt8)}

theorem Fills.putFiles (fills : tree.Fills later places)
    (vacant : ∀ file ∈ files, tree.Vacant file.1) :
    tree.Fills (later.putFiles files) ((files.map Prod.fst).reverse ++ places) := by
  induction files generalizing later places with
  | nil => exact fills
  | cons file others inductionHypothesis =>
    obtain ⟨here, there⟩ := List.forall_mem_cons.1 vacant
    have filled := inductionHypothesis (fills.put here file.2) there
    rw [List.map_cons, List.reverse_cons, List.append_assoc]
    exact filled

theorem node?_putFiles_of_notMem (outside : location ∉ files.map Prod.fst) :
    (tree.putFiles files).node? location = tree.node? location := by
  induction files generalizing tree with
  | nil => rfl
  | cons file others inductionHypothesis =>
    rw [List.map_cons, List.mem_cons, not_or] at outside
    exact (inductionHypothesis outside.2).trans (node?_put_of_ne outside.1 tree _)

/-- Files in different places do not overwrite one another. -/
theorem node?_putFiles_of_mem {file : Location × List UInt8}
    (distinct : (files.map Prod.fst).Nodup) (vacant : ∀ file ∈ files, tree.Vacant file.1)
    (member : file ∈ files) :
    (tree.putFiles files).node? file.1 = some (.file file.2) := by
  induction files generalizing tree with
  | nil => cases member
  | cons first others inductionHypothesis =>
    rw [List.map_cons, List.nodup_cons] at distinct
    obtain ⟨here, there⟩ := List.forall_mem_cons.1 vacant
    rcases List.mem_cons.1 member with rfl | later
    · exact (node?_putFiles_of_notMem distinct.1).trans (here.node?_put file.2)
    · refine inductionHypothesis distinct.2 ?_ later
      intro other inOthers
      exact ((Fills.refl tree).put here first.2).vacant_iff.2 (there other inOthers)

/-- To write files anew with what they hold changes nothing. -/
theorem putFiles_eq_self (held : ∀ file ∈ files, file.1 ≠ [] ∧
    tree.node? file.1 = some (.file file.2)) : tree.putFiles files = tree := by
  induction files with
  | nil => rfl
  | cons file others inductionHypothesis =>
    obtain ⟨⟨below, here⟩, there⟩ := List.forall_mem_cons.1 held
    have unchanged := put_eq_self below here
    change (tree.put file.1 (.file file.2)).putFiles others = tree
    rw [unchanged]
    exact inductionHypothesis there

end SourceCatalog.FileTree
