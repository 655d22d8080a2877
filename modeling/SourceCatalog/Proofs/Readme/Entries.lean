import SourceCatalog.Proofs.FileTree.Joining
import SourceCatalog.Proofs.Readme.Collecting

/-!
# Entries as the tree holds them

In a tree without links the entries of a directory are those of its subdirectories, in the order
of the listing, and each fragment is the file of that name in the subdirectory. Files that are
written elsewhere do not change them.
-/

namespace SourceCatalog

section Results

variable {α β ε : Type} {work : α → Except ε β}

theorem mapM_cons_eq_ok_iff {first : α} {others : List α} {results : List β} :
    (first :: others).mapM work = .ok results ↔
      ∃ result more, work first = .ok result ∧ others.mapM work = .ok more ∧
        results = result :: more := by
  rw [List.mapM_cons]
  cases work first with
  | error fault => exact ⟨nofun, nofun⟩
  | ok result =>
    cases others.mapM work with
    | error fault => exact ⟨nofun, nofun⟩
    | ok more =>
      constructor
      · intro equality
        cases equality
        exact ⟨result, more, rfl, rfl, rfl⟩
      · rintro ⟨_, _, ⟨⟩, ⟨⟩, rfl⟩
        rfl

/-- If all results are there, what is known of each of them is known of all. -/
theorem map_of_mapM_eq_ok {γ : Type} {seen : β → γ} {expected : α → γ} {items : List α}
    {results : List β}
    (only : ∀ item ∈ items, ∀ result, work item = .ok result → seen result = expected item)
    (found : items.mapM work = .ok results) : results.map seen = items.map expected := by
  induction items generalizing results with
  | nil =>
    cases found
    rfl
  | cons first others inductionHypothesis =>
    obtain ⟨result, more, here, there, rfl⟩ := mapM_cons_eq_ok_iff.1 found
    rw [List.map_cons, List.map_cons, only first List.mem_cons_self result here,
      inductionHypothesis (fun item member => only item (List.mem_cons_of_mem _ member)) there]

/-- If all results are there, and each can only be one, these are the results. -/
theorem eq_map_of_mapM_eq_ok {expected : α → β} {items : List α} {results : List β}
    (only : ∀ item ∈ items, ∀ result, work item = .ok result → result = expected item)
    (found : items.mapM work = .ok results) : results = items.map expected := by
  have same := map_of_mapM_eq_ok (fun item member => only item member) found
  rwa [List.map_id''] at same
  exact fun _ => rfl

theorem mapM_congr {other : α → Except ε β} {items : List α}
    (same : ∀ item ∈ items, work item = other item) : items.mapM work = items.mapM other := by
  induction items with
  | nil => rfl
  | cons first others inductionHypothesis =>
    rw [List.mapM_cons, List.mapM_cons, same first List.mem_cons_self,
      inductionHypothesis fun item member => same item (List.mem_cons_of_mem _ member)]

end Results

namespace Readme

variable {tree later : FileTree} {working place : Location} {path : Path} {fragment name : Text}
  {places : List Location}

def entryBelow (tree : FileTree) (fragment : Text) (directory : Location) (name : Text) : Entry :=
  .ofFragment name ((tree.fileAt? (directory ++ [name, fragment])).map Text.decodeLossy)

def entriesBelow (tree : FileTree) (fragment : Text) (directory : Location) : List Entry :=
  (tree.subdirectories directory).map (entryBelow tree fragment directory)

/-- A listing leads to the subdirectories, each by its path. -/
theorem subdirectoriesIn_children (tree : FileTree) (path : Path) (place : Location) :
    subdirectoriesIn path (tree.children place) =
      (tree.subdirectories place).map fun name => ⟨name, path.join name⟩ := by
  rw [subdirectoriesIn, FileTree.subdirectories, List.map_map]
  rfl

theorem ordinary_of_mem_subdirectories (child : name ∈ tree.subdirectories place) :
    Ordinary name := by
  have held := FileTree.isDirectory_iff.1 (FileTree.mem_subdirectories_iff.1 child)
  exact ordinary_of_isName
    (FileTree.isName_of_node? held name (List.mem_append_right place List.mem_cons_self))

theorem of_orMissing_eq_ok {reading : Except Obstacle (List UInt8)}
    {bytes : Option (List UInt8)} (found : Job.orMissing path reading = .ok bytes) :
    (reading = .error .notFound ∧ bytes = none) ∨
      ∃ content, reading = .ok content ∧ bytes = some content := by
  rw [Job.orMissing.eq_def] at found
  split at found
  · next content =>
    cases found
    exact Or.inr ⟨content, rfl, rfl⟩
  · cases found
    exact Or.inl ⟨rfl, rfl⟩
  · cases found

theorem eq_entryBelow_of_entryOf {entry : Entry} (leads : tree.Leads working path place)
    (linkFree : tree.LinkFree) (ordinary : Ordinary fragment)
    (child : name ∈ tree.subdirectories place)
    (found : entryOf fragment tree working ⟨name, path.join name⟩ = .ok entry) :
    entry = entryBelow tree fragment place name := by
  have childOrdinary := ordinary_of_mem_subdirectories child
  have filled := Path.join_ne_nil childOrdinary leads.filled
  rw [entryOf, fragmentOf] at found
  dsimp only at found
  cases readings : Job.orMissing ((path.join name).join fragment)
      (tree.read working ((path.join name).join fragment)) with
  | error fault =>
    rw [readings] at found
    cases found
  | ok bytes =>
    rw [readings] at found
    cases found
    have noObstacle : FileTree.pathObstacle? ((path.join name).join fragment) = none := by
      cases wrong : FileTree.pathObstacle? ((path.join name).join fragment) with
      | none => rfl
      | some obstacle =>
        rw [FileTree.read_of_obstacle wrong] at readings
        rcases of_orMissing_eq_ok readings with ⟨⟨⟩, _⟩ | ⟨content, ⟨⟩, _⟩
        exact absurd wrong
          (FileTree.pathObstacle?_ne_notFound (Path.join_ne_nil ordinary filled))
    have childLeads := leads.join child
      (FileTree.pathObstacle?_of_join ordinary filled noObstacle)
    have there : tree.fileAt? (place ++ [name] ++ [fragment]) = bytes := by
      rcases of_orMissing_eq_ok readings with ⟨missing, rfl⟩ | ⟨content, read, rfl⟩
      · exact childLeads.fileAt?_of_notFound linkFree ordinary missing
      · exact childLeads.fileAt?_of_read linkFree ordinary read
    rw [List.append_assoc] at there
    rw [entryBelow, ← there]
    rfl

/-- The entries of a directory can only be those that the tree holds. -/
theorem eq_entriesBelow_of_entriesOf {entries : List Entry}
    (leads : tree.Leads working path place) (linkFree : tree.LinkFree)
    (ordinary : Ordinary fragment)
    (found : entriesOf path fragment tree working = .ok entries) :
    entries = entriesBelow tree fragment place := by
  rw [entriesOf, leads.list, entriesIn, subdirectoriesIn_children] at found
  have only : ∀ subdirectory ∈ (tree.subdirectories place).map fun name =>
      (⟨name, path.join name⟩ : Subdirectory),
      ∀ entry, entryOf fragment tree working subdirectory = .ok entry →
        entry = entryBelow tree fragment place subdirectory.name := by
    intro subdirectory member entry entryFound
    obtain ⟨name, child, rfl⟩ := List.mem_map.1 member
    exact eq_entryBelow_of_entryOf leads linkFree ordinary child entryFound
  rw [eq_map_of_mapM_eq_ok only found, List.map_map]
  rfl

theorem entryOf_fills (leads : tree.Leads working path place) (linkFree : tree.LinkFree)
    (fills : tree.Fills later places) (ordinary : Ordinary fragment)
    (child : name ∈ tree.subdirectories place)
    (apart : place ++ [name, fragment] ∉ places) :
    entryOf fragment later working ⟨name, path.join name⟩ =
      entryOf fragment tree working ⟨name, path.join name⟩ := by
  have filled := Path.join_ne_nil (ordinary_of_mem_subdirectories child) leads.filled
  have read : later.read working ((path.join name).join fragment) =
      tree.read working ((path.join name).join fragment) := by
    cases wrong : FileTree.pathObstacle? ((path.join name).join fragment) with
    | some obstacle =>
      rw [FileTree.read_of_obstacle wrong, FileTree.read_of_obstacle wrong]
    | none =>
      have childLeads := leads.join child
        (FileTree.pathObstacle?_of_join ordinary filled wrong)
      refine childLeads.read_fills linkFree fills ordinary ?_
      rw [List.append_assoc]
      exact apart
  rw [entryOf, entryOf, fragmentOf, fragmentOf]
  dsimp only
  rw [read]

/-- Entries stay the same as long as no fragment is written to. -/
theorem entriesOf_fills (leads : tree.Leads working path place) (linkFree : tree.LinkFree)
    (fills : tree.Fills later places) (ordinary : Ordinary fragment)
    (apart : ∀ name, place ++ [name, fragment] ∉ places) :
    entriesOf path fragment later working = entriesOf path fragment tree working := by
  rw [entriesOf, entriesOf, leads.list, (leads.fills fills).list, entriesIn, entriesIn,
    subdirectoriesIn_children, subdirectoriesIn_children, fills.subdirectories]
  apply mapM_congr
  intro subdirectory member
  obtain ⟨name, child, rfl⟩ := List.mem_map.1 member
  exact entryOf_fills leads linkFree fills ordinary child (apart name)

end Readme

end SourceCatalog
