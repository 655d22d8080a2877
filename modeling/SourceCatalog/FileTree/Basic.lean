import SourceCatalog.Path

/-!
# File trees

A file tree holds directories, files and symbolic links by their location: the names that lead
to them from the root of all files. The root itself is always a directory. The entries of a
directory are listed in the order in which the tree holds them, the newest one first.
-/

namespace SourceCatalog

def nameLimit : Nat := 255

/-- Whether a text can be the name of an entry: one that a path can lead to. -/
def isName (name : Text) : Bool :=
  !name.isEmpty && name != ['.'] && name != ['.', '.'] && !name.contains '/' &&
    !name.contains '\x00' && Text.byteLength name ≤ nameLimit

abbrev Location := List Text

def Path.ofLocation (location : Location) : Path :=
  if location.isEmpty then ['/'] else location.flatMap ('/' :: ·)

inductive Node where
  | directory
  | file (content : List UInt8)
  | link (target : Path)
  deriving DecidableEq, Repr

inductive Kind where
  | directory
  | file
  | link
  deriving DecidableEq, Repr

def Node.kind : Node → Kind
  | directory => .directory
  | file _ => .file
  | link _ => .link

/-- Whether a node can stand in a tree: no link has a zero byte in its target. -/
def Node.isSound : Node → Bool
  | link target => !target.contains '\x00'
  | _ => true

/-- A file tree: what each location below the root holds. -/
structure FileTree where
  entries : List (Location × Node)
  distinct : ([] :: entries.map Prod.fst).Nodup
  named : ∀ entry ∈ entries, ∀ name ∈ entry.1, isName name = true
  sound : ∀ entry ∈ entries, entry.2.isSound = true
  /-- Every entry lies in the root or in another directory. -/
  within : ∀ entry ∈ entries,
    entry.1.dropLast = [] ∨ (entry.1.dropLast, Node.directory) ∈ entries
  deriving DecidableEq, Repr

namespace FileTree

def empty : FileTree := ⟨[], by simp, by simp, by simp, by simp⟩

def node? (tree : FileTree) (location : Location) : Option Node :=
  if location = [] then some .directory else tree.entries.lookup location

def isDirectory (tree : FileTree) (location : Location) : Bool :=
  tree.node? location == some .directory

/-- The name of an entry, if it lies directly in the given directory. -/
def childName? (directory location : Location) : Option Text :=
  if location.dropLast = directory then location.getLast? else none

def children (tree : FileTree) (directory : Location) : List (Text × Kind) :=
  tree.entries.filterMap fun (location, node) =>
    (childName? directory location).map fun name => (name, node.kind)

/-- An entry with a name lies in the directory that is left of its location without the name. -/
theorem childName?_dropLast {location : Location} (below : location ≠ []) :
    childName? location.dropLast location = some (location.getLast below) := by
  rw [childName?, if_pos rfl, List.getLast?_eq_some_getLast below]

/-- An entry is a child of the directory that it lies in. -/
theorem children_ne_nil {tree : FileTree} {location : Location} {node : Node}
    (member : (location, node) ∈ tree.entries) (below : location ≠ []) :
    tree.children location.dropLast ≠ [] := by
  have child : (location.getLast below, node.kind) ∈ tree.children location.dropLast :=
    List.mem_filterMap.2 ⟨(location, node), member,
      congrArg (Option.map fun name => (name, node.kind)) (childName?_dropLast below)⟩
  exact List.ne_nil_of_mem child

theorem root_notMem (tree : FileTree) (node : Node) : ([], node) ∉ tree.entries := by
  intro member
  exact (List.nodup_cons.1 tree.distinct).1 (List.mem_map_of_mem member)

theorem mem_of_lookup {location : Location} {node : Node} {entries : List (Location × Node)}
    (found : entries.lookup location = some node) : (location, node) ∈ entries := by
  induction entries with
  | nil => cases found
  | cons head tail inductionHypothesis =>
    obtain ⟨here, held⟩ := head
    rw [List.lookup_cons] at found
    by_cases same : location = here
    · subst same
      simp only [beq_self_eq_true, Option.some.injEq] at found
      rw [found]
      exact List.mem_cons_self
    · rw [beq_false_of_ne same] at found
      exact List.mem_cons_of_mem _ (inductionHypothesis found)

/-! ## Putting entries in place -/

def replaced (location : Location) (node : Node) (entries : List (Location × Node)) :
    List (Location × Node) :=
  entries.map fun entry => if entry.1 = location then (entry.1, node) else entry

theorem map_fst_replaced (location : Location) (node : Node) (entries : List (Location × Node)) :
    (replaced location node entries).map Prod.fst = entries.map Prod.fst := by
  induction entries with
  | nil => rfl
  | cons head tail inductionHypothesis =>
    rw [replaced] at inductionHypothesis
    rw [replaced, List.map_cons, List.map_cons, List.map_cons, inductionHypothesis]
    split <;> rfl

theorem named_replaced {location : Location} {node : Node} {entries : List (Location × Node)}
    (named : ∀ entry ∈ entries, ∀ name ∈ entry.1, isName name = true) :
    ∀ entry ∈ replaced location node entries, ∀ name ∈ entry.1, isName name = true := by
  intro entry member
  have : entry.1 ∈ (replaced location node entries).map Prod.fst := List.mem_map_of_mem member
  rw [map_fst_replaced] at this
  obtain ⟨old, oldMember, equality⟩ := List.mem_map.1 this
  exact equality ▸ named old oldMember

theorem sound_replaced {location : Location} {node : Node} {entries : List (Location × Node)}
    (nodeSound : node.isSound = true) (sound : ∀ entry ∈ entries, entry.2.isSound = true) :
    ∀ entry ∈ replaced location node entries, entry.2.isSound = true := by
  intro entry member
  obtain ⟨old, oldMember, rfl⟩ := List.mem_map.1 member
  split
  · exact nodeSound
  · exact sound old oldMember

/-- What can be put at a location: it must be a name in a directory, and a directory with
entries in it stays one. -/
structure Fits (tree : FileTree) (location : Location) (node : Node) : Prop where
  sound : node.isSound = true
  named : ∀ name ∈ location, isName name = true
  within : tree.isDirectory location.dropLast = true
  entered : node = .directory ∨ tree.children location = []

instance (tree : FileTree) (location : Location) (node : Node) :
    Decidable (tree.Fits location node) :=
  decidable_of_iff
    (node.isSound = true ∧ (∀ name ∈ location, isName name = true) ∧
      tree.isDirectory location.dropLast = true ∧
        (node = .directory ∨ tree.children location = []))
    ⟨fun ⟨sound, named, within, entered⟩ => ⟨sound, named, within, entered⟩,
      fun fits => ⟨fits.sound, fits.named, fits.within, fits.entered⟩⟩

/-- Another node at a location leaves the entries below it in directories. -/
theorem within_replaced {tree : FileTree} {location : Location} {node : Node}
    (fits : tree.Fits location node) :
    ∀ entry ∈ replaced location node tree.entries,
      entry.1.dropLast = [] ∨
        (entry.1.dropLast, Node.directory) ∈ replaced location node tree.entries := by
  intro entry member
  have location_eq : ∀ old : Location × Node,
      (if old.1 = location then (old.1, node) else old).1 = old.1 := by
    intro old
    split <;> rfl
  obtain ⟨old, oldMember, rfl⟩ := List.mem_map.1 member
  rw [location_eq]
  rcases tree.within old oldMember with atRoot | inDirectory
  · exact Or.inl atRoot
  · refine Or.inr (List.mem_map.2 ⟨_, inDirectory, ?_⟩)
    split
    · next here =>
      have below : old.1 ≠ [] := fun root => tree.root_notMem old.2 (root ▸ oldMember)
      have filled : tree.children location ≠ [] := here ▸ children_ne_nil oldMember below
      rw [fits.entered.resolve_right filled]
    · rfl

theorem within_cons {tree : FileTree} {location : Location} {node : Node}
    (fits : tree.Fits location node) :
    ∀ entry ∈ (location, node) :: tree.entries,
      entry.1.dropLast = [] ∨
        (entry.1.dropLast, Node.directory) ∈ (location, node) :: tree.entries := by
  intro entry member
  rcases List.mem_cons.1 member with rfl | old
  · by_cases atRoot : location.dropLast = []
    · exact Or.inl atRoot
    · have held : tree.node? location.dropLast = some .directory := beq_iff_eq.1 fits.within
      rw [node?, if_neg atRoot] at held
      exact Or.inr (List.mem_cons_of_mem _ (mem_of_lookup held))
  · exact (tree.within entry old).imp_right (List.mem_cons_of_mem _)

/-- The tree with another entry, in the place of the one at the same location if there is one.
What does not fit is left out. -/
def put (tree : FileTree) (location : Location) (node : Node) : FileTree :=
  if fits : tree.Fits location node then
    if known : location ∈ [] :: tree.entries.map Prod.fst then
      { entries := replaced location node tree.entries
        distinct := by
          rw [map_fst_replaced]
          exact tree.distinct
        named := named_replaced tree.named
        sound := sound_replaced fits.sound tree.sound
        within := within_replaced fits }
    else
      { entries := (location, node) :: tree.entries
        distinct := by
          have distinct := List.nodup_cons.1 tree.distinct
          simp only [List.mem_cons, not_or] at known
          refine List.nodup_cons.2 ⟨?_, List.nodup_cons.2 ⟨known.2, distinct.2⟩⟩
          intro member
          rcases List.mem_cons.1 member with rootIsNew | rootIsOld
          · exact known.1 rootIsNew.symm
          · exact distinct.1 rootIsOld
        named := List.forall_mem_cons.2 ⟨fits.named, tree.named⟩
        sound := List.forall_mem_cons.2 ⟨fits.sound, tree.sound⟩
        within := within_cons fits }
  else
    tree

theorem lookup_replaced_self {location : Location} {entries : List (Location × Node)}
    (node : Node) (known : location ∈ entries.map Prod.fst) :
    (replaced location node entries).lookup location = some node := by
  induction entries with
  | nil => simp at known
  | cons head tail inductionHypothesis =>
    obtain ⟨here, old⟩ := head
    rw [replaced] at inductionHypothesis
    rw [replaced, List.map_cons]
    by_cases same : here = location
    · subst here
      rw [if_pos rfl, List.lookup_cons_self]
    · have later : location ∈ tail.map Prod.fst := by
        rcases List.mem_cons.1 known with first | later
        · exact absurd first.symm same
        · exact later
      rw [if_neg same, List.lookup_cons, beq_false_of_ne (Ne.symm same)]
      exact inductionHypothesis later

/-- Every other location holds what it held. -/
theorem lookup_replaced_of_ne {location other : Location} (different : other ≠ location)
    (node : Node) (entries : List (Location × Node)) :
    (replaced location node entries).lookup other = entries.lookup other := by
  induction entries with
  | nil => rfl
  | cons head tail inductionHypothesis =>
    obtain ⟨here, old⟩ := head
    rw [replaced] at inductionHypothesis
    rw [replaced, List.map_cons]
    by_cases same : here = location
    · subst here
      rw [if_pos rfl, List.lookup_cons, List.lookup_cons, beq_false_of_ne different]
      exact inductionHypothesis
    · rw [if_neg same, List.lookup_cons, List.lookup_cons, inductionHypothesis]

/-- An entry is found where it has been put. -/
theorem node?_put_self {tree : FileTree} {location : Location} {node : Node}
    (fits : tree.Fits location node) (below : location ≠ []) :
    (tree.put location node).node? location = some node := by
  rw [node?, if_neg below, put, dif_pos fits]
  split
  · next known =>
    rcases List.mem_cons.1 known with root | known
    · exact absurd root below
    · exact lookup_replaced_self node known
  · exact List.lookup_cons_self

/-- Putting an entry changes nothing at other locations. -/
theorem node?_put_of_ne {location other : Location} (different : other ≠ location)
    (tree : FileTree) (node : Node) : (tree.put location node).node? other = tree.node? other := by
  by_cases root : other = []
  · rw [node?, node?, if_pos root, if_pos root]
  · rw [node?, node?, if_neg root, if_neg root, put]
    split
    · split
      · exact lookup_replaced_of_ne different node tree.entries
      · rw [List.lookup_cons, beq_false_of_ne different]
    · rfl

theorem isPrefixOf_of_dropLast {location below : Location}
    (inside : location.isPrefixOf below.dropLast = true) : location.isPrefixOf below = true :=
  List.isPrefixOf_iff_prefix.2
    ((List.isPrefixOf_iff_prefix.1 inside).trans (List.dropLast_prefix below))

/-- The tree without an entry and everything below it. -/
def remove (tree : FileTree) (location : Location) : FileTree where
  entries := tree.entries.filter fun entry => !location.isPrefixOf entry.1
  distinct := tree.distinct.sublist ((List.filter_sublist.map Prod.fst).cons_cons [])
  named := fun entry member => tree.named entry (List.mem_filter.1 member).1
  sound := fun entry member => tree.sound entry (List.mem_filter.1 member).1
  within := by
    intro entry member
    obtain ⟨held, outside⟩ := List.mem_filter.1 member
    refine (tree.within entry held).imp_right fun inDirectory => List.mem_filter.2 ⟨inDirectory, ?_⟩
    cases inside : location.isPrefixOf entry.1.dropLast with
    | false => rfl
    | true => simp [isPrefixOf_of_dropLast inside] at outside

/-- The entries below a directory, with the names that lead to them from there. -/
def below (tree : FileTree) (directory : Location) : List (Location × Node) :=
  tree.entries.filterMap fun (location, node) =>
    match directory.isPrefixOf? location with
    | some (first :: others) => some (first :: others, node)
    | _ => none

end FileTree

end SourceCatalog
