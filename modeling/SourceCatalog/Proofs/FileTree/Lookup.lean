import SourceCatalog.Proofs.FileTree.Following

/-!
# Accesses to a filled tree

What a path gives depends on the locations that following it looks at. After files have been
written to other places it gives the same. A path that leads somewhere leads there still,
whatever files have been written.
-/

namespace SourceCatalog.FileTree

variable {tree later : FileTree} {purpose : Purpose} {working location : Location} {path : Path}
  {places : List Location} {spot : Spot}

/-- The locations that following names looks at. A link is handed on. -/
def visitedNames (tree : FileTree) (through : Location → List Text → List Location)
    (here : Location) : List Text → List Location
  | [] => [here]
  | name :: rest =>
    here ::
      if !tree.isDirectory here then []
      else if name = [] ∨ name = ['.'] then tree.visitedNames through here rest
      else if name = ['.', '.'] then tree.visitedNames through here.dropLast rest
      else
        match tree.node? (here ++ [name]) with
        | none => [here ++ [name]]
        | some (.link target) =>
          (here ++ [name]) :: through (startOf here target) (namesOf target ++ rest)
        | some _ => tree.visitedNames through (here ++ [name]) rest

/-- The locations that following names looks at, through at most some number of links. -/
def visitedFrom (tree : FileTree) : Nat → Location → List Text → List Location
  | 0 => tree.visitedNames fun _ _ => []
  | links + 1 => tree.visitedNames (tree.visitedFrom links)

def visited (tree : FileTree) (working : Location) (path : Path) : List Location :=
  tree.visitedFrom linkLimit (startOf working path) (namesOf path)

def Agrees (tree later : FileTree) (places : List Location) : Prop :=
  ∀ place ∈ places, later.node? place = tree.node? place

theorem Agrees.isDirectory (agrees : tree.Agrees later places) {here : Location}
    (member : here ∈ places) : later.isDirectory here = tree.isDirectory here := by
  rw [FileTree.isDirectory, FileTree.isDirectory, agrees here member]

theorem Agrees.of_subset {others : List Location} (agrees : tree.Agrees later places)
    (subset : others ⊆ places) : tree.Agrees later others :=
  fun place member => agrees place (subset member)

theorem mem_visitedNames (tree : FileTree) (visit : Location → List Text → List Location)
    (here : Location) (names : List Text) : here ∈ tree.visitedNames visit here names := by
  cases names with
  | nil => exact List.mem_singleton_self here
  | cons name rest => exact List.mem_cons_self

theorem walkNames_of_agrees {through throughLater : Location → List Text → Except Obstacle Spot}
    {visit : Location → List Text → List Location}
    (sameThrough : ∀ here names, tree.Agrees later (visit here names) →
      throughLater here names = through here names)
    {here : Location} {names : List Text}
    (agrees : tree.Agrees later (tree.visitedNames visit here names)) :
    later.walkNames purpose throughLater here names =
      tree.walkNames purpose through here names := by
  induction names generalizing here with
  | nil => rw [walkNames, walkNames]
  | cons name rest inductionHypothesis =>
    rw [visitedNames] at agrees
    have others := agrees.of_subset (List.subset_cons_self here _)
    rw [walkNames, walkNames, agrees.isDirectory List.mem_cons_self]
    split at others
    · next outside => rw [if_pos outside, if_pos outside]
    · next inside =>
      rw [if_neg inside, if_neg inside]
      split at others
      · next isHere =>
        rw [if_pos isHere, if_pos isHere]
        exact inductionHypothesis others
      · next notHere =>
        rw [if_neg notHere, if_neg notHere]
        split at others
        · next isUp =>
          rw [if_pos isUp, if_pos isUp]
          exact inductionHypothesis others
        · next notUp =>
          rw [if_neg notUp, if_neg notUp]
          cases held : tree.node? (here ++ [name]) with
          | none =>
            rw [held] at others
            rw [others _ List.mem_cons_self, held]
          | some node =>
            rw [held] at others
            cases node with
            | link target =>
              rw [others _ List.mem_cons_self, held]
              dsimp only
              rw [sameThrough _ _ (others.of_subset (List.subset_cons_self _ _))]
            | _ =>
              rw [others _ (mem_visitedNames tree visit _ rest), held]
              dsimp only
              rw [inductionHypothesis others]

/-- Names lead to the same spot in trees that agree on all locations on the way. -/
theorem walk_of_agrees {links : Nat} {here : Location} {names : List Text}
    (agrees : tree.Agrees later (tree.visitedFrom links here names)) :
    later.walk purpose links here names = tree.walk purpose links here names := by
  induction links generalizing here names with
  | zero => exact walkNames_of_agrees (fun _ _ _ => rfl) agrees
  | succ links inductionHypothesis =>
    exact walkNames_of_agrees (fun _ _ inner => inductionHypothesis inner) agrees

theorem locate_of_agrees (agrees : tree.Agrees later (tree.visited working path)) :
    later.locate purpose working path = tree.locate purpose working path := by
  rw [locate, locate]
  cases pathObstacle? path with
  | some obstacle => rfl
  | none => exact walk_of_agrees agrees

theorem visitedFrom_eq_visitedNames (tree : FileTree) (links : Nat) :
    ∃ visit, tree.visitedFrom links = tree.visitedNames visit ∧
      ∀ fewer, links = fewer + 1 → visit = tree.visitedFrom fewer := by
  cases links with
  | zero => exact ⟨_, rfl, by omega⟩
  | succ links =>
    refine ⟨_, rfl, ?_⟩
    intro fewer equality
    rw [Nat.succ.inj equality]

/-- The spot that is found is among the locations that are looked at. -/
theorem Follows.mem_visitedFrom {links : Nat} {here : Location} {names : List Text}
    (follows : tree.Follows purpose links here names spot) :
    spot.location ∈ tree.visitedFrom links here names := by
  induction follows with
  | done links here =>
    obtain ⟨visit, equality, _⟩ := visitedFrom_eq_visitedNames tree links
    rw [equality]
    exact mem_visitedNames tree visit here []
  | @stay links here name rest spot inDirectory isHere _ inductionHypothesis =>
    obtain ⟨visit, equality, _⟩ := visitedFrom_eq_visitedNames tree links
    rw [equality] at inductionHypothesis ⊢
    refine List.mem_cons_of_mem _ ?_
    simpa [inDirectory, isHere] using inductionHypothesis
  | @up links here rest spot inDirectory _ inductionHypothesis =>
    obtain ⟨visit, equality, _⟩ := visitedFrom_eq_visitedNames tree links
    rw [equality] at inductionHypothesis ⊢
    refine List.mem_cons_of_mem _ ?_
    simpa [inDirectory] using inductionHypothesis
  | @free links here name inDirectory entering nothing =>
    obtain ⟨visit, equality, _⟩ := visitedFrom_eq_visitedNames tree links
    rw [equality]
    refine List.mem_cons_of_mem _ ?_
    simp [inDirectory, entering.filled, entering.notHere, entering.notUp, nothing,
      Spot.location]
  | @link links here name rest target spot inDirectory entering held _ inductionHypothesis =>
    obtain ⟨visit, equality, fewer⟩ := visitedFrom_eq_visitedNames tree (links + 1)
    rw [equality, fewer links rfl]
    refine List.mem_cons_of_mem _ ?_
    simp [inDirectory, entering.filled, entering.notHere, entering.notUp, held,
      inductionHypothesis]
  | @enter links here name rest node spot inDirectory entering held noLink _
      inductionHypothesis =>
    obtain ⟨visit, equality, _⟩ := visitedFrom_eq_visitedNames tree links
    rw [equality] at inductionHypothesis ⊢
    refine List.mem_cons_of_mem _ ?_
    cases node with
    | link target => exact absurd rfl noLink
    | _ =>
      simpa [inDirectory, entering.filled, entering.notHere, entering.notUp, held] using
        inductionHypothesis

theorem pathObstacle?_eq_none_iff : pathObstacle? path = none ↔
    '\x00' ∉ path ∧ path ≠ [] ∧ Text.byteLength path ≤ pathLimit := by
  rw [pathObstacle?]
  by_cases zero : '\x00' ∈ path
  · simp [zero]
  · by_cases empty : path = []
    · simp [empty]
    · by_cases long : pathLimit < Text.byteLength path
      · simp [zero, empty, long, Nat.not_le.2 long]
      · simp [zero, empty, long, Nat.le_of_not_lt long]

/-- A path is found exactly if nothing is wrong with it as it is written, and its names lead
somewhere. -/
theorem locate_eq_ok_iff : tree.locate purpose working path = .ok spot ↔
    pathObstacle? path = none ∧
      tree.Follows purpose linkLimit (startOf working path) (namesOf path) spot := by
  rw [locate, ← walk_eq_ok_iff]
  cases pathObstacle? path <;> simp

theorem mem_visited (found : tree.locate purpose working path = .ok spot) :
    spot.location ∈ tree.visited working path :=
  (locate_eq_ok_iff.1 found).2.mem_visitedFrom

/-- A file is read alike where the trees agree on what its path looks at. -/
theorem read_of_agrees (agrees : tree.Agrees later (tree.visited working path)) :
    later.read working path = tree.read working path := by
  rw [read, read, locate_of_agrees agrees]
  cases found : tree.locate .use working path with
  | error obstacle => rfl
  | ok spot =>
    cases spot with
    | free location => rfl
    | taken location =>
      have same : later.node? location = tree.node? location := agrees _ (mem_visited found)
      dsimp only
      rw [same]

theorem locate_of_read {content : List UInt8} (found : tree.read working path = .ok content) :
    ∃ location, tree.locate .use working path = .ok (.taken location) ∧
      tree.node? location = some (.file content) := by
  rw [read] at found
  split at found
  · cases found
  · cases found
  · next location located =>
    split at found
    · next held =>
      cases found
      exact ⟨location, located, held⟩
    · cases found
    · cases found

theorem landed_of_locate (found : tree.locate purpose working path = .ok spot) :
    tree.Landed spot := by
  obtain ⟨noObstacle, follows⟩ := locate_eq_ok_iff.1 found
  have noZero := (pathObstacle?_eq_none_iff.1 noObstacle).1
  refine follows.landed (clean_namesOf noZero) ?_
  intro nothing
  exact absurd nothing (Text.pieces_ne_nil '/' path)

/-- A file is written to where its path leads, unless that is a directory. -/
theorem target_eq_ok_iff : tree.target working path = .ok location ↔
    ∃ spot, tree.locate .make working path = .ok spot ∧ spot.location = location ∧
      tree.isDirectory location = false := by
  rw [target]
  constructor
  · intro found
    cases located : tree.locate .make working path with
    | error obstacle =>
      rw [located] at found
      cases found
    | ok spot =>
      rw [located] at found
      cases spot with
      | free place =>
        cases found
        exact ⟨_, rfl, rfl, (landed_of_locate located).1.not_isDirectory⟩
      | taken place =>
        dsimp only at found
        split at found
        · cases found
        · next noDirectory =>
          cases found
          exact ⟨_, rfl, rfl, Bool.eq_false_iff.2 noDirectory⟩
  · rintro ⟨spot, located, rfl, noDirectory⟩
    rw [located]
    cases spot with
    | free place => rfl
    | taken place =>
      have notThere : tree.isDirectory place = false := noDirectory
      simp [notThere, Spot.location]

/-- A file can be put where a path can be written to. -/
theorem vacant_of_target (found : tree.target working path = .ok location) :
    tree.Vacant location := by
  obtain ⟨spot, located, rfl, noDirectory⟩ := target_eq_ok_iff.1 found
  have landed := landed_of_locate located
  cases spot with
  | free place => exact landed.1
  | taken place =>
    obtain ⟨node, held, noLink⟩ := landed
    have notRoot : place ≠ [] := by
      intro root
      rw [root] at noDirectory
      rw [Spot.location, isDirectory_root] at noDirectory
      cases noDirectory
    refine ⟨notRoot, isName_of_node? held, isDirectory_dropLast held, ?_⟩
    intro other same
    rw [Spot.location, held] at same
    cases same
    cases node with
    | directory =>
      rw [Spot.location, isDirectory_iff.2 held] at noDirectory
      cases noDirectory
    | file content => rfl
    | link target => exact absurd rfl noLink

/-- What has been written to a path is read from the same path. -/
theorem read_of_target {content : List UInt8}
    (found : tree.target working path = .ok location)
    (held : tree.node? location = some (.file content)) :
    tree.read working path = .ok content := by
  obtain ⟨spot, located, rfl, _⟩ := target_eq_ok_iff.1 found
  have landed := landed_of_locate located
  obtain ⟨noObstacle, follows⟩ := locate_eq_ok_iff.1 located
  rw [read, locate_eq_ok_iff.2 ⟨noObstacle, follows.use⟩]
  cases spot with
  | free place =>
    rw [Spot.location, landed.2] at held
    cases held
  | taken place =>
    have there : tree.node? place = some (.file content) := held
    simp [there]

namespace Fills

/-- Files that a path does not look at do not matter for it. -/
theorem agrees (fills : tree.Fills later places)
    (apart : ∀ place ∈ places, place ∉ tree.visited working path) :
    tree.Agrees later (tree.visited working path) := by
  intro place looked
  exact fills.outside place fun member => apart place member looked

theorem locate (fills : tree.Fills later places)
    (found : tree.locate purpose working path = .ok spot) :
    later.locate purpose working path = .ok (spot.filled places) := by
  obtain ⟨noObstacle, follows⟩ := locate_eq_ok_iff.1 found
  exact locate_eq_ok_iff.2 ⟨noObstacle, follows.fills fills⟩

theorem read (fills : tree.Fills later places)
    (found : tree.locate .use working path = .ok spot) (apart : spot.location ∉ places) :
    later.read working path = tree.read working path := by
  rw [FileTree.read, FileTree.read, fills.locate found, found]
  cases spot with
  | free location =>
    have outside : location ∉ places := apart
    rw [Spot.filled_of_notMem outside]
  | taken location =>
    have same : later.node? location = tree.node? location := fills.outside location apart
    dsimp only [Spot.filled]
    rw [same]

theorem target (fills : tree.Fills later places)
    (found : tree.target working path = .ok location) :
    later.target working path = .ok location := by
  obtain ⟨spot, located, rfl, noDirectory⟩ := target_eq_ok_iff.1 found
  exact target_eq_ok_iff.2 ⟨spot.filled places, fills.locate located,
    spot.location_filled places, (fills.isDirectory _).trans noDirectory⟩

end Fills

end SourceCatalog.FileTree
