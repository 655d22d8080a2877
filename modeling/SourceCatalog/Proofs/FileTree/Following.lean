import SourceCatalog.FileTree.Access
import SourceCatalog.Proofs.FileTree.Filling
import SourceCatalog.Proofs.Text.Cutting

/-!
# Following paths

The steps of following a path are given as a relation, which holds exactly where the path can be
followed. A path that can be followed still can be when the tree is filled with files, and leads
to the same location. Where a file can be made is a vacant place.
-/

namespace SourceCatalog.FileTree

variable {tree later : FileTree} {purpose : Purpose} {links : Nat} {here : Location}
  {name : Text} {rest names : List Text} {spot : Spot} {places : List Location}

/-- A name that leads to an entry of a directory, given the names behind it. -/
structure Entering (purpose : Purpose) (name : Text) (rest : List Text) : Prop where
  filled : name ≠ []
  notHere : name ≠ ['.']
  notUp : name ≠ ['.', '.']
  short : Text.byteLength name ≤ nameLimit
  notClosed : ¬(purpose = .make ∧ rest ≠ [] ∧ rest.all List.isEmpty = true)

/-- Names lead from a location to a spot, through at most some number of links. -/
inductive Follows (tree : FileTree) (purpose : Purpose) :
    Nat → Location → List Text → Spot → Prop
  | done (links : Nat) (here : Location) : Follows tree purpose links here [] (.taken here)
  | stay {links : Nat} {here : Location} {name : Text} {rest : List Text} {spot : Spot} :
      tree.isDirectory here = true → name = [] ∨ name = ['.'] →
      Follows tree purpose links here rest spot →
      Follows tree purpose links here (name :: rest) spot
  | up {links : Nat} {here : Location} {rest : List Text} {spot : Spot} :
      tree.isDirectory here = true → Follows tree purpose links here.dropLast rest spot →
      Follows tree purpose links here (['.', '.'] :: rest) spot
  | free {links : Nat} {here : Location} {name : Text} :
      tree.isDirectory here = true → Entering purpose name [] →
      tree.node? (here ++ [name]) = none →
      Follows tree purpose links here [name] (.free (here ++ [name]))
  | link {links : Nat} {here : Location} {name : Text} {rest : List Text} {target : Path}
      {spot : Spot} : tree.isDirectory here = true → Entering purpose name rest →
      tree.node? (here ++ [name]) = some (.link target) →
      Follows tree purpose links (startOf here target) (namesOf target ++ rest) spot →
      Follows tree purpose (links + 1) here (name :: rest) spot
  | enter {links : Nat} {here : Location} {name : Text} {rest : List Text} {node : Node}
      {spot : Spot} : tree.isDirectory here = true → Entering purpose name rest →
      tree.node? (here ++ [name]) = some node → node.kind ≠ .link →
      Follows tree purpose links (here ++ [name]) rest spot →
      Follows tree purpose links here (name :: rest) spot

theorem follows_of_walkNames {through : Location → List Text → Except Obstacle Spot}
    (throughLinks : ∀ here names, through here names = .ok spot →
      ∃ fewer, links = fewer + 1 ∧ tree.Follows purpose fewer here names spot)
    (found : tree.walkNames purpose through here names = .ok spot) :
    tree.Follows purpose links here names spot := by
  induction names generalizing here with
  | nil =>
    rw [walkNames] at found
    cases found
    exact .done links here
  | cons name rest inductionHypothesis =>
    rw [walkNames] at found
    split at found
    · cases found
    · next inDirectory =>
      rw [Bool.not_eq_true', Bool.not_eq_false] at inDirectory
      split at found
      · next isHere => exact .stay inDirectory isHere (inductionHypothesis found)
      · next notHere =>
        rw [not_or] at notHere
        split at found
        · next isUp =>
          rw [isUp]
          exact .up inDirectory (inductionHypothesis found)
        · next notUp =>
          split at found
          · cases found
          · next notClosed =>
            split at found
            · cases found
            · next short =>
              have entering : Entering purpose name rest :=
                ⟨notHere.1, notHere.2, notUp, Nat.le_of_not_lt short, notClosed⟩
              split at found
              · next nothing =>
                split at found
                · next last =>
                  cases found
                  rw [List.isEmpty_iff] at last
                  subst last
                  exact .free inDirectory entering nothing
                · cases found
              · next target held =>
                obtain ⟨fewer, rfl, follows⟩ := throughLinks _ _ found
                exact .link inDirectory entering held follows
              · next node noLink held =>
                refine .enter inDirectory entering held ?_ (inductionHypothesis found)
                cases node with
                | link target => exact absurd rfl (noLink target)
                | _ => exact Kind.noConfusion

theorem follows_of_walk (found : tree.walk purpose links here names = .ok spot) :
    tree.Follows purpose links here names spot := by
  induction links generalizing here names with
  | zero =>
    refine follows_of_walkNames ?_ found
    intro _ _ impossible
    cases impossible
  | succ links inductionHypothesis =>
    refine follows_of_walkNames ?_ found
    intro here names walked
    exact ⟨links, rfl, inductionHypothesis walked⟩

/-- The names of a link's target are followed by the walk with one link less. -/
theorem walk_eq_walkNames (tree : FileTree) (purpose : Purpose) (links : Nat) :
    ∃ through, tree.walk purpose links = tree.walkNames purpose through ∧
      ∀ fewer, links = fewer + 1 → through = tree.walk purpose fewer := by
  cases links with
  | zero => exact ⟨_, rfl, by omega⟩
  | succ links =>
    refine ⟨_, rfl, ?_⟩
    intro fewer equality
    rw [Nat.succ.inj equality]

theorem walk_of_follows (follows : tree.Follows purpose links here names spot) :
    tree.walk purpose links here names = .ok spot := by
  induction follows with
  | done links here =>
    obtain ⟨through, equality, _⟩ := walk_eq_walkNames tree purpose links
    rw [equality, walkNames]
  | @stay links here name rest spot inDirectory isHere _ inductionHypothesis =>
    obtain ⟨through, equality, _⟩ := walk_eq_walkNames tree purpose links
    rw [equality] at inductionHypothesis ⊢
    rw [walkNames, inDirectory]
    simpa [isHere] using inductionHypothesis
  | @up links here rest spot inDirectory _ inductionHypothesis =>
    obtain ⟨through, equality, _⟩ := walk_eq_walkNames tree purpose links
    rw [equality] at inductionHypothesis ⊢
    rw [walkNames, inDirectory]
    simpa using inductionHypothesis
  | @free links here name inDirectory entering nothing =>
    obtain ⟨through, equality, _⟩ := walk_eq_walkNames tree purpose links
    rw [equality, walkNames, inDirectory, nothing]
    simp [entering.filled, entering.notHere, entering.notUp, entering.short]
  | @link links here name rest target spot inDirectory entering held _ inductionHypothesis =>
    obtain ⟨through, equality, fewer⟩ := walk_eq_walkNames tree purpose (links + 1)
    rw [equality, walkNames, inDirectory, held, fewer links rfl]
    simp only [entering.filled, entering.notHere, entering.notUp, entering.notClosed,
      Nat.not_lt.2 entering.short, or_self, if_false, Bool.not_true, Bool.false_eq_true]
    exact inductionHypothesis
  | @enter links here name rest node spot inDirectory entering held noLink _
      inductionHypothesis =>
    obtain ⟨through, equality, _⟩ := walk_eq_walkNames tree purpose links
    rw [equality] at inductionHypothesis ⊢
    rw [walkNames, inDirectory, held]
    simp only [entering.filled, entering.notHere, entering.notUp, entering.notClosed,
      Nat.not_lt.2 entering.short, or_self, if_false, Bool.not_true, Bool.false_eq_true]
    cases node with
    | link target => exact absurd rfl noLink
    | _ => exact inductionHypothesis

/-- A walk finds a spot exactly if the names lead there. -/
theorem walk_eq_ok_iff : tree.walk purpose links here names = .ok spot ↔
    tree.Follows purpose links here names spot :=
  ⟨follows_of_walk, walk_of_follows⟩

/-- What leads to a place for a file leads there for its use, too. -/
theorem Follows.use (follows : tree.Follows .make links here names spot) :
    tree.Follows .use links here names spot := by
  have entering : ∀ {name rest}, Entering .make name rest → Entering .use name rest :=
    fun made => ⟨made.filled, made.notHere, made.notUp, made.short, nofun⟩
  induction follows with
  | done links here => exact .done links here
  | stay inDirectory isHere _ inductionHypothesis =>
    exact .stay inDirectory isHere inductionHypothesis
  | up inDirectory _ inductionHypothesis => exact .up inDirectory inductionHypothesis
  | free inDirectory made nothing => exact .free inDirectory (entering made) nothing
  | link inDirectory made held _ inductionHypothesis =>
    exact .link inDirectory (entering made) held inductionHypothesis
  | enter inDirectory made held noLink _ inductionHypothesis =>
    exact .enter inDirectory (entering made) held noLink inductionHypothesis

def Spot.location : Spot → Location
  | .taken location => location
  | .free location => location

def Spot.filled (places : List Location) : Spot → Spot
  | .taken location => .taken location
  | .free location => if places.contains location then .taken location else .free location

theorem Spot.filled_of_mem {location : Location} (member : location ∈ places) :
    (Spot.free location).filled places = .taken location := by
  rw [filled, if_pos (List.contains_iff_mem.2 member)]

theorem Spot.filled_of_notMem {location : Location} (outside : location ∉ places) :
    (Spot.free location).filled places = .free location := by
  rw [filled, if_neg (mt List.contains_iff_mem.1 outside)]

theorem Spot.location_filled (places : List Location) (spot : Spot) :
    (spot.filled places).location = spot.location := by
  cases spot with
  | taken location => rfl
  | free location =>
    rw [Spot.filled]
    split <;> rfl

/-- Names lead to the same location after files have been written. -/
theorem Follows.fills (follows : tree.Follows purpose links here names spot)
    (fills : tree.Fills later places) :
    later.Follows purpose links here names (spot.filled places) := by
  induction follows with
  | done links here => exact .done links here
  | stay inDirectory isHere _ inductionHypothesis =>
    exact .stay ((fills.isDirectory _).trans inDirectory) isHere inductionHypothesis
  | up inDirectory _ inductionHypothesis =>
    exact .up ((fills.isDirectory _).trans inDirectory) inductionHypothesis
  | @free links here name inDirectory entering nothing =>
    have inLater := (fills.isDirectory here).trans inDirectory
    by_cases member : here ++ [name] ∈ places
    · obtain ⟨content, held⟩ := fills.filled _ member
      rw [Spot.filled_of_mem member]
      exact .enter inLater entering held nofun (.done links _)
    · rw [Spot.filled_of_notMem member]
      exact .free inLater entering ((fills.outside _ member).trans nothing)
  | @link links here name rest target spot inDirectory entering held _ inductionHypothesis =>
    have outside : here ++ [name] ∉ places := by
      intro member
      exact absurd ((fills.vacant _ member).free _ held) nofun
    exact .link ((fills.isDirectory here).trans inDirectory) entering
      ((fills.outside _ outside).trans held) inductionHypothesis
  | @enter links here name rest node spot inDirectory entering held noLink _
      inductionHypothesis =>
    have inLater := (fills.isDirectory here).trans inDirectory
    by_cases member : here ++ [name] ∈ places
    · obtain ⟨content, written⟩ := fills.filled _ member
      exact .enter inLater entering written nofun inductionHypothesis
    · exact .enter inLater entering ((fills.outside _ member).trans held) noLink
        inductionHypothesis

/-! ## Where paths lead -/

/-- The characters that no name has are not in a list of names that are followed. -/
def Clean (names : List Text) : Prop :=
  ∀ name ∈ names, '/' ∉ name ∧ '\x00' ∉ name

theorem clean_namesOf {path : Path} (noZero : '\x00' ∉ path) : Clean (namesOf path) := by
  intro name member
  refine ⟨Text.separator_notMem_pieces member, ?_⟩
  intro inName
  exact noZero (Text.mem_of_mem_pieces member inName)

/-- A name that leads to an entry is one that an entry can have. -/
theorem isName_of_entering (entering : Entering purpose name rest) (noSlash : '/' ∉ name)
    (noZero : '\x00' ∉ name) : isName name = true := by
  simp [isName, entering.filled, entering.notHere, entering.notUp, entering.short, noSlash,
    noZero]

/-- A spot that was found: something that is no link, or a free place for a file. -/
def Landed (tree : FileTree) : Spot → Prop
  | .taken location => ∃ node, tree.node? location = some node ∧ node.kind ≠ .link
  | .free location => tree.Vacant location ∧ tree.node? location = none

theorem landed_of_isDirectory (inDirectory : tree.isDirectory here = true) :
    tree.Landed (.taken here) :=
  ⟨.directory, isDirectory_iff.1 inDirectory, nofun⟩

/-- Where names lead, no link is left to follow. -/
theorem Follows.landed (follows : tree.Follows purpose links here names spot)
    (clean : Clean names) (start : names = [] → tree.Landed (.taken here)) :
    tree.Landed spot := by
  induction follows with
  | done links here => exact start rfl
  | stay inDirectory _ _ inductionHypothesis =>
    exact inductionHypothesis (List.forall_mem_of_forall_mem_cons clean)
      fun _ => landed_of_isDirectory inDirectory
  | up inDirectory _ inductionHypothesis =>
    exact inductionHypothesis (List.forall_mem_of_forall_mem_cons clean)
      fun _ => landed_of_isDirectory (isDirectory_dropLast (isDirectory_iff.1 inDirectory))
  | @free links here name inDirectory entering nothing =>
    obtain ⟨noSlash, noZero⟩ := clean name List.mem_cons_self
    refine ⟨⟨List.append_ne_nil_of_right_ne_nil _ (by simp), ?_, ?_, ?_⟩, nothing⟩
    · intro other member
      rcases List.mem_append.1 member with above | last
      · exact isName_of_node? (isDirectory_iff.1 inDirectory) other above
      · rw [List.mem_singleton.1 last]
        exact isName_of_entering entering noSlash noZero
    · rw [List.dropLast_concat]
      exact inDirectory
    · intro node held
      rw [nothing] at held
      cases held
  | @link links here name rest target spot inDirectory entering held _ inductionHypothesis =>
    have sound := isSound_of_node? held
    have noZero : '\x00' ∉ target := by simpa [Node.isSound] using sound
    have filled : namesOf target ++ rest ≠ [] :=
      List.append_ne_nil_of_left_ne_nil (Text.pieces_ne_nil '/' target) rest
    refine inductionHypothesis ?_ fun nothing => absurd nothing filled
    intro other member
    rcases List.mem_append.1 member with inTarget | inRest
    · exact clean_namesOf noZero other inTarget
    · exact clean other (List.mem_cons_of_mem _ inRest)
  | enter _ _ held noLink _ inductionHypothesis =>
    exact inductionHypothesis (List.forall_mem_of_forall_mem_cons clean)
      fun _ => ⟨_, held, noLink⟩

end SourceCatalog.FileTree
