import SourceCatalog.Proofs.FileTree.Lookup

/-!
# Paths with one more name

In a tree without links a path with one more name leads from where the path itself leads to the
entry with that name. So what is read, listed or written there depends on this entry alone.
-/

namespace SourceCatalog

/-- A name that stands for an entry of a directory. -/
structure Ordinary (name : Text) : Prop where
  filled : name ≠ []
  noSlash : '/' ∉ name
  notHere : name ≠ ['.']
  notUp : name ≠ ['.', '.']

theorem ordinary_of_isName {name : Text} (named : isName name = true) : Ordinary name := by
  simp only [isName, Bool.and_eq_true, Bool.not_eq_true', bne_iff_ne, ne_eq,
    List.isEmpty_eq_false_iff, List.contains_eq_mem, decide_eq_false_iff_not] at named
  exact ⟨named.1.1.1.1.1, named.1.1.2, named.1.1.1.1.2, named.1.1.1.2⟩

theorem short_of_isName {name : Text} (named : isName name = true) :
    Text.byteLength name ≤ nameLimit := by
  simp only [isName, Bool.and_eq_true, decide_eq_true_eq] at named
  exact named.2

namespace Path

variable {path : Path} {name : Text}

/-- A slash is put in front of the name unless the path ends with one. -/
theorem join_eq (ordinary : Ordinary name) (filled : path ≠ []) :
    path.join name = if path.getLast? = some '/' then path ++ name else path ++ '/' :: name := by
  have relative : isAbsolute name = false := by
    cases name with
    | nil => rfl
    | cons head tail =>
      have different : head ≠ '/' := fun same => ordinary.noSlash (same ▸ List.mem_cons_self)
      simpa [isAbsolute] using different
  simp [join, relative, filled]

theorem isPrefix_join (ordinary : Ordinary name) (filled : path ≠ []) :
    path <+: path.join name := by
  rw [join_eq ordinary filled]
  split
  · exact List.prefix_append path name
  · exact List.prefix_append path ('/' :: name)

theorem join_ne_nil (ordinary : Ordinary name) (filled : path ≠ []) : path.join name ≠ [] := by
  intro empty
  have isPrefix := isPrefix_join ordinary filled
  rw [empty] at isPrefix
  exact filled (List.prefix_nil.1 isPrefix)

theorem isAbsolute_join (ordinary : Ordinary name) (filled : path ≠ []) :
    (path.join name).isAbsolute = path.isAbsolute := by
  obtain ⟨rest, equality⟩ := isPrefix_join ordinary filled
  rw [← equality, isAbsolute, isAbsolute, List.head?_append_of_ne_nil path filled]

end Path

namespace FileTree

variable {tree later : FileTree} {purpose : Purpose} {links : Nat} {here place working : Location}
  {name : Text} {rest names ending more : List Text} {path : Path} {places : List Location}

/-- A longer path starts where the path starts. -/
theorem startOf_join (ordinary : Ordinary name) (filled : path ≠ []) :
    startOf working (path.join name) = startOf working path := by
  rw [startOf, startOf, Path.isAbsolute_join ordinary filled]

/-- The names of a path with one more name: an empty name at the end gives way to it. -/
theorem namesOf_join (ordinary : Ordinary name) (filled : path ≠ []) :
    ∃ names ending, (ending = [] ∨ ending = [[]]) ∧ namesOf path = names ++ ending ∧
      namesOf (path.join name) = names ++ [name] := by
  rw [Path.join_eq ordinary filled]
  split
  · next closed =>
    obtain ⟨front, rfl⟩ := List.getLast?_eq_some_iff.1 closed
    refine ⟨Text.pieces '/' front, [[]], Or.inr rfl, ?_, ?_⟩
    · exact Text.pieces_append_last List.not_mem_nil front
    · rw [List.append_assoc]
      exact Text.pieces_append_last ordinary.noSlash front
  · exact ⟨Text.pieces '/' path, [], Or.inl rfl, (List.append_nil _).symm,
      Text.pieces_append_last ordinary.noSlash path⟩

/-- A path may be too long or hold a zero byte; then so does every longer one. -/
theorem pathObstacle?_of_join (ordinary : Ordinary name) (filled : path ≠ [])
    (noObstacle : pathObstacle? (path.join name) = none) : pathObstacle? path = none := by
  obtain ⟨rest, equality⟩ := Path.isPrefix_join ordinary filled
  rw [← equality, pathObstacle?_eq_none_iff] at noObstacle
  obtain ⟨noZero, _, short⟩ := noObstacle
  refine pathObstacle?_eq_none_iff.2 ⟨?_, filled, ?_⟩
  · intro member
    exact noZero (List.mem_append_left rest member)
  · rw [Text.byteLength_append] at short
    exact Nat.le_trans (Nat.le_add_right _ _) short

/-- A directory in the directory that names lead to is entered through its name. An empty name at
their end is left out. -/
theorem Follows.enter_child
    (follows : tree.Follows .use links here (names ++ ending) (.taken place))
    (atEnd : ending = [] ∨ ending = [[]]) (ordinary : Ordinary name)
    (short : Text.byteLength name ≤ nameLimit) (inDirectory : tree.isDirectory place = true)
    (held : tree.node? (place ++ [name]) = some .directory) :
    tree.Follows .use links here (names ++ [name]) (.taken (place ++ [name])) := by
  have entering : Entering .use name [] :=
    ⟨ordinary.filled, ordinary.notHere, ordinary.notUp, short, nofun⟩
  have entered : ∀ {first rest more}, Entering .use first rest → Entering .use first more :=
    fun known => ⟨known.filled, known.notHere, known.notUp, known.short, nofun⟩
  have atPlace : ∀ links, tree.Follows .use links place [name] (.taken (place ++ [name])) :=
    fun links => .enter inDirectory entering held nofun (.done links _)
  -- Only the last name can be part of the ending, and only if it is empty.
  have atLast : ∀ {first rest}, ending = first :: rest → first = [] ∧ rest = [] := by
    intro first rest same
    rcases atEnd with nothing | empty
    · rw [nothing] at same
      cases same
    · rw [empty] at same
      cases same
      exact ⟨rfl, rfl⟩
  generalize whole : names ++ ending = all at follows
  generalize last : Spot.taken place = spot at follows
  induction follows generalizing names with
  | done links here =>
    cases last
    rw [(List.append_eq_nil_iff.1 whole).1]
    exact atPlace links
  | @stay links here first rest spot hereDirectory isHere follows inductionHypothesis =>
    cases names with
    | nil =>
      obtain ⟨rfl, rfl⟩ := atLast whole
      cases follows
      cases last
      exact atPlace links
    | cons front names =>
      obtain ⟨rfl, behind⟩ := List.cons.inj whole
      exact .stay hereDirectory isHere (inductionHypothesis behind last)
  | @up links here rest spot hereDirectory follows inductionHypothesis =>
    cases names with
    | nil => cases (atLast whole).1
    | cons front names =>
      obtain ⟨rfl, behind⟩ := List.cons.inj whole
      exact .up hereDirectory (inductionHypothesis behind last)
  | free => cases last
  | @link links here first rest target spot hereDirectory known there follows
      inductionHypothesis =>
    cases names with
    | nil => exact absurd (atLast whole).1 known.filled
    | cons front names =>
      obtain ⟨rfl, behind⟩ := List.cons.inj whole
      have through := inductionHypothesis
        ((List.append_assoc _ _ _).trans (congrArg (namesOf target ++ ·) behind)) last
      rw [List.append_assoc] at through
      exact .link hereDirectory (entered known) there through
  | @enter links here first rest node spot hereDirectory known there noLink follows
      inductionHypothesis =>
    cases names with
    | nil => exact absurd (atLast whole).1 known.filled
    | cons front names =>
      obtain ⟨rfl, behind⟩ := List.cons.inj whole
      exact .enter hereDirectory (entered known) there noLink (inductionHypothesis behind last)

/-! ## Trees without links -/

def LinkFree (tree : FileTree) : Prop :=
  ∀ location target, tree.node? location ≠ some (.link target)

theorem linkFree_of_entries (noLink : ∀ entry ∈ tree.entries, entry.2.kind ≠ .link) :
    tree.LinkFree := by
  intro location target held
  by_cases root : location = []
  · rw [node?, if_pos root] at held
    cases held
  · exact noLink _ (mem_of_node? root held) rfl

/-- Writing files makes no links. -/
theorem Fills.linkFree (fills : tree.Fills later places) (linkFree : tree.LinkFree) :
    later.LinkFree := by
  intro location target held
  by_cases member : location ∈ places
  · obtain ⟨content, written⟩ := fills.filled location member
    rw [written] at held
    cases held
  · rw [fills.outside location member] at held
    exact linkFree location target held

/-- Names that lead to a place are followed first. An empty name at their end is left out. -/
theorem walk_append (linkFree : tree.LinkFree) (atEnd : ending = [] ∨ ending = [[]])
    (follows : tree.Follows .use links here (names ++ ending) (.taken place))
    (noEnd : more.all List.isEmpty = false) :
    tree.walk purpose links here (names ++ more) = tree.walk purpose links place more := by
  induction names generalizing here with
  | nil =>
    have same : here = place := by
      rcases atEnd with rfl | rfl
      · cases follows
        rfl
      · cases follows with
        | stay _ _ last =>
          cases last
          rfl
        | enter _ entering _ _ _ => exact absurd rfl entering.filled
        | link _ entering _ _ => exact absurd rfl entering.filled
    rw [same, List.nil_append]
  | cons name rest inductionHypothesis =>
    obtain ⟨through, equality, _⟩ := walk_eq_walkNames tree purpose links
    rw [equality] at inductionHypothesis ⊢
    rw [List.cons_append, walkNames]
    rw [List.cons_append] at follows
    generalize joined : rest ++ ending = behind at follows
    cases follows with
    | stay inDirectory isHere follows =>
      subst joined
      simp only [inDirectory, isHere, Bool.not_true, Bool.false_eq_true, if_false, if_true]
      exact inductionHypothesis follows
    | up inDirectory follows =>
      subst joined
      simpa [inDirectory] using inductionHypothesis follows
    | link _ _ held _ => exact absurd held (linkFree _ _)
    | @enter _ _ _ _ node _ inDirectory entering held noLink follows =>
      subst joined
      have open' : ¬(purpose = .make ∧ rest ++ more ≠ [] ∧
          (rest ++ more).all List.isEmpty = true) := by
        simp [noEnd]
      simp only [inDirectory, entering.filled, entering.notHere, entering.notUp, open', held,
        Nat.not_lt.2 entering.short, or_self, if_false, Bool.not_true, Bool.false_eq_true]
      cases node with
      | link target => exact absurd rfl noLink
      | _ => exact inductionHypothesis follows

def entry (tree : FileTree) (place : Location) (name : Text) : Except Obstacle Spot :=
  if nameLimit < Text.byteLength name then .error .nameTooLong
  else if tree.node? (place ++ [name]) = none then .ok (.free (place ++ [name]))
  else .ok (.taken (place ++ [name]))

/-- Without links, a single name leads to the entry of that name. -/
theorem walk_singleton (linkFree : tree.LinkFree) (ordinary : Ordinary name)
    (inDirectory : tree.isDirectory place = true) :
    tree.walk purpose links place [name] = tree.entry place name := by
  obtain ⟨through, equality, _⟩ := walk_eq_walkNames tree purpose links
  rw [equality, walkNames, entry]
  simp only [inDirectory, ordinary.filled, ordinary.notHere, ordinary.notUp, ne_eq,
    not_true_eq_false, false_and, and_false, or_self, if_false, Bool.not_true, Bool.false_eq_true]
  by_cases long : nameLimit < Text.byteLength name
  · rw [if_pos long, if_pos long]
  · rw [if_neg long, if_neg long]
    cases held : tree.node? (place ++ [name]) with
    | none => simp
    | some node =>
      cases node with
      | link target => exact absurd held (linkFree _ target)
      | directory => simp [walkNames]
      | file content => simp [walkNames]

structure Leads (tree : FileTree) (working : Location) (path : Path) (place : Location) : Prop where
  found : tree.locate .use working path = .ok (.taken place)
  inDirectory : tree.isDirectory place = true

/-- A path whose listing is there leads to a directory. -/
theorem leads_of_list {listing : List (Text × Kind)}
    (listed : tree.list working path = .ok listing) :
    ∃ place, tree.Leads working path place ∧ listing = tree.children place := by
  rw [list] at listed
  split at listed
  · cases listed
  · cases listed
  · next place located =>
    split at listed
    · next inDirectory =>
      cases listed
      exact ⟨place, ⟨located, inDirectory⟩, rfl⟩
    · cases listed

namespace Leads

/-- A directory that a path leads to can be listed. -/
theorem list (leads : tree.Leads working path place) :
    tree.list working path = .ok (tree.children place) := by
  rw [FileTree.list, leads.found]
  simp [leads.inDirectory]

theorem filled (leads : tree.Leads working path place) : path ≠ [] :=
  (pathObstacle?_eq_none_iff.1 (locate_eq_ok_iff.1 leads.found).1).2.1

/-- A path leads where it led, whatever files have been written. -/
theorem fills (leads : tree.Leads working path place) (fills : tree.Fills later places) :
    later.Leads working path place :=
  ⟨fills.locate leads.found, (fills.isDirectory place).trans leads.inDirectory⟩

/-- A path with one more name leads to the entry with that name. -/
theorem locate_join (leads : tree.Leads working path place) (linkFree : tree.LinkFree)
    (ordinary : Ordinary name) (noObstacle : pathObstacle? (path.join name) = none) :
    tree.locate purpose working (path.join name) = tree.entry place name := by
  obtain ⟨names, ending, atEnd, ofPath, ofJoin⟩ := namesOf_join ordinary leads.filled
  have follows := (locate_eq_ok_iff.1 leads.found).2
  rw [ofPath] at follows
  have noEnd : [name].all List.isEmpty = false := by simp [ordinary.filled]
  rw [locate, noObstacle, startOf_join ordinary leads.filled, ofJoin]
  exact (walk_append linkFree atEnd follows noEnd).trans
    (walk_singleton linkFree ordinary leads.inDirectory)

/-- A directory in a directory is found behind the path of that one, whatever links lead there. -/
theorem join (leads : tree.Leads working path place) (child : name ∈ tree.subdirectories place)
    (noObstacle : pathObstacle? (path.join name) = none) :
    tree.Leads working (path.join name) (place ++ [name]) := by
  have inDirectory := mem_subdirectories_iff.1 child
  have held := isDirectory_iff.1 inDirectory
  have named := isName_of_node? held name (List.mem_append_right place List.mem_cons_self)
  have ordinary := ordinary_of_isName named
  obtain ⟨names, ending, atEnd, ofPath, ofJoin⟩ := namesOf_join ordinary leads.filled
  have follows := (locate_eq_ok_iff.1 leads.found).2
  rw [ofPath] at follows
  refine ⟨locate_eq_ok_iff.2 ⟨noObstacle, ?_⟩, inDirectory⟩
  rw [startOf_join ordinary leads.filled, ofJoin]
  exact follows.enter_child atEnd ordinary (short_of_isName named) leads.inDirectory held

end Leads

def fileAt? (tree : FileTree) (location : Location) : Option (List UInt8) :=
  match tree.node? location with
  | some (.file content) => some content
  | _ => none

variable {obstacle : Obstacle} {location : Location}

theorem locate_of_obstacle (wrong : pathObstacle? path = some obstacle) :
    tree.locate purpose working path = .error obstacle := by
  rw [locate, wrong]

theorem read_of_obstacle (wrong : pathObstacle? path = some obstacle) :
    tree.read working path = .error obstacle := by
  rw [read, locate_of_obstacle wrong]

theorem list_of_obstacle (wrong : pathObstacle? path = some obstacle) :
    tree.list working path = .error obstacle := by
  rw [list, locate_of_obstacle wrong]

theorem target_of_obstacle (wrong : pathObstacle? path = some obstacle) :
    tree.target working path = .error obstacle := by
  rw [target, locate_of_obstacle wrong]

theorem noObstacle_of_target (found : tree.target working path = .ok location) :
    pathObstacle? path = none := by
  cases wrong : pathObstacle? path with
  | none => rfl
  | some obstacle =>
    rw [target_of_obstacle wrong] at found
    cases found

/-- Only the empty path is refused as missing. -/
theorem pathObstacle?_ne_notFound (filled : path ≠ []) : pathObstacle? path ≠ some .notFound := by
  rw [pathObstacle?]
  have notEmpty : ¬ path.isEmpty = true := fun empty => filled (List.isEmpty_iff.1 empty)
  by_cases zero : path.contains '\x00' = true
  · rw [if_pos zero]
    decide
  · rw [if_neg zero, if_neg notEmpty]
    by_cases long : pathLimit < Text.byteLength path
    · rw [if_pos long]
      decide
    · rw [if_neg long]
      decide

namespace Leads

/-- Reading a file of a directory goes by the directory and the name alone. -/
theorem read_join (leads : tree.Leads working path place) (linkFree : tree.LinkFree)
    (ordinary : Ordinary name) (noObstacle : pathObstacle? (path.join name) = none) :
    tree.read working (path.join name) =
      if nameLimit < Text.byteLength name then .error .nameTooLong
      else
        match tree.node? (place ++ [name]) with
        | some (.file content) => .ok content
        | some _ => .error .isDirectory
        | none => .error .notFound := by
  rw [read, leads.locate_join linkFree ordinary noObstacle, entry]
  by_cases long : nameLimit < Text.byteLength name
  · rw [if_pos long, if_pos long]
  · rw [if_neg long, if_neg long]
    cases held : tree.node? (place ++ [name]) with
    | none => rfl
    | some node =>
      rw [if_neg (Option.some_ne_none node)]
      dsimp only
      cases node <;> simp [held]

theorem target_join (leads : tree.Leads working path place) (linkFree : tree.LinkFree)
    (ordinary : Ordinary name) (noObstacle : pathObstacle? (path.join name) = none) :
    tree.target working (path.join name) =
      if nameLimit < Text.byteLength name then .error .nameTooLong
      else if tree.isDirectory (place ++ [name]) then .error .isDirectory
      else .ok (place ++ [name]) := by
  rw [target, leads.locate_join linkFree ordinary noObstacle, entry]
  by_cases long : nameLimit < Text.byteLength name
  · rw [if_pos long, if_pos long]
  · rw [if_neg long, if_neg long]
    by_cases free : tree.node? (place ++ [name]) = none
    · rw [if_pos free, isDirectory, free]
      rfl
    · rw [if_neg free]

theorem fileAt?_of_read {content : List UInt8} (leads : tree.Leads working path place)
    (linkFree : tree.LinkFree) (ordinary : Ordinary name)
    (found : tree.read working (path.join name) = .ok content) :
    tree.fileAt? (place ++ [name]) = some content := by
  cases wrong : pathObstacle? (path.join name) with
  | some obstacle =>
    rw [read_of_obstacle wrong] at found
    cases found
  | none =>
    rw [leads.read_join linkFree ordinary wrong] at found
    rw [fileAt?]
    split at found
    · cases found
    · split at found
      · next held =>
        cases found
        rw [held]
      · cases found
      · cases found

/-- A missing file is not in the tree either. -/
theorem fileAt?_of_notFound (leads : tree.Leads working path place)
    (linkFree : tree.LinkFree) (ordinary : Ordinary name)
    (missing : tree.read working (path.join name) = .error .notFound) :
    tree.fileAt? (place ++ [name]) = none := by
  cases wrong : pathObstacle? (path.join name) with
  | some obstacle =>
    rw [read_of_obstacle wrong] at missing
    cases missing
    exact absurd wrong (pathObstacle?_ne_notFound (Path.join_ne_nil ordinary leads.filled))
  | none =>
    rw [leads.read_join linkFree ordinary wrong] at missing
    rw [fileAt?]
    split at missing
    · cases missing
    · split at missing
      · cases missing
      · cases missing
      · next nothing => rw [nothing]

theorem location_of_target (leads : tree.Leads working path place)
    (linkFree : tree.LinkFree) (ordinary : Ordinary name)
    (found : tree.target working (path.join name) = .ok location) :
    location = place ++ [name] := by
  cases wrong : pathObstacle? (path.join name) with
  | some obstacle =>
    rw [target_of_obstacle wrong] at found
    cases found
  | none =>
    rw [leads.target_join linkFree ordinary wrong] at found
    split at found
    · cases found
    · split at found
      · cases found
      · cases found
        rfl

/-- A file that has not been written to is read as before. -/
theorem read_fills (leads : tree.Leads working path place) (linkFree : tree.LinkFree)
    (fills : tree.Fills later places) (ordinary : Ordinary name)
    (apart : place ++ [name] ∉ places) :
    later.read working (path.join name) = tree.read working (path.join name) := by
  cases wrong : pathObstacle? (path.join name) with
  | some obstacle => rw [read_of_obstacle wrong, read_of_obstacle wrong]
  | none =>
    rw [leads.read_join linkFree ordinary wrong,
      (leads.fills fills).read_join (fills.linkFree linkFree) ordinary wrong,
      fills.outside _ apart]

theorem target_fills (leads : tree.Leads working path place) (linkFree : tree.LinkFree)
    (fills : tree.Fills later places) (ordinary : Ordinary name) :
    later.target working (path.join name) = tree.target working (path.join name) := by
  cases wrong : pathObstacle? (path.join name) with
  | some obstacle => rw [target_of_obstacle wrong, target_of_obstacle wrong]
  | none =>
    rw [leads.target_join linkFree ordinary wrong,
      (leads.fills fills).target_join (fills.linkFree linkFree) ordinary wrong,
      fills.isDirectory]

end Leads

end FileTree

end SourceCatalog
