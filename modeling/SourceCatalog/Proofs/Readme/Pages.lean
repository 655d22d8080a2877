import SourceCatalog.Proofs.Readme.Entries
import SourceCatalog.Readme.Generation

/-!
# Pages one after the other

The step of one directory either fails and leaves the tree as it was, or puts one page in place.
As no page matters for what a later step finds, the steps of several directories find all that
they need in the tree as it was before the first one.
-/

namespace SourceCatalog.Readme

variable {tree later : FileTree} {working : Location} {places : List Location}
  {settings : Settings} {descriptions : Descriptions}

/-- What the step of one directory finds: the entries, and the place for the page. -/
def finds (settings : Settings) (tree : FileTree) (working : Location)
    (directory : Subdirectory) : Except Fault (List Entry × Location) :=
  let path := directory.path.join settings.readmeName
  (entriesOf directory.path settings.readmeName tree working).bind fun entries =>
    ((tree.target working path).mapError (.access path)).map fun location => (entries, location)

theorem of_finds_eq_ok {directory : Subdirectory} {entries : List Entry} {location : Location}
    (found : finds settings tree working directory = .ok (entries, location)) :
    entriesOf directory.path settings.readmeName tree working = .ok entries ∧
      tree.target working (directory.path.join settings.readmeName) = .ok location := by
  rw [finds] at found
  generalize entriesOf directory.path settings.readmeName tree working = collected at found
  generalize tree.target working (directory.path.join settings.readmeName) = place at found
  cases collected with
  | error fault => cases found
  | ok entries =>
    cases place with
    | error obstacle => cases found
    | ok location =>
      cases found
      exact ⟨rfl, rfl⟩

def pageText (settings : Settings) (descriptions : Descriptions) (directory : Subdirectory)
    (entries : List Entry) : Text :=
  compose directory.name (descriptions.resolve directory.name) entries settings.repositoryUrl

def report (settings : Settings) (directory : Subdirectory) (entries : List Entry) : Written :=
  ⟨directory.name, directory.path.join settings.readmeName, entries⟩

/-- Either the step of a directory finds a fault and changes nothing, or it puts one page in the
place that it finds. -/
theorem after_generateOne (run : TreeRun) (settings : Settings) (descriptions : Descriptions)
    (directory : Subdirectory) :
    (∃ fault later, finds settings run.tree run.working directory = .error fault ∧
      run.after (generateOne settings descriptions directory) = (.error fault, later) ∧
      run.Still later) ∨
    ∃ entries location later,
      finds settings run.tree run.working directory = .ok (entries, location) ∧
      run.after (generateOne settings descriptions directory) =
        (.ok (report settings directory entries), later) ∧
      later.tree = run.tree.put location
        (.file (Text.encode (pageText settings descriptions directory entries))) ∧
      later.working = run.working ∧ later.progress = run.progress := by
  obtain ⟨middle, still, ends⟩ :=
    (looks_collect [runSpan settings] directory.path settings.readmeName).after_bind run
      fun entries => do
        let path ← writePage [runSpan settings] directory.path settings.readmeName
          (pageText settings descriptions directory entries)
        return (⟨directory.name, path, entries⟩ : Written)
  rw [generateOne, finds]
  dsimp only
  unfold pageText at ends
  rw [ends]
  cases entriesOf directory.path settings.readmeName run.tree run.working with
  | error fault => exact Or.inl ⟨fault, middle, rfl, rfl, still⟩
  | ok entries =>
    dsimp only
    rw [writePage, TreeRun.after_bind, TreeRun.after_bind, TreeRun.after_writeText, still.tree,
      still.working]
    cases run.tree.target run.working (directory.path.join settings.readmeName) with
    | error obstacle => exact Or.inl ⟨_, middle, rfl, rfl, still⟩
    | ok location =>
      exact Or.inr ⟨entries, location, _, rfl, rfl, rfl, rfl, still.progress⟩

/-- The first of several steps is announced. Either it finds a fault, which ends them all, or it
puts one page in place before the others. -/
theorem after_generateFrom_cons (run : TreeRun) (settings : Settings)
    (descriptions : Descriptions) (total position : Nat) (directory : Subdirectory)
    (others : List Subdirectory) :
    (∃ fault later, finds settings run.tree run.working directory = .error fault ∧
      run.after (generateFrom settings descriptions total position (directory :: others)) =
        (.error fault, later) ∧
      later.tree = run.tree ∧ later.working = run.working ∧
      later.progress = run.progress ++ [.started directory.name position total]) ∨
    ∃ (entries : List Entry) (location : Location) (middle : TreeRun),
      finds settings run.tree run.working directory = .ok (entries, location) ∧
      middle.tree = run.tree.put location
        (.file (Text.encode (pageText settings descriptions directory entries))) ∧
      middle.working = run.working ∧
      middle.progress = run.progress ++ [.started directory.name position total] ∧
      run.after (generateFrom settings descriptions total position (directory :: others)) =
        match middle.after (generateFrom settings descriptions total (position + 1) others) with
        | (.ok written, last) => (.ok (report settings directory entries :: written), last)
        | (.error fault, last) => (.error fault, last) := by
  let announced : TreeRun :=
    { run with
      progress := run.progress ++ [.started directory.name position total]
      events := run.events ++
        [runEvent settings "generating readme" [.plain "name" directory.name]] }
  have begins : run.after (generateFrom settings descriptions total position
      (directory :: others)) =
      announced.after (do
        let written ← generateOne settings descriptions directory
        let later ← generateFrom settings descriptions total (position + 1) others
        return written :: later) := rfl
  rw [begins, TreeRun.after_bind]
  rcases after_generateOne announced settings descriptions directory with
    ⟨fault, later, found, ends, still⟩ |
      ⟨entries, location, middle, found, ends, tree_eq, working_eq, progress_eq⟩
  · rw [ends]
    exact Or.inl ⟨fault, later, found, rfl, still.tree, still.working, still.progress⟩
  · rw [ends]
    dsimp only
    rw [TreeRun.after_bind]
    refine Or.inr ⟨entries, location, middle, found, tree_eq, working_eq, progress_eq, ?_⟩
    obtain ⟨result, last⟩ :=
      middle.after (generateFrom settings descriptions total (position + 1) others)
    cases result <;> rfl

def pages (settings : Settings) (descriptions : Descriptions) (tree : FileTree)
    (working : Location) : List Subdirectory → List (Location × List UInt8)
  | [] => []
  | directory :: others =>
    match finds settings tree working directory with
    | .error _ => []
    | .ok (entries, location) =>
      (location, Text.encode (pageText settings descriptions directory entries)) ::
        pages settings descriptions tree working others

/-- Pages are written where files can be. -/
theorem vacant_of_mem_pages {directories : List Subdirectory} {page : Location × List UInt8}
    (member : page ∈ pages settings descriptions tree working directories) :
    tree.Vacant page.1 := by
  induction directories with
  | nil => cases member
  | cons directory others inductionHypothesis =>
    rw [pages] at member
    split at member
    · cases member
    · next entries location found =>
      rcases List.mem_cons.1 member with rfl | later
      · exact FileTree.vacant_of_target (of_finds_eq_ok found).2
      · exact inductionHypothesis later

def reports (settings : Settings) (tree : FileTree) (working : Location)
    (directories : List Subdirectory) : Except Fault (List Written) :=
  directories.mapM fun directory =>
    (finds settings tree working directory).map fun (entries, _) =>
      report settings directory entries

/-- What is announced of some directories, up to the first one with a fault. -/
def announcements (settings : Settings) (tree : FileTree) (working : Location) (total : Nat) :
    Nat → List Subdirectory → List Progress
  | _, [] => []
  | position, directory :: others =>
    .started directory.name position total ::
      match finds settings tree working directory with
      | .error _ => []
      | .ok _ => announcements settings tree working total (position + 1) others

/-- What the steps of some directories find is not changed by files in some places, and these
are where they put their pages. -/
structure Steady (settings : Settings) (tree : FileTree) (working : Location)
    (places : List Location) (directories : List Subdirectory) : Prop where
  same : ∀ directory ∈ directories, ∀ later filled, tree.Fills later filled →
    filled ⊆ places →
      finds settings later working directory = finds settings tree working directory
  inside : ∀ directory ∈ directories, ∀ entries location,
    finds settings tree working directory = .ok (entries, location) → location ∈ places

theorem Steady.tail {directory : Subdirectory} {others : List Subdirectory}
    (steady : Steady settings tree working places (directory :: others)) :
    Steady settings tree working places others where
  same := fun other member => steady.same other (List.mem_cons_of_mem _ member)
  inside := fun other member => steady.inside other (List.mem_cons_of_mem _ member)

/-- The reports in a later tree are those in the earlier one. -/
theorem Steady.reports_eq {directories : List Subdirectory} {filled : List Location}
    (steady : Steady settings tree working places directories)
    (fills : tree.Fills later filled) (inside : filled ⊆ places) :
    reports settings later working directories = reports settings tree working directories := by
  apply mapM_congr
  intro directory member
  rw [steady.same directory member later filled fills inside]

/-- The pages in a later tree are those in the earlier one. -/
theorem Steady.pages_eq {directories : List Subdirectory} {filled : List Location}
    (steady : Steady settings tree working places directories)
    (fills : tree.Fills later filled) (inside : filled ⊆ places) :
    pages settings descriptions later working directories =
      pages settings descriptions tree working directories := by
  induction directories with
  | nil => rfl
  | cons directory others inductionHypothesis =>
    rw [pages, pages, steady.same directory List.mem_cons_self later filled fills inside,
      inductionHypothesis steady.tail]

/-- The steps of several directories report, write and announce what the tree before the first
of them determines. -/
theorem after_generateFrom {directories : List Subdirectory} {run : TreeRun}
    {filled : List Location} (descriptions : Descriptions) (total position : Nat)
    (steady : Steady settings tree working places directories)
    (fills : tree.Fills run.tree filled) (inside : filled ⊆ places)
    (sameWorking : run.working = working) :
    ∃ later, run.after (generateFrom settings descriptions total position directories) =
        (reports settings tree working directories, later) ∧
      later.tree = run.tree.putFiles (pages settings descriptions tree working directories) ∧
      later.working = working ∧
      later.progress = run.progress ++
        announcements settings tree working total position directories := by
  induction directories generalizing run filled position with
  | nil => exact ⟨run, rfl, rfl, sameWorking, (List.append_nil _).symm⟩
  | cons directory others inductionHypothesis =>
    have same := steady.same directory List.mem_cons_self run.tree filled fills inside
    rw [pages, announcements, reports]
    rcases after_generateFrom_cons run settings descriptions total position directory others with
      ⟨fault, later, found, ends, laterTree, laterWorking, laterProgress⟩ |
        ⟨entries, location, middle, found, middleTree, middleWorking, middleProgress, ends⟩
    · have foundBefore : finds settings tree working directory = .error fault := by
        rw [← same, ← sameWorking]
        exact found
      rw [ends, foundBefore, List.mapM_cons, foundBefore]
      exact ⟨later, rfl, laterTree, laterWorking.trans sameWorking, laterProgress⟩
    · have foundBefore : finds settings tree working directory = .ok (entries, location) := by
        rw [← same, ← sameWorking]
        exact found
      have vacant := fills.vacant_iff.1 (FileTree.vacant_of_target (of_finds_eq_ok found).2)
      have fillsMiddle : tree.Fills middle.tree (location :: filled) := by
        rw [middleTree]
        exact fills.put vacant _
      have insideMiddle : location :: filled ⊆ places :=
        List.cons_subset.2
          ⟨steady.inside directory List.mem_cons_self entries location foundBefore, inside⟩
      obtain ⟨last, endsLast, lastTree, lastWorking, lastProgress⟩ :=
        inductionHypothesis (position + 1) steady.tail fillsMiddle insideMiddle
          (middleWorking.trans sameWorking)
      have tree_eq : last.tree = run.tree.putFiles
          ((location, Text.encode (pageText settings descriptions directory entries)) ::
            pages settings descriptions tree working others) := by
        rw [lastTree, middleTree]
        rfl
      have progress_eq : last.progress = run.progress ++
          .started directory.name position total ::
            announcements settings tree working total (position + 1) others := by
        rw [lastProgress, middleProgress]
        exact List.append_assoc _ _ _
      rw [ends, endsLast, foundBefore, List.mapM_cons, foundBefore, reports]
      cases others.mapM fun directory =>
          (finds settings tree working directory).map fun (entries, _) =>
            report settings directory entries with
      | error fault => exact ⟨last, rfl, tree_eq, lastWorking, progress_eq⟩
      | ok written => exact ⟨last, rfl, tree_eq, lastWorking, progress_eq⟩

end SourceCatalog.Readme
