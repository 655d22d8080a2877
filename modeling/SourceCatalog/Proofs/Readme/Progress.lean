import SourceCatalog.Proofs.Readme.Generating

/-!
# How far a run comes

A run takes up the directories of the source directory in the order of the listing, and announces
each of them before anything else is done with it. The first directory with a fault ends the run:
the readmes of the directories before it stay, and nothing else has been changed. Only a run
without a fault announces its end.
-/

namespace SourceCatalog.Readme

open FileTree (LinkFree Leads)

variable {tree : FileTree} {working source : Location} {settings : Settings}
  {descriptions : Descriptions} {run : TreeRun}

def Succeeds (settings : Settings) (tree : FileTree) (working : Location)
    (directory : Subdirectory) : Prop :=
  ∃ entries location, finds settings tree working directory = .ok (entries, location)

/-- The announcements of directories that are taken up in turn, the first one at some position. -/
def startsFrom (position total : Nat) (directories : List Subdirectory) : List Progress :=
  directories.mapIdx fun index directory => .started directory.name (position + index) total

theorem startsFrom_cons (position total : Nat) (directory : Subdirectory)
    (others : List Subdirectory) :
    startsFrom position total (directory :: others) =
      .started directory.name position total :: startsFrom (position + 1) total others := by
  have shifted : ∀ index, position + 1 + index = position + (index + 1) := by
    intro index
    omega
  rw [startsFrom, startsFrom, List.mapIdx_cons]
  simp only [shifted, Nat.add_zero]

theorem startsFrom_concat (position total : Nat) (directories : List Subdirectory)
    (last : Subdirectory) :
    startsFrom position total (directories ++ [last]) =
      startsFrom position total directories ++
        [.started last.name (position + directories.length) total] := by
  rw [startsFrom, List.mapIdx_concat]
  rfl

section Directories

variable {before : List Subdirectory}
  (succeed : ∀ directory ∈ before, Succeeds settings tree working directory)

include succeed

theorem exists_reports :
    ∃ written, reports settings tree working before = .ok written ∧
      written.length = before.length := by
  induction before with
  | nil => exact ⟨[], rfl, rfl⟩
  | cons directory others inductionHypothesis =>
    obtain ⟨entries, location, found⟩ := succeed directory List.mem_cons_self
    obtain ⟨more, reported, sameLength⟩ := inductionHypothesis fun other member =>
      succeed other (List.mem_cons_of_mem directory member)
    refine ⟨report settings directory entries :: more, ?_, ?_⟩
    · refine mapM_cons_eq_ok_iff.2 ⟨_, more, ?_, reported, rfl⟩
      rw [found]
      rfl
    · rw [List.length_cons, List.length_cons, sameLength]

theorem pages_append (descriptions : Descriptions) (rest : List Subdirectory) :
    pages settings descriptions tree working (before ++ rest) =
      pages settings descriptions tree working before ++
        pages settings descriptions tree working rest := by
  induction before with
  | nil => rfl
  | cons directory others inductionHypothesis =>
    obtain ⟨entries, location, found⟩ := succeed directory List.mem_cons_self
    have later := inductionHypothesis fun other member =>
      succeed other (List.mem_cons_of_mem directory member)
    rw [List.cons_append, pages, pages, found]
    dsimp only
    rw [later, List.cons_append]

theorem announcements_append (total position : Nat) (rest : List Subdirectory) :
    announcements settings tree working total position (before ++ rest) =
      startsFrom position total before ++
        announcements settings tree working total (position + before.length) rest := by
  induction before generalizing position with
  | nil => rfl
  | cons directory others inductionHypothesis =>
    obtain ⟨entries, location, found⟩ := succeed directory List.mem_cons_self
    have later := inductionHypothesis
      (fun other member => succeed other (List.mem_cons_of_mem directory member)) (position + 1)
    have places : position + 1 + others.length = position + (directory :: others).length := by
      rw [List.length_cons]
      omega
    rw [List.cons_append, announcements, found, startsFrom_cons, List.cons_append]
    dsimp only
    rw [later, places]

end Directories

section Fault

variable {before : List Subdirectory} {failing : Subdirectory} {fault : Fault}
  (succeed : ∀ directory ∈ before, Succeeds settings tree working directory)
  (failed : finds settings tree working failing = .error fault) (after : List Subdirectory)

include succeed failed

/-- The first directory with a fault ends the run with that fault. -/
theorem reports_of_fault :
    reports settings tree working (before ++ failing :: after) = .error fault := by
  obtain ⟨written, reported, _⟩ := exists_reports succeed
  rw [reports] at reported ⊢
  rw [List.mapM_append, reported, List.mapM_cons, failed]
  rfl

/-- The pages before it are written, and no others. -/
theorem pages_of_fault (descriptions : Descriptions) :
    pages settings descriptions tree working (before ++ failing :: after) =
      pages settings descriptions tree working before := by
  rw [pages_append succeed, pages, failed]
  exact List.append_nil _

/-- The directory with the fault has been announced, too. -/
theorem announcements_of_fault (total position : Nat) :
    announcements settings tree working total position (before ++ failing :: after) =
      startsFrom position total (before ++ [failing]) := by
  rw [announcements_append succeed, announcements, failed, startsFrom_concat]

end Fault

/-- A later tree holds the readmes of some directories, and is otherwise as it was before. -/
structure Leaves (settings : Settings) (descriptions : Descriptions) (source : Location)
    (directories : List Subdirectory) (tree later : FileTree) : Prop where
  written : ∀ directory ∈ directories,
    later.node? (source ++ [directory.name, settings.readmeName]) =
      some (.file (Text.encode (compose directory.name (descriptions.resolve directory.name)
        (entriesBelow tree settings.readmeName (source ++ [directory.name]))
        settings.repositoryUrl)))
  unchanged : ∀ location,
    (∀ directory ∈ directories, location ≠ source ++ [directory.name, settings.readmeName]) →
      later.node? location = tree.node? location

section Pages

variable {directories : List Subdirectory}
  (leads : tree.Leads working settings.sourcePath source) (linkFree : tree.LinkFree)
  (ordinary : Ordinary settings.readmeName)
  (part : directories.Sublist (directoriesOf settings tree source))
  (succeed : ∀ directory ∈ directories, Succeeds settings tree working directory)

include leads linkFree ordinary part succeed

theorem pages_of_succeed (descriptions : Descriptions) :
    pages settings descriptions tree working directories =
      directories.map fun directory =>
        pageBelow settings descriptions tree source directory.name := by
  induction directories with
  | nil => rfl
  | cons directory others inductionHypothesis =>
    obtain ⟨entries, location, found⟩ := succeed directory List.mem_cons_self
    obtain ⟨name, child, rfl⟩ := List.mem_map.1 (part.subset List.mem_cons_self)
    obtain ⟨rfl, rfl⟩ := eq_of_finds leads linkFree ordinary child found
    have later := inductionHypothesis ((List.sublist_cons_self _ others).trans part)
      fun other member => succeed other (List.mem_cons_of_mem _ member)
    rw [pages, found, List.map_cons, ← later]
    rfl

theorem leaves_putFiles_pages (descriptions : Descriptions) :
    Leaves settings descriptions source directories tree
      (tree.putFiles (pages settings descriptions tree working directories)) := by
  have pagesEq := pages_of_succeed leads linkFree ordinary part succeed descriptions
  have places : (pages settings descriptions tree working directories).map Prod.fst =
      directories.map fun directory => readmePlace settings source directory.name := by
    rw [pagesEq, List.map_map]
    rfl
  have distinct : ((pages settings descriptions tree working directories).map
      Prod.fst).Nodup := by
    have names : (directories.map fun directory =>
        readmePlace settings source directory.name).Sublist
          (readmePlaces settings tree source) := by
      have mapped := part.map fun directory => readmePlace settings source directory.name
      rwa [directoriesOf, List.map_map] at mapped
    rw [places]
    exact (nodup_readmePlaces settings tree source).sublist names
  constructor
  · intro directory member
    have page : pageBelow settings descriptions tree source directory.name ∈
        pages settings descriptions tree working directories := by
      rw [pagesEq]
      exact List.mem_map_of_mem member
    exact FileTree.node?_putFiles_of_mem distinct (fun _ => vacant_of_mem_pages) page
  · intro location apart
    apply FileTree.node?_putFiles_of_notMem
    rw [places]
    intro member
    obtain ⟨directory, inside, same⟩ := List.mem_map.1 member
    exact apart directory inside same.symm

end Pages

/-! ## Whole runs -/

/-- With the descriptions and the source directory at hand, a run reports, writes and announces
what the tree determines. -/
theorem after_generate_of_leads (linkFree : run.tree.LinkFree)
    (ordinary : Ordinary settings.readmeName)
    (loaded : Descriptions.loadFrom settings.descriptionsPath
      (run.tree.read run.working settings.descriptionsPath) = .ok descriptions)
    (leads : run.tree.Leads run.working settings.sourcePath source) :
    ∃ later, run.after (generate settings) =
        (reports settings run.tree run.working (directoriesOf settings run.tree source), later) ∧
      later.tree = run.tree.putFiles (pages settings descriptions run.tree run.working
        (directoriesOf settings run.tree source)) ∧
      later.progress = run.progress ++
        announcements settings run.tree run.working
          (directoriesOf settings run.tree source).length 1
          (directoriesOf settings run.tree source) ++
        lastAnnouncement (reports settings run.tree run.working
          (directoriesOf settings run.tree source)) := by
  rcases after_generate_cases run settings with
    ⟨_, _, _, _, absent⟩ | ⟨found, place, started, loadedFound, leadsFound, ends, still⟩
  · exact absurd leads (absent descriptions source loaded)
  · cases loadedFound.symm.trans loaded
    cases leadsFound.found.symm.trans leads.found
    have steady := steady_directoriesOf leads linkFree ordinary
    rw [← still.tree, ← still.working] at steady
    obtain ⟨later, endsLater, laterTree, _, laterProgress⟩ :=
      after_generateAll descriptions steady
    rw [still.tree, still.working] at endsLater laterTree laterProgress
    rw [still.progress] at laterProgress
    exact ⟨later, ends.trans endsLater, laterTree, laterProgress⟩

/-- Without the descriptions or the source directory a run changes nothing. -/
theorem after_generate_of_missing
    (missing : (∃ fault, Descriptions.loadFrom settings.descriptionsPath
        (run.tree.read run.working settings.descriptionsPath) = .error fault) ∨
      ∃ obstacle, run.tree.list run.working settings.sourcePath = .error obstacle) :
    ∃ fault later, run.after (generate settings) = (.error fault, later) ∧
      run.Still later := by
  rcases after_generate_cases run settings with
    ⟨fault, later, ends, still, _⟩ | ⟨descriptions, source, _, loaded, leads, _, _⟩
  · exact ⟨fault, later, ends, still⟩
  · rcases missing with ⟨fault, failed⟩ | ⟨obstacle, failed⟩
    · cases loaded.symm.trans failed
    · cases leads.list.symm.trans failed

section Reached

variable {before after : List Subdirectory} {failing : Subdirectory} {fault : Fault}
  (linkFree : run.tree.LinkFree) (ordinary : Ordinary settings.readmeName)
  (loaded : Descriptions.loadFrom settings.descriptionsPath
    (run.tree.read run.working settings.descriptionsPath) = .ok descriptions)
  (leads : run.tree.Leads run.working settings.sourcePath source)

include linkFree ordinary loaded leads

/-- A run that is stopped leaves the readmes of the directories before. -/
theorem after_generate_of_fault
    (split : directoriesOf settings run.tree source = before ++ failing :: after)
    (succeed : ∀ directory ∈ before, Succeeds settings run.tree run.working directory)
    (failed : finds settings run.tree run.working failing = .error fault) :
    ∃ later, run.after (generate settings) = (.error fault, later) ∧
      later.progress = run.progress ++
        startsFrom 1 (directoriesOf settings run.tree source).length (before ++ [failing]) ∧
      Leaves settings descriptions source before run.tree later.tree := by
  obtain ⟨later, ends, laterTree, laterProgress⟩ :=
    after_generate_of_leads linkFree ordinary loaded leads
  have part : before.Sublist (directoriesOf settings run.tree source) := by
    rw [split]
    exact List.sublist_append_left before (failing :: after)
  have leaves := leaves_putFiles_pages leads linkFree ordinary part succeed descriptions
  -- The number that is announced stays that of the whole listing.
  generalize (directoriesOf settings run.tree source).length = total at laterProgress ⊢
  rw [split] at ends laterTree laterProgress
  rw [reports_of_fault succeed failed after] at ends laterProgress
  rw [announcements_of_fault succeed failed after] at laterProgress
  rw [pages_of_fault succeed failed after] at laterTree
  refine ⟨later, ends, ?_, ?_⟩
  · rw [laterProgress]
    exact List.append_nil _
  · rw [laterTree]
    exact leaves

theorem after_generate_of_succeed
    (succeed : ∀ directory ∈ directoriesOf settings run.tree source,
      Succeeds settings run.tree run.working directory) :
    ∃ written later, run.after (generate settings) = (.ok written, later) ∧
      written.length = (directoriesOf settings run.tree source).length ∧
      later.progress = run.progress ++
        startsFrom 1 (directoriesOf settings run.tree source).length
          (directoriesOf settings run.tree source) ++ [.finished written] ∧
      Leaves settings descriptions source (directoriesOf settings run.tree source) run.tree
        later.tree := by
  obtain ⟨later, ends, laterTree, laterProgress⟩ :=
    after_generate_of_leads linkFree ordinary loaded leads
  obtain ⟨written, reported, sameLength⟩ := exists_reports succeed
  have announced := announcements_append succeed
    (directoriesOf settings run.tree source).length 1 []
  rw [List.append_nil, announcements, List.append_nil] at announced
  rw [reported] at ends laterProgress
  refine ⟨written, later, ends, sameLength, ?_, ?_⟩
  · rw [laterProgress, announced]
    rfl
  · rw [laterTree]
    exact leaves_putFiles_pages leads linkFree ordinary (List.Sublist.refl _) succeed
      descriptions

end Reached

/-- Without the descriptions or the source directory a run leaves everything as it was. Otherwise
it announces the directories in turn; at the first one with a fault it ends, with the readmes of
those before it in place, and if there is none it announces its end. -/
theorem generate_leaves {settings : Settings} {run : TreeRun} (linkFree : run.tree.LinkFree)
    (ordinary : Ordinary settings.readmeName) :
    ∃ outcome later, run.after (generate settings) = (outcome, later) ∧
      (((∃ fault, (run.after (Descriptions.load [runSpan settings]
            settings.descriptionsPath)).1 = .error fault) ∨
          ∃ obstacle, run.tree.list run.working settings.sourcePath = .error obstacle) →
        (∃ fault, outcome = .error fault) ∧ later.tree = run.tree ∧
          later.progress = run.progress) ∧
      ∀ descriptions source,
        (run.after (Descriptions.load [runSpan settings] settings.descriptionsPath)).1 =
          .ok descriptions →
        run.tree.Leads run.working settings.sourcePath source →
        let directories := directoriesOf settings run.tree source
        (∀ before failing after fault, directories = before ++ failing :: after →
          (∀ directory ∈ before, Succeeds settings run.tree run.working directory) →
          finds settings run.tree run.working failing = .error fault →
            outcome = .error fault ∧
            later.progress =
              run.progress ++ startsFrom 1 directories.length (before ++ [failing]) ∧
            Leaves settings descriptions source before run.tree later.tree) ∧
        ((∀ directory ∈ directories, Succeeds settings run.tree run.working directory) →
          ∃ written, outcome = .ok written ∧ written.length = directories.length ∧
            later.progress =
              run.progress ++ startsFrom 1 directories.length directories ++
                [.finished written] ∧
            Leaves settings descriptions source directories run.tree later.tree) := by
  rw [(Descriptions.looks_load [runSpan settings] settings.descriptionsPath).outcome run]
  refine ⟨(run.after (generate settings)).1, (run.after (generate settings)).2, rfl, ?_, ?_⟩
  · intro missing
    obtain ⟨fault, later, ends, still⟩ := after_generate_of_missing missing
    rw [ends]
    exact ⟨⟨fault, rfl⟩, still.tree, still.progress⟩
  · intro descriptions source loaded leads
    dsimp only
    constructor
    · intro before failing after fault split succeed failed
      obtain ⟨later, ends, announced, leaves⟩ :=
        after_generate_of_fault linkFree ordinary loaded leads split succeed failed
      rw [ends]
      exact ⟨rfl, announced, leaves⟩
    · intro succeed
      obtain ⟨written, later, ends, sameLength, announced, leaves⟩ :=
        after_generate_of_succeed linkFree ordinary loaded leads succeed
      rw [ends]
      exact ⟨written, rfl, sameLength, announced, leaves⟩

/-- A source directory with three directories. In the second one of the listing a directory stands
where the readme should. -/
def blockedTree : FileTree :=
  ((FileTree.empty.makeDirectories [] "/src/c".toList).makeDirectories []
    "/src/b/Readme.md".toList).makeDirectories [] "/src/a".toList

def blockedRun : TreeRun := .start blockedTree []

/-- The first readme is written, and the third directory is not taken up. -/
theorem generate_leaves_blockedRun :
    blockedRun.tree.LinkFree ∧ Ordinary (Settings.standing ['/']).readmeName ∧
      ∃ later, blockedRun.after (generate (Settings.standing ['/'])) =
          (.error (.access "/src/b/Readme.md".toList .isDirectory), later) ∧
        later.progress = [.started ['a'] 1 3, .started ['b'] 2 3] ∧
        later.tree.node? ["src".toList, ['a'], "Readme.md".toList] =
          some (.file (Text.encode (compose ['a'] "No Description.".toList []
            "https://github.com/TypeSharp/Typesharp/tree/master".toList))) ∧
        later.tree.node? ["src".toList, ['c'], "Readme.md".toList] = none := by
  have linkFree : blockedRun.tree.LinkFree := FileTree.linkFree_of_entries (by decide +kernel)
  have leads : blockedRun.tree.Leads blockedRun.working (Settings.standing ['/']).sourcePath
      ["src".toList] := ⟨by decide +kernel, by decide +kernel⟩
  have loaded : (blockedRun.after (Descriptions.load [runSpan (Settings.standing ['/'])]
      (Settings.standing ['/']).descriptionsPath)).1 = .ok .empty := by decide +kernel
  have split : directoriesOf (Settings.standing ['/']) blockedRun.tree ["src".toList] =
      [⟨['a'], "/src/a".toList⟩] ++ ⟨['b'], "/src/b".toList⟩ ::
        [⟨['c'], "/src/c".toList⟩] := by decide +kernel
  have first : finds (Settings.standing ['/']) blockedRun.tree blockedRun.working
      ⟨['a'], "/src/a".toList⟩ = .ok ([], ["src".toList, ['a'], "Readme.md".toList]) := by
    decide +kernel
  have second : finds (Settings.standing ['/']) blockedRun.tree blockedRun.working
      ⟨['b'], "/src/b".toList⟩ =
        .error (.access "/src/b/Readme.md".toList .isDirectory) := by decide +kernel
  have noParts : entriesBelow blockedRun.tree (Settings.standing ['/']).readmeName
      (["src".toList] ++ [['a']]) = [] := by decide +kernel
  have nothingThere : blockedRun.tree.node? ["src".toList, ['c'], "Readme.md".toList] =
      none := by decide +kernel
  have succeed : ∀ directory ∈ [(⟨['a'], "/src/a".toList⟩ : Subdirectory)],
      Succeeds (Settings.standing ['/']) blockedRun.tree blockedRun.working directory := by
    intro directory member
    rw [List.mem_singleton.1 member]
    exact ⟨_, _, first⟩
  obtain ⟨outcome, later, ends, _, goesOn⟩ :=
    generate_leaves linkFree (ordinary_readmeName ['/'])
  obtain ⟨rfl, announced, leaves⟩ :=
    (goesOn .empty _ loaded leads).1 _ _ _ _ split succeed second
  refine ⟨linkFree, ordinary_readmeName ['/'], later, ends, ?_, ?_, ?_⟩
  · rw [announced, split]
    rfl
  · have page := leaves.written _ List.mem_cons_self
    rw [noParts] at page
    exact page
  · refine (leaves.unchanged _ ?_).trans nothingThere
    intro directory member
    rw [List.mem_singleton.1 member]
    decide

end SourceCatalog.Readme
