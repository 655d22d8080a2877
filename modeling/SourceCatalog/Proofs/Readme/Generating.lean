import SourceCatalog.FileTree.Arrange
import SourceCatalog.Proofs.Readme.Pages

/-!
# Generating readmes

In a tree without links a run writes the readme of every directory in the source directory, and
nothing else. What it writes is determined by the tree as it was before the run. The next run
does the same again, unless the path of the descriptions leads through a written file.
-/

namespace SourceCatalog.Readme

open FileTree (LinkFree Leads)

variable {tree : FileTree} {working source : Location} {settings : Settings}
  {descriptions : Descriptions} {run : TreeRun}

def readmePlace (settings : Settings) (source : Location) (name : Text) : Location :=
  source ++ [name, settings.readmeName]

def readmePlaces (settings : Settings) (tree : FileTree) (source : Location) : List Location :=
  (tree.subdirectories source).map (readmePlace settings source)

def directoriesOf (settings : Settings) (tree : FileTree) (source : Location) :
    List Subdirectory :=
  (tree.subdirectories source).map fun name => ⟨name, settings.sourcePath.join name⟩

/-- Each directory has a readme of its own. -/
theorem readmePlace_injective (settings : Settings) (source : Location) :
    Function.Injective (readmePlace settings source) := by
  intro first second same
  have lists := List.append_cancel_left same
  exact (List.cons.inj lists).1

theorem nodup_readmePlaces (settings : Settings) (tree : FileTree) (source : Location) :
    (readmePlaces settings tree source).Nodup :=
  (tree.nodup_subdirectories source).map (readmePlace_injective settings source)

/-- No readme is the fragment of a subdirectory of a directory that gets one. -/
theorem fragment_notMem_readmePlaces (name child : Text) :
    source ++ [name] ++ [child, settings.readmeName] ∉ readmePlaces settings tree source := by
  intro member
  obtain ⟨other, _, same⟩ := List.mem_map.1 member
  have lengths := congrArg List.length same
  simp [readmePlace] at lengths

/-- The step of a directory in the source directory can only find what the tree holds. -/
theorem eq_of_finds {name : Text} {entries : List Entry} {location : Location}
    (leads : tree.Leads working settings.sourcePath source) (linkFree : tree.LinkFree)
    (ordinary : Ordinary settings.readmeName) (child : name ∈ tree.subdirectories source)
    (found : finds settings tree working ⟨name, settings.sourcePath.join name⟩ =
      .ok (entries, location)) :
    entries = entriesBelow tree settings.readmeName (source ++ [name]) ∧
      location = readmePlace settings source name := by
  obtain ⟨collected, target⟩ := of_finds_eq_ok found
  have filled := Path.join_ne_nil (ordinary_of_mem_subdirectories child) leads.filled
  have childLeads := leads.join child
    (FileTree.pathObstacle?_of_join ordinary filled (FileTree.noObstacle_of_target target))
  have place := childLeads.location_of_target linkFree ordinary target
  rw [List.append_assoc] at place
  exact ⟨eq_entriesBelow_of_entriesOf childLeads linkFree ordinary collected, place⟩

/-- Where the path of a directory has an obstacle, the path of its readme has one, too. -/
theorem finds_of_obstacle {directory : Path} {name : Text} {obstacle : Obstacle}
    (ordinary : Ordinary settings.readmeName) (filled : directory ≠ [])
    (wrong : FileTree.pathObstacle? directory = some obstacle) (later : FileTree) :
    finds settings later working ⟨name, directory⟩ =
      finds settings tree working ⟨name, directory⟩ := by
  have sameEntries : entriesOf directory settings.readmeName later working =
      entriesOf directory settings.readmeName tree working := by
    rw [entriesOf, entriesOf, FileTree.list_of_obstacle wrong, FileTree.list_of_obstacle wrong]
    cases obstacle <;> rfl
  rw [finds, finds]
  dsimp only
  rw [sameEntries]
  cases wrongToo : FileTree.pathObstacle? (directory.join settings.readmeName) with
  | some other =>
    rw [FileTree.target_of_obstacle wrongToo, FileTree.target_of_obstacle wrongToo]
  | none =>
    rw [FileTree.pathObstacle?_of_join ordinary filled wrongToo] at wrong
    cases wrong

/-- The step of a directory finds the same, whichever readmes have been written. -/
theorem finds_fills {later : FileTree} {filled : List Location} {name : Text}
    (leads : tree.Leads working settings.sourcePath source) (linkFree : tree.LinkFree)
    (ordinary : Ordinary settings.readmeName) (child : name ∈ tree.subdirectories source)
    (fills : tree.Fills later filled) (inside : filled ⊆ readmePlaces settings tree source) :
    finds settings later working ⟨name, settings.sourcePath.join name⟩ =
      finds settings tree working ⟨name, settings.sourcePath.join name⟩ := by
  have nameFilled := Path.join_ne_nil (ordinary_of_mem_subdirectories child) leads.filled
  cases wrong : FileTree.pathObstacle? (settings.sourcePath.join name) with
  | some obstacle => exact finds_of_obstacle ordinary nameFilled wrong later
  | none =>
    have childLeads := leads.join child wrong
    have apart : ∀ other, source ++ [name] ++ [other, settings.readmeName] ∉ filled :=
      fun other member => fragment_notMem_readmePlaces name other (inside member)
    rw [finds, finds]
    dsimp only
    rw [entriesOf_fills childLeads linkFree fills ordinary apart,
      childLeads.target_fills linkFree fills ordinary]

theorem steady_directoriesOf (leads : tree.Leads working settings.sourcePath source)
    (linkFree : tree.LinkFree) (ordinary : Ordinary settings.readmeName) :
    Steady settings tree working (readmePlaces settings tree source)
      (directoriesOf settings tree source) where
  same := by
    intro directory member later filled fills inside
    obtain ⟨name, child, rfl⟩ := List.mem_map.1 member
    exact finds_fills leads linkFree ordinary child fills inside
  inside := by
    intro directory member entries location found
    obtain ⟨name, child, rfl⟩ := List.mem_map.1 member
    rw [(eq_of_finds leads linkFree ordinary child found).2]
    exact List.mem_map.2 ⟨name, child, rfl⟩

def lastAnnouncement : Except Fault (List Written) → List Progress
  | .ok written => [.finished written]
  | .error _ => []

/-- Listing a directory finds its children and changes nothing. -/
theorem looks_listSubdirectories (directory : Path) :
    Looks (listSubdirectories directory) fun tree working =>
      ((tree.list working directory).mapError (.access directory)).bind fun listing =>
        .ok (subdirectoriesIn directory listing) :=
  (Looks.accessList directory).bind fun _ => Looks.pure _

/-- The part of a run that follows the listing of the source directory. -/
def generateAll (settings : Settings) (descriptions : Descriptions)
    (directories : List Subdirectory) : Job (StateM TreeRun) (List Written) := do
  let written ← generateFrom settings descriptions directories.length 1 directories
  Job.record (runEvent settings "readme generation complete" [.count "count" written.length])
  Job.announce (.finished written)
  return written

def generateWith (settings : Settings) (descriptions : Descriptions) :
    Job (StateM TreeRun) (List Written) := do
  Job.record (runEvent settings "generating readmes"
    [.plain "source" settings.sourcePath, .count "mapped" descriptions.size])
  let directories ← listSubdirectories settings.sourcePath
  generateAll settings descriptions directories

theorem generate_eq (settings : Settings) :
    (generate settings : Job (StateM TreeRun) (List Written)) =
      Descriptions.load [runSpan settings] settings.descriptionsPath >>= generateWith settings :=
  rfl

/-- Once the source directory is listed, a run reports, writes and announces what the tree
determines. -/
theorem after_generateAll {directories : List Subdirectory} {places : List Location}
    (descriptions : Descriptions)
    (steady : Steady settings run.tree run.working places directories) :
    ∃ later, run.after (generateAll settings descriptions directories) =
        (reports settings run.tree run.working directories, later) ∧
      later.tree = run.tree.putFiles
        (pages settings descriptions run.tree run.working directories) ∧
      later.working = run.working ∧
      later.progress = run.progress ++
        announcements settings run.tree run.working directories.length 1 directories ++
          lastAnnouncement (reports settings run.tree run.working directories) := by
  obtain ⟨later, ends, laterTree, laterWorking, laterProgress⟩ :=
    after_generateFrom descriptions directories.length 1 steady
      (FileTree.Fills.refl run.tree) (List.nil_subset places) rfl
  rw [generateAll, TreeRun.after_bind, ends]
  cases reports settings run.tree run.working directories with
  | error fault =>
    refine ⟨later, rfl, laterTree, laterWorking, laterProgress.trans ?_⟩
    exact (List.append_nil _).symm
  | ok written =>
    refine ⟨_, rfl, laterTree, laterWorking, ?_⟩
    exact congrArg (· ++ [Progress.finished written]) laterProgress

/-- Either the descriptions or the source directory are not there and a run changes nothing, or it
goes on with both of them. -/
theorem after_generate_cases (run : TreeRun) (settings : Settings) :
    (∃ fault later, run.after (generate settings) = (.error fault, later) ∧ run.Still later ∧
      ∀ descriptions source,
        Descriptions.loadFrom settings.descriptionsPath
            (run.tree.read run.working settings.descriptionsPath) = .ok descriptions →
          ¬ run.tree.Leads run.working settings.sourcePath source) ∨
    ∃ descriptions source started,
      Descriptions.loadFrom settings.descriptionsPath
          (run.tree.read run.working settings.descriptionsPath) = .ok descriptions ∧
      run.tree.Leads run.working settings.sourcePath source ∧
      run.after (generate settings) =
        started.after (generateAll settings descriptions
          (directoriesOf settings run.tree source)) ∧
      run.Still started := by
  obtain ⟨first, still, ends⟩ :=
    (Descriptions.looks_load [runSpan settings] settings.descriptionsPath).after_bind run
      (generateWith settings)
  rw [generate_eq, ends]
  cases loaded : Descriptions.loadFrom settings.descriptionsPath
      (run.tree.read run.working settings.descriptionsPath) with
  | error fault =>
    exact Or.inl ⟨fault, first, rfl, still, fun _ _ present => nomatch present⟩
  | ok descriptions =>
    dsimp only
    rw [generateWith, TreeRun.after_record_bind]
    obtain ⟨second, stillSecond, endsSecond⟩ :=
      (looks_listSubdirectories settings.sourcePath).after_bind
        { first with
          events := first.events ++ [runEvent settings "generating readmes"
            [.plain "source" settings.sourcePath, .count "mapped" descriptions.size]] }
        (generateAll settings descriptions)
    rw [endsSecond]
    have stillRun : run.Still second :=
      still.trans ⟨stillSecond.tree, stillSecond.working, stillSecond.progress⟩
    dsimp only
    rw [still.tree, still.working]
    cases listed : run.tree.list run.working settings.sourcePath with
    | error obstacle =>
      refine Or.inl ⟨_, second, rfl, stillRun, ?_⟩
      intro _ source _ leads
      rw [leads.list] at listed
      cases listed
    | ok listing =>
      obtain ⟨source, leads, rfl⟩ := FileTree.leads_of_list listed
      refine Or.inr ⟨descriptions, source, second, rfl, leads, ?_, stillRun⟩
      rw [directoriesOf, ← subdirectoriesIn_children]
      rfl

/-! ## What a run writes -/

/-- The readme of a directory with its place, as the tree holds what it says. -/
def pageBelow (settings : Settings) (descriptions : Descriptions) (tree : FileTree)
    (source : Location) (name : Text) : Location × List UInt8 :=
  (readmePlace settings source name,
    Text.encode (compose name (descriptions.resolve name)
      (entriesBelow tree settings.readmeName (source ++ [name])) settings.repositoryUrl))

def reportBelow (settings : Settings) (tree : FileTree) (source : Location) (name : Text) :
    Written :=
  ⟨name, (settings.sourcePath.join name).join settings.readmeName,
    entriesBelow tree settings.readmeName (source ++ [name])⟩

/-- If no directory has a fault, the reports and the pages are those of all directories. -/
theorem eq_below_of_reports {names : List Text} {written : List Written}
    (descriptions : Descriptions)
    (only : ∀ name ∈ names, ∀ entries location,
      finds settings tree working ⟨name, settings.sourcePath.join name⟩ =
        .ok (entries, location) →
      entries = entriesBelow tree settings.readmeName (source ++ [name]) ∧
        location = readmePlace settings source name)
    (reported : reports settings tree working
      (names.map fun name => ⟨name, settings.sourcePath.join name⟩) = .ok written) :
    written = names.map (reportBelow settings tree source) ∧
      pages settings descriptions tree working
          (names.map fun name => ⟨name, settings.sourcePath.join name⟩) =
        names.map (pageBelow settings descriptions tree source) := by
  induction names generalizing written with
  | nil =>
    cases reported
    exact ⟨rfl, rfl⟩
  | cons name others inductionHypothesis =>
    obtain ⟨here, more, found, there, rfl⟩ := mapM_cons_eq_ok_iff.1 reported
    cases outcome : finds settings tree working ⟨name, settings.sourcePath.join name⟩ with
    | error fault =>
      rw [outcome] at found
      cases found
    | ok needs =>
      obtain ⟨entries, location⟩ := needs
      rw [outcome] at found
      cases found
      obtain ⟨rfl, rfl⟩ := only name List.mem_cons_self entries location outcome
      obtain ⟨rfl, pagesEq⟩ := inductionHypothesis
        (fun other member => only other (List.mem_cons_of_mem _ member)) there
      refine ⟨rfl, ?_⟩
      rw [List.map_cons, pages, outcome, List.map_cons, ← pagesEq]
      rfl

/-- A run that succeeds has put the pages of all directories in place. -/
theorem putFiles_of_generate {later : TreeRun} {written : List Written}
    (linkFree : run.tree.LinkFree) (ordinary : Ordinary settings.readmeName)
    (success : run.after (generate settings) = (.ok written, later)) :
    ∃ descriptions source,
      Descriptions.loadFrom settings.descriptionsPath
          (run.tree.read run.working settings.descriptionsPath) = .ok descriptions ∧
      run.tree.Leads run.working settings.sourcePath source ∧
      reports settings run.tree run.working (directoriesOf settings run.tree source) =
        .ok written ∧
      later.tree = run.tree.putFiles (pages settings descriptions run.tree run.working
        (directoriesOf settings run.tree source)) := by
  rcases after_generate_cases run settings with
    ⟨fault, failed, ends, _⟩ | ⟨descriptions, source, started, loaded, leads, ends, still⟩
  · rw [ends] at success
    cases success
  · have steady := steady_directoriesOf leads linkFree ordinary
    rw [← still.tree, ← still.working] at steady
    obtain ⟨last, endsLast, lastTree, _⟩ := after_generateAll descriptions steady
    rw [still.tree, still.working] at endsLast lastTree
    rw [ends, endsLast] at success
    obtain ⟨reported, rfl⟩ := Prod.ext_iff.1 success
    exact ⟨descriptions, source, loaded, leads, reported, lastTree⟩

section Success

variable {written : List Written} (descriptions : Descriptions)
  (leads : tree.Leads working settings.sourcePath source) (linkFree : tree.LinkFree)
  (ordinary : Ordinary settings.readmeName)
  (reported : reports settings tree working (directoriesOf settings tree source) = .ok written)

include leads linkFree ordinary reported

theorem written_eq :
    written = (tree.subdirectories source).map (reportBelow settings tree source) :=
  (eq_below_of_reports .empty
    (fun _ child _ _ => eq_of_finds leads linkFree ordinary child) reported).1

theorem pages_eq :
    pages settings descriptions tree working (directoriesOf settings tree source) =
      (tree.subdirectories source).map (pageBelow settings descriptions tree source) :=
  (eq_below_of_reports descriptions
    (fun _ child _ _ => eq_of_finds leads linkFree ordinary child) reported).2

theorem map_fst_pages :
    (pages settings descriptions tree working (directoriesOf settings tree source)).map Prod.fst =
      readmePlaces settings tree source := by
  rw [pages_eq descriptions leads linkFree ordinary reported, List.map_map]
  rfl

/-- Each page is found in its place. -/
theorem node?_putFiles_pages {page : Location × List UInt8}
    (member : page ∈ pages settings descriptions tree working
      (directoriesOf settings tree source)) :
    (tree.putFiles (pages settings descriptions tree working
      (directoriesOf settings tree source))).node? page.1 = some (.file page.2) := by
  refine FileTree.node?_putFiles_of_mem ?_ (fun _ => vacant_of_mem_pages) member
  rw [map_fst_pages descriptions leads linkFree ordinary reported]
  exact nodup_readmePlaces settings tree source

theorem fills_pages :
    tree.Fills (tree.putFiles (pages settings descriptions tree working
      (directoriesOf settings tree source))) (readmePlaces settings tree source).reverse := by
  have vacant : ∀ page ∈ pages settings descriptions tree working
      (directoriesOf settings tree source), tree.Vacant page.1 :=
    fun _ => vacant_of_mem_pages
  have filled := (FileTree.Fills.refl tree).putFiles vacant
  rw [map_fst_pages descriptions leads linkFree ordinary reported, List.append_nil] at filled
  exact filled

/-- To write the pages again changes nothing. -/
theorem putFiles_pages_again :
    (tree.putFiles (pages settings descriptions tree working
        (directoriesOf settings tree source))).putFiles
      (pages settings descriptions tree working (directoriesOf settings tree source)) =
    tree.putFiles (pages settings descriptions tree working
      (directoriesOf settings tree source)) := by
  apply FileTree.putFiles_eq_self
  intro page member
  exact ⟨(vacant_of_mem_pages member).below,
    node?_putFiles_pages descriptions leads linkFree ordinary reported member⟩

end Success

def smallTree : FileTree :=
  (FileTree.empty.arrangeFile [] "/src/a/b/Readme.md".toList
    (Text.encode "b\nThe part b.".toList)).makeDirectories [] "/src/a/c".toList

def smallRun : TreeRun := .start smallTree []

theorem smallRun_linkFree : smallRun.tree.LinkFree :=
  FileTree.linkFree_of_entries (by decide +kernel)

theorem ordinary_readmeName (root : Path) : Ordinary (Settings.standing root).readmeName :=
  have ordinary : Ordinary "Readme.md".toList := ordinary_of_isName (by decide)
  ordinary

def smallReports : List Written :=
  [⟨['a'], "/src/a/Readme.md".toList,
    [⟨['c'], "No description.".toList⟩, ⟨['b'], "The part b.".toList⟩]⟩]

def smallLater : TreeRun := (smallRun.after (generate (Settings.standing ['/']))).2

theorem smallRun_generate :
    smallRun.after (generate (Settings.standing ['/'])) = (.ok smallReports, smallLater) := by
  have reported : (smallRun.after (generate (Settings.standing ['/']))).1 = .ok smallReports := by
    decide +kernel
  rw [smallLater, ← reported]

theorem smallRun_leads :
    smallRun.tree.Leads smallRun.working (Settings.standing ['/']).sourcePath ["src".toList] :=
  ⟨by decide +kernel, by decide +kernel⟩

/-- A run writes the readme of every directory in the source directory, from what the tree held
before, and changes nothing else. The order of the entries of a tree is any, and with it the
order of the listings. -/
theorem generate_writes_readmes {settings : Settings} {run later : TreeRun}
    {written : List Written} (linkFree : run.tree.LinkFree)
    (ordinary : Ordinary settings.readmeName)
    (success : run.after (generate settings) = (.ok written, later)) :
    ∃ descriptions source,
      Descriptions.loadFrom settings.descriptionsPath
          (run.tree.read run.working settings.descriptionsPath) = .ok descriptions ∧
      run.tree.Leads run.working settings.sourcePath source ∧
      (written = (run.tree.subdirectories source).map fun name =>
        ⟨name, (settings.sourcePath.join name).join settings.readmeName,
          entriesBelow run.tree settings.readmeName (source ++ [name])⟩) ∧
      (∀ name ∈ run.tree.subdirectories source,
        later.tree.node? (source ++ [name, settings.readmeName]) =
          some (.file (Text.encode (compose name (descriptions.resolve name)
            (entriesBelow run.tree settings.readmeName (source ++ [name]))
            settings.repositoryUrl)))) ∧
      ∀ location,
        (∀ name ∈ run.tree.subdirectories source,
          location ≠ source ++ [name, settings.readmeName]) →
        later.tree.node? location = run.tree.node? location := by
  obtain ⟨descriptions, source, loaded, leads, reported, tree_eq⟩ :=
    putFiles_of_generate linkFree ordinary success
  refine ⟨descriptions, source, loaded, leads, written_eq leads linkFree ordinary reported,
    ?_, ?_⟩
  · intro name child
    have member : pageBelow settings descriptions run.tree source name ∈
        pages settings descriptions run.tree run.working
          (directoriesOf settings run.tree source) := by
      rw [pages_eq descriptions leads linkFree ordinary reported]
      exact List.mem_map.2 ⟨name, child, rfl⟩
    rw [tree_eq]
    exact node?_putFiles_pages descriptions leads linkFree ordinary reported member
  · intro location apart
    rw [tree_eq]
    apply FileTree.node?_putFiles_of_notMem
    rw [map_fst_pages descriptions leads linkFree ordinary reported]
    intro member
    obtain ⟨name, child, same⟩ := List.mem_map.1 member
    exact apart name child same.symm

/-- A source directory with two directories in it, of which the description map knows the first
one. Each has one part, and that of the second one has a fragment. -/
def describedTree : FileTree :=
  ((FileTree.empty.arrangeFile [] "/scripts/descriptions.json".toList
    (Text.encode "\x7b\"a\": \"All of a.\"\x7d".toList)).arrangeFile [] "/src/b/d/Readme.md".toList
      (Text.encode "d\nThe part d.".toList)).makeDirectories [] "/src/a/c".toList

def describedRun : TreeRun := .start describedTree []

def describedReports : List Written :=
  [⟨['a'], "/src/a/Readme.md".toList, [⟨['c'], "No description.".toList⟩]⟩,
    ⟨['b'], "/src/b/Readme.md".toList, [⟨['d'], "The part d.".toList⟩]⟩]

def describedLater : TreeRun := (describedRun.after (generate (Settings.standing ['/']))).2

theorem describedRun_generate :
    describedRun.after (generate (Settings.standing ['/'])) =
      (.ok describedReports, describedLater) := by
  have reported : (describedRun.after (generate (Settings.standing ['/']))).1 =
      .ok describedReports := by decide +kernel
  rw [describedLater, ← reported]

/-- The readmes of two directories, one with a description of its own and one without. -/
theorem generate_writes_readmes_describedRun :
    describedRun.tree.LinkFree ∧ Ordinary (Settings.standing ['/']).readmeName ∧
      describedRun.after (generate (Settings.standing ['/'])) =
        (.ok describedReports, describedLater) ∧
      describedLater.tree.node? ["src".toList, ['a'], "Readme.md".toList] =
        some (.file (Text.encode (compose ['a'] "All of a.".toList
          [⟨['c'], "No description.".toList⟩]
          "https://github.com/TypeSharp/Typesharp/tree/master".toList))) ∧
      describedLater.tree.node? ["src".toList, ['b'], "Readme.md".toList] =
        some (.file (Text.encode (compose ['b'] "No Description.".toList
          [⟨['d'], "The part d.".toList⟩]
          "https://github.com/TypeSharp/Typesharp/tree/master".toList))) ∧
      describedLater.tree.node? ["src".toList, ['b'], ['d'], "Readme.md".toList] =
        some (.file (Text.encode "d\nThe part d.".toList)) := by
  have linkFree : describedRun.tree.LinkFree := FileTree.linkFree_of_entries (by decide +kernel)
  obtain ⟨descriptions, source, loaded, leads, _, inPlace, elsewhere⟩ :=
    generate_writes_readmes linkFree (ordinary_readmeName ['/']) describedRun_generate
  have described : Descriptions.loadFrom (Settings.standing ['/']).descriptionsPath
      (describedRun.tree.read describedRun.working (Settings.standing ['/']).descriptionsPath) =
        .ok (.ofPairs [(['a'], "All of a.".toList)]) := by decide +kernel
  have place : describedRun.tree.Leads describedRun.working
      (Settings.standing ['/']).sourcePath ["src".toList] :=
    ⟨by decide +kernel, by decide +kernel⟩
  cases loaded.symm.trans described
  cases leads.found.symm.trans place.found
  have names : describedRun.tree.subdirectories ["src".toList] = [['a'], ['b']] := by
    decide +kernel
  have first := inPlace ['a'] (by rw [names]; exact List.mem_cons_self)
  have second := inPlace ['b'] (by rw [names]; exact List.mem_cons_of_mem _ List.mem_cons_self)
  have firstEntries : entriesBelow describedRun.tree (Settings.standing ['/']).readmeName
      (["src".toList] ++ [['a']]) = [⟨['c'], "No description.".toList⟩] := by decide +kernel
  have secondEntries : entriesBelow describedRun.tree (Settings.standing ['/']).readmeName
      (["src".toList] ++ [['b']]) = [⟨['d'], "The part d.".toList⟩] := by decide +kernel
  have fragment : describedRun.tree.node? ["src".toList, ['b'], ['d'], "Readme.md".toList] =
      some (.file (Text.encode "d\nThe part d.".toList)) := by decide +kernel
  rw [firstEntries] at first
  rw [secondEntries] at second
  refine ⟨linkFree, ordinary_readmeName ['/'], describedRun_generate, first, second, ?_⟩
  refine (elsewhere _ fun name _ same => ?_).trans fragment
  have lengths := congrArg List.length same
  cases lengths

/-- The next run writes the same again, if the path of the descriptions does not lead through a
readme. -/
theorem generate_again {settings : Settings} {run later : TreeRun} {written : List Written}
    (linkFree : run.tree.LinkFree) (ordinary : Ordinary settings.readmeName)
    (success : run.after (generate settings) = (.ok written, later))
    (apart : ∀ source, run.tree.Leads run.working settings.sourcePath source →
      ∀ name ∈ run.tree.subdirectories source,
        source ++ [name, settings.readmeName] ∉
          run.tree.visited run.working settings.descriptionsPath)
    {again : TreeRun} (sameTree : again.tree = later.tree)
    (sameWorking : again.working = run.working) :
    ∃ last, again.after (generate settings) = (.ok written, last) ∧
      last.tree = later.tree := by
  obtain ⟨descriptions, source, loaded, leads, reported, tree_eq⟩ :=
    putFiles_of_generate linkFree ordinary success
  have steady := steady_directoriesOf leads linkFree ordinary
  have fills : run.tree.Fills again.tree (readmePlaces settings run.tree source).reverse := by
    rw [sameTree, tree_eq]
    exact fills_pages descriptions leads linkFree ordinary reported
  have inside : (readmePlaces settings run.tree source).reverse ⊆
      readmePlaces settings run.tree source := fun _ => List.mem_reverse.1
  have sameDirectories :
      directoriesOf settings again.tree source = directoriesOf settings run.tree source := by
    rw [directoriesOf, directoriesOf, fills.subdirectories]
  have leadsAgain : again.tree.Leads again.working settings.sourcePath source := by
    rw [sameWorking]
    exact leads.fills fills
  have loadedAgain : Descriptions.loadFrom settings.descriptionsPath
      (again.tree.read again.working settings.descriptionsPath) = .ok descriptions := by
    rw [← loaded, sameWorking]
    apply congrArg (Descriptions.loadFrom settings.descriptionsPath)
    refine FileTree.read_of_agrees (fills.agrees ?_)
    intro place member
    obtain ⟨name, child, rfl⟩ := List.mem_map.1 (inside member)
    exact apart source leads name child
  rcases after_generate_cases again settings with
    ⟨_, _, _, _, absent⟩ | ⟨found, directory, started, loadedFound, leadsFound, ends, still⟩
  · exact absurd leadsAgain (absent descriptions source loadedAgain)
  · cases loadedFound.symm.trans loadedAgain
    cases leadsFound.found.symm.trans leadsAgain.found
    have steadyAgain := steady_directoriesOf leadsAgain (fills.linkFree linkFree) ordinary
    rw [← still.tree, ← still.working] at steadyAgain
    obtain ⟨last, endsLast, lastTree, _⟩ := after_generateAll descriptions steadyAgain
    rw [still.tree, still.working, sameWorking, sameDirectories] at endsLast lastTree
    rw [steady.reports_eq fills inside, reported] at endsLast
    rw [steady.pages_eq fills inside] at lastTree
    refine ⟨last, ?_, lastTree.trans ?_⟩
    · rw [ends, sameDirectories]
      exact endsLast
    · rw [sameTree, tree_eq]
      exact putFiles_pages_again descriptions leads linkFree ordinary reported

/-- The second run reports what the first one did, and leaves its tree. -/
theorem generate_again_smallRun :
    smallRun.tree.LinkFree ∧ Ordinary (Settings.standing ['/']).readmeName ∧
      smallRun.after (generate (Settings.standing ['/'])) = (.ok smallReports, smallLater) ∧
      ["src".toList, ['a'], "Readme.md".toList] ∉
        smallRun.tree.visited smallRun.working (Settings.standing ['/']).descriptionsPath ∧
      ∃ last, smallLater.after (generate (Settings.standing ['/'])) = (.ok smallReports, last) ∧
        last.tree = smallLater.tree := by
  have looked : smallRun.tree.visited smallRun.working
      (Settings.standing ['/']).descriptionsPath = [[], [], ["scripts".toList]] := by
    decide +kernel
  have apart : ∀ source,
      smallRun.tree.Leads smallRun.working (Settings.standing ['/']).sourcePath source →
      ∀ name ∈ smallRun.tree.subdirectories source,
        source ++ [name, (Settings.standing ['/']).readmeName] ∉
          smallRun.tree.visited smallRun.working (Settings.standing ['/']).descriptionsPath := by
    intro source leads name _
    cases leads.found.symm.trans smallRun_leads.found
    rw [looked]
    simp
  have sameTree : smallLater.tree = smallLater.tree := rfl
  have sameWorking : smallLater.working = smallRun.working := by decide +kernel
  refine ⟨smallRun_linkFree, ordinary_readmeName ['/'], smallRun_generate, ?_,
    generate_again smallRun_linkFree (ordinary_readmeName ['/']) smallRun_generate apart sameTree
      sameWorking⟩
  rw [looked]
  simp

/-- The settings of a project that looks for its descriptions below a readme. -/
def entangled : Settings :=
  { Settings.standing ['/'] with descriptionsFile := "src/a/Readme.md/d.json".toList }

/-- A run can write a file where the path of the descriptions would need a directory. Then the
descriptions cannot be looked for any more, and the next run fails. -/
theorem generate_not_idempotent :
    ¬ ∀ (settings : Settings) (run later : TreeRun) (written : List Written)
        (source : Location),
      run.tree.LinkFree → Ordinary settings.readmeName →
      run.tree.Leads run.working settings.sourcePath source →
      (∀ name ∈ run.tree.subdirectories source,
        later.tree.locate .use run.working settings.descriptionsPath ≠
          .ok (.taken (source ++ [name, settings.readmeName]))) →
      run.after (generate settings) = (.ok written, later) →
      ∃ last, later.after (generate settings) = (.ok written, last) ∧
        last.tree = later.tree := by
  intro idempotent
  have reported : (smallRun.after (generate entangled)).1 = .ok smallReports := by
    decide +kernel
  have succeeds : smallRun.after (generate entangled) =
      (.ok smallReports, (smallRun.after (generate entangled)).2) := by
    rw [← reported]
  have noFile : (smallRun.after (generate entangled)).2.tree.locate .use smallRun.working
      entangled.descriptionsPath = .error .notDirectory := by decide +kernel
  have apart : ∀ name ∈ smallRun.tree.subdirectories ["src".toList],
      (smallRun.after (generate entangled)).2.tree.locate .use smallRun.working
          entangled.descriptionsPath ≠
        .ok (.taken (["src".toList] ++ [name, entangled.readmeName])) := by
    intro name _
    rw [noFile]
    exact nofun
  have samePath : entangled.sourcePath = (Settings.standing ['/']).sourcePath := by
    decide +kernel
  have leads : smallRun.tree.Leads smallRun.working entangled.sourcePath ["src".toList] := by
    rw [samePath]
    exact smallRun_leads
  have ordinary : Ordinary entangled.readmeName := ordinary_readmeName ['/']
  obtain ⟨last, ends, _⟩ := idempotent entangled smallRun _ _ ["src".toList] smallRun_linkFree
    ordinary leads apart succeeds
  have failed : ((smallRun.after (generate entangled)).2.after (generate entangled)).1 =
      .error (.access "/src/a/Readme.md/d.json".toList .notDirectory) := by decide +kernel
  rw [ends] at failed
  cases failed

end SourceCatalog.Readme
