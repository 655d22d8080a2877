import SourceCatalog.Proofs.Readme.Generating
import SourceCatalog.Proofs.Readme.Lines
import SourceCatalog.Proofs.Text.BrokenRuns

/-!
# Links of the readmes of a run

In any tree, whatever it is filled with and wherever its links lead, a run writes pages of
directories in the source directory. Main statement: each link of such a page goes to the
directory `src` of the repository, so it names what was listed only if the source directory has
this name.
-/

namespace SourceCatalog.Readme

open FileTree (LinkFree Leads)

variable {tree later : FileTree} {working source : Location} {settings : Settings}
  {descriptions : Descriptions}

def repositoryLink (settings : Settings) (path : Path) : Text :=
  Text.dropFinal '/' settings.repositoryUrl ++ ['/'] ++ path

def linkedBullet (link : Text) (entry : Entry) : Text :=
  " - **[".toList ++ entry.name ++ "](".toList ++ link ++ ")** - ".toList ++ entry.description

def linkedPage (link : Text → Text) (name description : Text) (entries : List Entry) : Text :=
  marker ++ ['\n'] ++ heading name description ++
    entries.flatMap fun entry => '\n' :: linkedBullet (link entry.name) entry

/-- The path of a subdirectory, from the root of a project whose source directory is `src`. -/
def pathInSrc (name entry : Text) : Path :=
  "src/".toList ++ name ++ ['/'] ++ entry

theorem entryUrl_eq (settings : Settings) (name entry : Text) :
    entryUrl settings.repositoryUrl name entry =
      repositoryLink settings (pathInSrc name entry) := by
  have slash : "/src/".toList = ['/'] ++ "src/".toList := rfl
  unfold entryUrl repositoryLink pathInSrc
  rw [slash]
  simp only [List.append_assoc]

theorem bullet_eq_linkedBullet (settings : Settings) (name : Text) (entry : Entry) :
    bullet settings.repositoryUrl name entry =
      linkedBullet (repositoryLink settings (pathInSrc name entry.name)) entry := by
  unfold bullet linkedBullet
  rw [entryUrl_eq]

/-- The links of a page lead into the directory `src`. -/
theorem compose_eq_linkedPage (settings : Settings) (name description : Text)
    (entries : List Entry) :
    compose name description entries settings.repositoryUrl =
      linkedPage (fun entry => repositoryLink settings (pathInSrc name entry)) name description
        entries := by
  unfold compose linkedPage
  simp only [bullet_eq_linkedBullet]

theorem suffix_linkedPage (link : Text → Text) (name description : Text) (entry : Entry) :
    link entry.name ++ ")** - ".toList ++ entry.description <:+
      linkedPage link name description [entry] := by
  refine ⟨marker ++ ['\n'] ++ heading name description ++
    ('\n' :: (" - **[".toList ++ entry.name ++ "](".toList)), ?_⟩
  unfold linkedPage linkedBullet
  simp only [List.flatMap_cons, List.flatMap_nil, List.append_nil, List.append_assoc,
    List.cons_append]

/-- The entries that are collected for a directory in the source directory are those of its
subdirectories. -/
theorem map_name_of_entriesOf {path : Path} {name fragment : Text} {entries : List Entry}
    (leads : tree.Leads working path source) (child : name ∈ tree.subdirectories source)
    (found : entriesOf (path.join name) fragment tree working = .ok entries) :
    entries.map Entry.name = tree.subdirectories (source ++ [name]) := by
  have filled := Path.join_ne_nil (ordinary_of_mem_subdirectories child) leads.filled
  cases wrong : FileTree.pathObstacle? (path.join name) with
  | some obstacle =>
    rw [entriesOf, FileTree.list_of_obstacle wrong] at found
    cases obstacle with
    | notFound => exact absurd wrong (FileTree.pathObstacle?_ne_notFound filled)
    | _ => cases found
  | none =>
    rw [entriesOf, (leads.join child wrong).list, entriesIn, subdirectoriesIn_children] at found
    have named : ∀ subdirectory ∈ (tree.subdirectories (source ++ [name])).map fun other =>
        (⟨other, (path.join name).join other⟩ : Subdirectory),
        ∀ entry, entryOf fragment tree working subdirectory = .ok entry →
          entry.name = subdirectory.name := by
      intro subdirectory _ entry entryFound
      rw [entryOf] at entryFound
      cases fragment : fragmentOf fragment tree working subdirectory with
      | error fault =>
        rw [fragment] at entryFound
        cases entryFound
      | ok text =>
        rw [fragment] at entryFound
        cases entryFound
        exact name_ofFragment subdirectory.name text
    rw [map_of_mapM_eq_ok named found, List.map_map]
    exact List.map_id _

/-- A page is that of a readme of some directory, made in a tree that files have been written to
since the first one. In the last one it is still where the path of the readme leads. -/
def Made (settings : Settings) (descriptions : Descriptions) (working : Location)
    (first last : FileTree) (directories : List Subdirectory) (readme : Written)
    (page : Location × List UInt8) : Prop :=
  ∃ directory ∈ directories, ∃ moment filled, first.Fills moment filled ∧
    finds settings moment working directory = .ok (readme.entries, page.1) ∧
    readme = report settings directory readme.entries ∧
    page.2 = Text.encode (pageText settings descriptions directory readme.entries) ∧
    last.target working readme.path = .ok page.1

/-- The readmes of the directories that a run takes up one by one, the first of them at some
position: all of them, as the run reports them, or those before the first directory with a fault,
which is the last one to be announced. -/
inductive Reached (last : TreeRun) (total position : Nat) (names : List Text) :
    Except Fault (List Written) → List Written → Prop
  | all {readmes : List Written} (names_eq : names = readmes.map Written.name) :
      Reached last total position names (.ok readmes) readmes
  | front {readmes : List Written} {fault : Fault} {failing : Text} {rest : List Text}
      (names_eq : names = readmes.map Written.name ++ failing :: rest)
      (announced : last.progress.getLast? =
        some (.started failing (position + readmes.length) total)) :
      Reached last total position names (.error fault) readmes

theorem Reached.cons {last : TreeRun} {total position : Nat} {names : List Text}
    {result : Except Fault (List Written)} {readmes : List Written}
    (reached : Reached last total (position + 1) names result readmes) (readme : Written) :
    Reached last total position (readme.name :: names) (result.map (readme :: ·))
      (readme :: readmes) := by
  cases reached with
  | all names_eq => exact .all (by rw [names_eq, List.map_cons])
  | @front _ fault failing rest names_eq announced =>
    have position_eq : position + 1 + readmes.length = position + (readme :: readmes).length := by
      rw [List.length_cons]
      omega
    have split : readme.name :: names =
        (readme :: readmes).map Written.name ++ failing :: rest := by
      rw [names_eq, List.map_cons, List.cons_append]
    rw [position_eq] at announced
    exact .front split announced

/-- The steps of several directories put pages in place, up to the first fault. Each is made in
the tree as the pages before it have left it. -/
theorem exists_pages {run : TreeRun} {filled : List Location} (settings : Settings)
    (descriptions : Descriptions) (total position : Nat) (directories : List Subdirectory)
    (fills : tree.Fills run.tree filled) :
    ∃ result last readmes pages places,
      run.after (generateFrom settings descriptions total position directories) =
        (result, last) ∧
      last.tree = run.tree.putFiles pages ∧ run.tree.Fills last.tree places ∧
      Reached last total position (directories.map Subdirectory.name) result readmes ∧
      List.Forall₂ (Made settings descriptions run.working tree last.tree directories) readmes
        pages := by
  induction directories generalizing run filled position with
  | nil =>
    exact ⟨.ok [], run, [], [], [], rfl, rfl, FileTree.Fills.refl run.tree, .all rfl, .nil⟩
  | cons directory others inductionHypothesis =>
    rcases after_generateFrom_cons run settings descriptions total position directory others with
      ⟨fault, last, _, ends, lastTree, _, announced⟩ |
        ⟨entries, location, middle, found, middleTree, middleWorking, _, ends⟩
    · refine ⟨.error fault, last, [], [], [], ends, lastTree, ?_, ?_, .nil⟩
      · rw [lastTree]
        exact FileTree.Fills.refl run.tree
      · refine .front rfl ?_
        rw [announced, List.getLast?_concat]
        rfl
    · have target := (of_finds_eq_ok found).2
      have fillsMiddle : run.tree.Fills middle.tree [location] := by
        rw [middleTree]
        exact (FileTree.Fills.refl run.tree).put (FileTree.vacant_of_target target) _
      obtain ⟨result, last, readmes, pages, places, endsLast, lastTree, fillsLast, reached, made⟩ :=
        inductionHypothesis (position + 1) (fills.trans fillsMiddle)
      have fillsAll := fillsMiddle.trans fillsLast
      let readme := report settings directory entries
      let page : Location × List UInt8 :=
        (location, Text.encode (pageText settings descriptions directory entries))
      have tree_eq : last.tree = run.tree.putFiles (page :: pages) := by
        rw [lastTree, middleTree]
        rfl
      have here : Made settings descriptions run.working tree last.tree (directory :: others)
          readme page :=
        ⟨directory, List.mem_cons_self, run.tree, filled, fills, found, rfl, rfl,
          fillsAll.target target⟩
      have behind : List.Forall₂
          (Made settings descriptions run.working tree last.tree (directory :: others)) readmes
          pages := by
        rw [middleWorking] at made
        refine made.imp ?_
        rintro known other ⟨place, inOthers, madeOther⟩
        exact ⟨place, List.mem_cons_of_mem directory inOthers, madeOther⟩
      refine ⟨result.map (readme :: ·), last, readme :: readmes, page :: pages, _, ?_, tree_eq,
        fillsAll, reached.cons readme, .cons here behind⟩
      rw [ends, endsLast]
      cases result with
      | error fault => rfl
      | ok written => rfl

/-- The pages of a whole run, in any tree. Without the descriptions or the source directory there
are none, and nothing is announced. -/
theorem exists_pages_of_generate (settings : Settings) (run : TreeRun) :
    ∃ outcome last readmes pages, run.after (generate settings) = (outcome, last) ∧
      last.tree = run.tree.putFiles pages ∧
      ((∃ fault, outcome = .error fault) ∧ last.progress = run.progress ∧ readmes = [] ∧
          pages = [] ∨
        ∃ descriptions source,
          Descriptions.loadFrom settings.descriptionsPath
              (run.tree.read run.working settings.descriptionsPath) = .ok descriptions ∧
          run.tree.Leads run.working settings.sourcePath source ∧
          Reached last (run.tree.subdirectories source).length 1 (run.tree.subdirectories source)
            outcome readmes ∧
          List.Forall₂ (Made settings descriptions run.working run.tree last.tree
            (directoriesOf settings run.tree source)) readmes pages) := by
  rcases after_generate_cases run settings with
    ⟨fault, last, ends, still, _⟩ | ⟨descriptions, source, started, loaded, leads, ends, still⟩
  · exact ⟨_, last, [], [], ends, still.tree, .inl ⟨⟨fault, rfl⟩, still.progress, rfl, rfl⟩⟩
  · have fills : run.tree.Fills started.tree [] := by
      rw [still.tree]
      exact FileTree.Fills.refl run.tree
    have names : (directoriesOf settings run.tree source).map Subdirectory.name =
        run.tree.subdirectories source := by
      rw [directoriesOf, List.map_map]
      exact List.map_id _
    obtain ⟨result, last, readmes, pages, _, endsLast, lastTree, _, reached, made⟩ :=
      exists_pages settings descriptions (directoriesOf settings run.tree source).length 1
        (directoriesOf settings run.tree source) fills
    have total : (directoriesOf settings run.tree source).length =
        (run.tree.subdirectories source).length := List.length_map _
    rw [still.tree] at lastTree
    rw [still.working] at made
    rw [names, total] at reached
    rw [ends, generateAll, TreeRun.after_bind, endsLast]
    cases reached with
    | all names_eq =>
      exact ⟨_, _, readmes, pages, rfl, lastTree,
        .inr ⟨descriptions, source, loaded, leads, .all names_eq, made⟩⟩
    | front names_eq announced =>
      exact ⟨_, last, readmes, pages, rfl, lastTree,
        .inr ⟨descriptions, source, loaded, leads, .front names_eq announced, made⟩⟩

/-! ## Where links go -/

def Relative (path : Path) : Prop :=
  ∃ names : List Text, (∀ name ∈ names, Ordinary name) ∧ path = Text.join ['/'] names

theorem Relative.getLast?_ne {path : Path} (relative : Relative path) :
    path.getLast? ≠ some '/' := by
  obtain ⟨names, ordinary, rfl⟩ := relative
  by_cases nothing : names = []
  · rw [nothing]
    decide
  · intro closed
    obtain ⟨front, parts⟩ := List.getLast?_eq_some_iff.1 closed
    have cut := Text.pieces_join nothing fun name member => (ordinary name member).noSlash
    rw [parts, Text.pieces_append_separator] at cut
    have emptyName : [] ∈ names := by
      rw [← cut]
      exact List.mem_append_right _ List.mem_cons_self
    exact (ordinary [] emptyName).filled rfl

/-- To a path without a slash at its end a name is added behind one. -/
theorem join_eq_of_open {path : Path} {name : Text} (ordinary : Ordinary name)
    (filled : path ≠ []) (isOpen : path.getLast? ≠ some '/') :
    path.join name = path ++ ['/'] ++ name := by
  rw [Path.join_eq ordinary filled, if_neg isOpen, List.append_assoc]
  rfl

theorem getLast?_append_ordinary {name : Text} (ordinary : Ordinary name) (path : Path) :
    (path ++ name).getLast? ≠ some '/' := by
  rw [List.getLast?_append_of_ne_nil path ordinary.filled]
  exact fun closed => ordinary.noSlash (List.mem_of_getLast? closed)

/-- A link names a path below the source directory only if that is called `src`. -/
theorem repositoryLink_eq_iff {name entry : Text} (relative : Relative settings.sourceDirectory)
    (nameOrdinary : Ordinary name) (entryOrdinary : Ordinary entry) :
    repositoryLink settings (pathInSrc name entry) =
        repositoryLink settings ((settings.sourceDirectory.join name).join entry) ↔
      settings.sourceDirectory = "src".toList := by
  have slash : "src/".toList = "src".toList ++ ['/'] := rfl
  unfold repositoryLink pathInSrc
  rw [List.append_right_inj, slash]
  by_cases empty : settings.sourceDirectory = []
  · have bare : Path.join [] name = name := by
      unfold Path.join
      split <;> rfl
    have nameOpen := getLast?_append_ordinary nameOrdinary []
    have longer : "src".toList ++ ['/'] ++ name ≠ name := by
      intro same
      have lengths := congrArg List.length same
      simp only [List.length_append, List.length_singleton] at lengths
      omega
    rw [empty, bare, join_eq_of_open entryOrdinary nameOrdinary.filled nameOpen,
      List.append_left_inj, List.append_left_inj]
    exact ⟨fun same => absurd same longer, fun same => by cases same⟩
  · have behind := getLast?_append_ordinary nameOrdinary (settings.sourceDirectory ++ ['/'])
    have filled : settings.sourceDirectory ++ ['/'] ++ name ≠ [] := by simp
    rw [join_eq_of_open nameOrdinary empty relative.getLast?_ne,
      join_eq_of_open entryOrdinary filled behind]
    simp only [List.append_left_inj]
    exact eq_comm

/-- In each readme that a run writes, the link of an entry is the address of the repository, `src`,
and the names of the directory and of the entry. A run writes the readmes of all directories, or of
those before the first one with a fault. -/
theorem generate_links_into_src {settings : Settings}
    (relative : Relative settings.sourceDirectory) (run : TreeRun) :
    let outcome := (run.after (generate settings)).1
    let later := (run.after (generate settings)).2
    ∃ readmes pages, later.tree = run.tree.putFiles pages ∧
      ((∃ fault, outcome = .error fault) ∧ later.progress = run.progress ∧ readmes = [] ∨
        ∃ source, run.tree.Leads run.working settings.sourcePath source ∧
          Reached later (run.tree.subdirectories source).length 1 (run.tree.subdirectories source)
            outcome readmes) ∧
      List.Forall₂ (fun readme page => ∃ descriptions source,
        (run.after (Descriptions.load [runSpan settings] settings.descriptionsPath)).1 =
          .ok descriptions ∧
        run.tree.Leads run.working settings.sourcePath source ∧
        readme.name ∈ run.tree.subdirectories source ∧
        readme.path = (settings.sourcePath.join readme.name).join settings.readmeName ∧
        later.tree.target run.working readme.path = .ok page.1 ∧
        readme.entries.map Entry.name = run.tree.subdirectories (source ++ [readme.name]) ∧
        page.2 = Text.encode (linkedPage
          (fun entry => repositoryLink settings ("src/".toList ++ readme.name ++ ['/'] ++ entry))
          readme.name (descriptions.resolve readme.name) readme.entries) ∧
        ∀ entry ∈ readme.entries,
          repositoryLink settings ("src/".toList ++ readme.name ++ ['/'] ++ entry.name) =
              repositoryLink settings
                ((settings.sourceDirectory.join readme.name).join entry.name) ↔
            settings.sourceDirectory = "src".toList) readmes pages := by
  obtain ⟨outcome, last, readmes, pages, ends, tree_eq, nothing | ⟨descriptions, source, loaded,
    leads, reached, made⟩⟩ := exists_pages_of_generate settings run
  · rw [ends]
    obtain ⟨failed, silent, rfl, rfl⟩ := nothing
    exact ⟨[], [], tree_eq, .inl ⟨failed, silent, rfl⟩, .nil⟩
  · rw [ends]
    refine ⟨readmes, pages, tree_eq, .inr ⟨source, leads, reached⟩, made.imp ?_⟩
    rintro readme page ⟨directory, inListing, moment, filled, fills, found, report_eq, content,
      place⟩
    obtain ⟨name, child, rfl⟩ := List.mem_map.1 inListing
    obtain rfl : readme.name = name := congrArg Written.name report_eq
    have names := map_name_of_entriesOf (leads.fills fills)
      (by rw [fills.subdirectories]; exact child) (of_finds_eq_ok found).1
    rw [fills.subdirectories] at names
    rw [pageText, compose_eq_linkedPage] at content
    have loads := ((Descriptions.looks_load [runSpan settings]
      settings.descriptionsPath).outcome run).trans loaded
    refine ⟨descriptions, source, loads, leads, child, congrArg Written.path report_eq, place,
      names, content, ?_⟩
    intro entry isEntry
    have listed : entry.name ∈ run.tree.subdirectories (source ++ [readme.name]) := by
      rw [← names]
      exact List.mem_map_of_mem isEntry
    exact repositoryLink_eq_iff relative (ordinary_of_mem_subdirectories child)
      (ordinary_of_mem_subdirectories listed)

def otherSettings : Settings :=
  { Settings.standing ['/'] with sourceDirectory := ['c'] }

/-- A source directory `c` with one directory in it, which has one subdirectory. -/
def otherTree : FileTree where
  entries := [([['c'], ['d'], ['e']], .directory), ([['c'], ['d']], .directory),
    ([['c']], .directory)]
  distinct := by decide
  named := by decide
  sound := by decide
  within := by decide

def otherRun : TreeRun := .start otherTree []

def otherReports : List Written :=
  [⟨['d'], "/c/d/Readme.md".toList, [⟨['e'], "No description.".toList⟩]⟩]

def otherLater : TreeRun := (otherRun.after (generate otherSettings)).2

theorem otherRun_relative : Relative otherSettings.sourceDirectory := by
  refine ⟨[['c']], ?_, rfl⟩
  intro name member
  rw [List.mem_singleton.1 member]
  exact ordinary_of_isName (by decide)

theorem otherRun_ordinary : Ordinary otherSettings.readmeName :=
  ordinary_readmeName ['/']

theorem otherRun_linkFree : otherRun.tree.LinkFree :=
  FileTree.linkFree_of_entries (by decide)

theorem otherRun_leads : otherRun.tree.Leads otherRun.working otherSettings.sourcePath [['c']] :=
  ⟨by decide, by decide⟩

theorem otherRun_directories : otherRun.tree.subdirectories [['c']] = [['d']] := by
  decide

theorem otherRun_generate :
    otherRun.after (generate otherSettings) = (.ok otherReports, otherLater) := by
  have reported : (otherRun.after (generate otherSettings)).1 = .ok otherReports := by
    decide +kernel
  rw [otherLater, ← reported]

theorem otherRun_page : ∃ description, otherLater.tree.node? [['c'], ['d'], "Readme.md".toList] =
    some (.file (Text.encode (compose ['d'] description [⟨['e'], "No description.".toList⟩]
      otherSettings.repositoryUrl))) := by
  obtain ⟨descriptions, source, _, leads, reported, tree_eq⟩ :=
    putFiles_of_generate otherRun_linkFree otherRun_ordinary otherRun_generate
  cases leads.found.symm.trans otherRun_leads.found
  have child : ['d'] ∈ otherRun.tree.subdirectories [['c']] := by
    rw [otherRun_directories]
    exact List.mem_singleton_self ['d']
  have reports := written_eq leads otherRun_linkFree otherRun_ordinary reported
  rw [otherRun_directories] at reports
  have entries : entriesBelow otherRun.tree otherSettings.readmeName ([['c']] ++ [['d']]) =
      [⟨['e'], "No description.".toList⟩] :=
    (congrArg Written.entries (List.cons.inj reports).1).symm
  have member : pageBelow otherSettings descriptions otherRun.tree [['c']] ['d'] ∈
      pages otherSettings descriptions otherRun.tree otherRun.working
        (directoriesOf otherSettings otherRun.tree [['c']]) := by
    rw [pages_eq descriptions leads otherRun_linkFree otherRun_ordinary reported]
    exact List.mem_map.2 ⟨['d'], child, rfl⟩
  have held := node?_putFiles_pages descriptions leads otherRun_linkFree otherRun_ordinary reported
    member
  rw [← tree_eq, pageBelow, entries] at held
  exact ⟨descriptions.resolve ['d'], held⟩

/-- The one readme of the run has a link into `src`, where nothing has been listed. -/
theorem generate_links_into_src_otherRun :
    Relative otherSettings.sourceDirectory ∧
    ∃ page description, otherLater.tree = otherRun.tree.putFiles [page] ∧
      otherLater.tree.target otherRun.working "/c/d/Readme.md".toList = .ok page.1 ∧
      page.2 = Text.encode (linkedPage
        (fun other => repositoryLink otherSettings ("src/".toList ++ ['d'] ++ ['/'] ++ other))
        ['d'] description [⟨['e'], "No description.".toList⟩]) ∧
      repositoryLink otherSettings ("src/".toList ++ ['d'] ++ ['/'] ++ ['e']) ≠
        repositoryLink otherSettings "c/d/e".toList := by
  obtain ⟨readmes, pages, tree_eq, reached, made⟩ :=
    generate_links_into_src otherRun_relative otherRun
  rw [otherRun_generate] at tree_eq reached made
  obtain rfl : readmes = otherReports := by
    rcases reached with ⟨⟨_, failed⟩, _⟩ | ⟨source, _, reached⟩
    · cases failed
    · cases reached
      rfl
  obtain ⟨page, _, ⟨descriptions, _, _, _, _, _, place, _, content, links⟩, others, rfl⟩ :=
    List.forall₂_cons_left_iff.1 made
  obtain rfl := List.forall₂_nil_left_iff.1 others
  have different := mt (links _ List.mem_cons_self).1 (by decide)
  exact ⟨otherRun_relative, page, _, tree_eq, place, content, different⟩

/-- The links of a readme do not follow the name of the source directory. -/
theorem generate_links_not_followed :
    ¬ ∀ (settings : Settings) (run later : TreeRun) (written : List Written) (source : Location),
        Relative settings.sourceDirectory → run.tree.LinkFree →
        Ordinary settings.readmeName →
        run.tree.Leads run.working settings.sourcePath source →
        run.after (generate settings) = (.ok written, later) →
        ∀ readme ∈ written, ∃ description,
          later.tree.node? (source ++ [readme.name, settings.readmeName]) =
            some (.file (Text.encode (linkedPage
              (fun entry => repositoryLink settings
                ((settings.sourceDirectory.join readme.name).join entry))
              readme.name description readme.entries))) := by
  intro follow
  obtain ⟨asked, held⟩ := follow otherSettings otherRun otherLater otherReports [['c']]
    otherRun_relative otherRun_linkFree otherRun_ordinary otherRun_leads otherRun_generate _
    List.mem_cons_self
  obtain ⟨description, page⟩ := otherRun_page
  have sameBytes := Node.file.inj (Option.some.inj (page.symm.trans held))
  have sameText := congrArg Text.decodeLossy sameBytes
  rw [Text.decodeLossy_encode, Text.decodeLossy_encode, compose_eq_linkedPage] at sameText
  have inSrc := suffix_linkedPage
    (fun entry => repositoryLink otherSettings (pathInSrc ['d'] entry)) ['d'] description
    ⟨['e'], "No description.".toList⟩
  have inOther := suffix_linkedPage
    (fun entry => repositoryLink otherSettings
      ((otherSettings.sourceDirectory.join ['d']).join entry)) ['d'] asked
    ⟨['e'], "No description.".toList⟩
  rw [sameText] at inSrc
  have both := List.suffix_of_suffix_length_le inOther inSrc (by decide)
  exact absurd both (by decide)

end SourceCatalog.Readme
