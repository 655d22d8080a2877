import SourceCatalog.FileTree.Arrange
import SourceCatalog.Keyword.Dump
import SourceCatalog.Proofs.Workspace.Looking

/-!
# Dumping all or nothing

A dump that fails leaves the tree as it was. A dump that succeeds changes one file, and writes
there the document of the enumeration as it stood before. Unless it has written a place that the
loading of the settings or the reading of the enumeration depends on, the next dump does the
same again.
-/

namespace SourceCatalog.Keyword

/-- What a dump finds before it writes: the source text, the records with their document, and
the place for the file. -/
structure Finds (tree : FileTree) (working : Location) (settings : Settings) (output : Path)
    (format : Format) (source : Text) (records : List Record) (text : Text)
    (location : Location) : Prop where
  reads : textFrom settings.keywordPath (tree.read working settings.keywordPath) = .ok source
  extracts : document source format = .ok (records, text)
  place : tree.target working (settings.resolve output) = .ok location

variable {run later : TreeRun} {settings : Settings} {output root : Path} {format : Format}
  {source text : Text} {records : List Record} {location : Location}

/-- A dump that finds everything writes its file. -/
theorem after_dump_of_finds
    (finds : Finds run.tree run.working settings output format source records text location) :
    ∃ later, run.after (dump settings output format) =
        (.ok ⟨settings.resolve output, records⟩, later) ∧
      later.tree = run.tree.put location (.file (Text.encode text)) ∧
      later.working = run.working := by
  obtain ⟨middle, still, ends⟩ := (Looks.readText settings.keywordPath).after_bind run _
  rw [dump, ends, finds.reads]
  dsimp only
  rw [TreeRun.after_settle_bind, finds.extracts]
  dsimp only
  rw [TreeRun.after_record_bind, TreeRun.after_bind, TreeRun.after_writeText]
  dsimp only
  rw [still.tree, still.working, finds.place]
  exact ⟨_, rfl, rfl, rfl⟩

/-- Either a dump fails before it writes, or it finds what it writes. -/
theorem after_dump_cases (run : TreeRun) (settings : Settings) (output : Path)
    (format : Format) :
    (∃ fault later, run.after (dump settings output format) = (.error fault, later) ∧
      run.Still later) ∨
    ∃ source records text location,
      Finds run.tree run.working settings output format source records text location := by
  obtain ⟨middle, still, ends⟩ := (Looks.readText settings.keywordPath).after_bind run _
  rw [dump, ends]
  cases reads : textFrom settings.keywordPath (run.tree.read run.working settings.keywordPath) with
  | error fault => exact Or.inl ⟨fault, middle, rfl, still⟩
  | ok source =>
    dsimp only
    rw [TreeRun.after_settle_bind]
    cases extracts : document source format with
    | error fault => exact Or.inl ⟨fault, middle, rfl, still⟩
    | ok found =>
      obtain ⟨records, text⟩ := found
      dsimp only
      rw [TreeRun.after_record_bind, TreeRun.after_bind, TreeRun.after_writeText]
      dsimp only
      rw [still.tree, still.working]
      cases place : run.tree.target run.working (settings.resolve output) with
      | error obstacle =>
        exact Or.inl ⟨_, _, rfl, ⟨rfl, rfl, still.progress⟩⟩
      | ok location =>
        exact Or.inr ⟨source, records, text, location, reads, extracts, place⟩

def dumpProject (root output : Path) (format : Format) : Job (StateM TreeRun) Dump := do
  let settings ← Settings.load root
  dump settings output format

theorem after_dumpProject_of_finds
    (loaded : (run.after (Settings.load root)).1 = .ok settings)
    (finds : Finds run.tree run.working settings output format source records text location) :
    ∃ later, run.after (dumpProject root output format) =
        (.ok ⟨root.join output, records⟩, later) ∧
      later.tree = run.tree.put location (.file (Text.encode text)) ∧
      later.working = run.working := by
  obtain ⟨middle, still, ends⟩ := (Settings.looks_load root).after_bind run
    fun settings => dump settings output format
  rw [← (Settings.looks_load root).outcome run] at ends
  have sameRoot : settings.resolve output = root.join output := by
    rw [Settings.resolve, root_of_load loaded]
  rw [dumpProject, ends, loaded, ← sameRoot]
  rw [← still.tree, ← still.working] at finds ⊢
  exact after_dump_of_finds finds

/-- A run either changes nothing, or finds everything and writes the file. -/
theorem after_dumpProject_cases (run : TreeRun) (root output : Path) (format : Format) :
    (∃ fault later, run.after (dumpProject root output format) = (.error fault, later) ∧
      run.Still later) ∨
    ∃ settings source records text location,
      (run.after (Settings.load root)).1 = .ok settings ∧
      Finds run.tree run.working settings output format source records text location := by
  obtain ⟨middle, still, ends⟩ := (Settings.looks_load root).after_bind run
    fun settings => dump settings output format
  rw [← (Settings.looks_load root).outcome run] at ends
  rw [dumpProject, ends]
  cases loaded : (run.after (Settings.load root)).1 with
  | error fault => exact Or.inl ⟨fault, middle, rfl, still⟩
  | ok settings =>
    rcases after_dump_cases middle settings output format with
      ⟨fault, later, failed, stillLater⟩ | ⟨source, records, text, location, finds⟩
    · exact Or.inl ⟨fault, later, failed, still.trans stillLater⟩
    · rw [still.tree, still.working] at finds
      exact Or.inr ⟨settings, source, records, text, location, rfl, finds⟩

/-- The next dump of a project finds the same, if the file that was written matters neither for
the settings nor for the source text. -/
theorem after_dumpProject_again {again : TreeRun}
    (loaded : (run.after (Settings.load root)).1 = .ok settings)
    (finds : Finds run.tree run.working settings output format source records text location)
    (sameTree : again.tree = run.tree.put location (.file (Text.encode text)))
    (sameWorking : again.working = run.working)
    (apart : location ∉ run.tree.visited run.working (Settings.filePath root))
    (notSource :
      run.tree.locate .use run.working settings.keywordPath ≠ .ok (.taken location)) :
    ∃ last, again.after (dumpProject root output format) =
        (.ok ⟨root.join output, records⟩, last) ∧
      last.tree = again.tree := by
  have vacant := FileTree.vacant_of_target finds.place
  have fills : run.tree.Fills again.tree [location] := by
    rw [sameTree]
    exact (FileTree.Fills.refl run.tree).put vacant (Text.encode text)
  have loadedAgain : (again.after (Settings.load root)).1 = .ok settings := by
    rw [← loaded, (Settings.looks_load root).outcome again, (Settings.looks_load root).outcome run,
      sameWorking]
    apply congrArg (Settings.loadFrom root)
    exact FileTree.read_of_agrees (fills.agrees (List.forall_mem_singleton.2 apart))
  have findsAgain :
      Finds again.tree again.working settings output format source records text location := by
    obtain ⟨bytes, read, _⟩ := textFrom_eq_ok_iff.1 finds.reads
    obtain ⟨place, located, _⟩ := FileTree.locate_of_read read
    have different : place ∉ [location] := by
      intro member
      rw [List.mem_singleton.1 member] at located
      exact notSource located
    refine ⟨?_, finds.extracts, ?_⟩
    · rw [sameWorking, fills.read located different]
      exact finds.reads
    · rw [sameWorking]
      exact fills.target finds.place
  obtain ⟨last, ends, lastTree, _⟩ := after_dumpProject_of_finds loadedAgain findsAgain
  refine ⟨last, ends, lastTree.trans ?_⟩
  have held : again.tree.node? location = some (.file (Text.encode text)) := by
    rw [sameTree]
    exact vacant.node?_put (Text.encode text)
  exact FileTree.put_eq_self vacant.below held

/-- A dump of a project changes nothing, or one file alone. The next dump does the same. -/
theorem dumpProject_atomic (run : TreeRun) (root output : Path) (format : Format) :
    (∀ fault later, run.after (dumpProject root output format) = (.error fault, later) →
      later.tree = run.tree) ∧
    ∀ dump later, run.after (dumpProject root output format) = (.ok dump, later) →
      ∃ settings bytes source text location,
        (run.after (Settings.load root)).1 = .ok settings ∧
        run.tree.read run.working settings.keywordPath = .ok bytes ∧
        Text.decode? bytes = some source ∧
        document source format = .ok (dump.records, text) ∧
        dump.path = root.join output ∧
        run.tree.target run.working (root.join output) = .ok location ∧
        later.tree.read run.working (root.join output) = .ok (Text.encode text) ∧
        later.tree.node? location = some (.file (Text.encode text)) ∧
        (∀ other, other ≠ location → later.tree.node? other = run.tree.node? other) ∧
        (location ∉ run.tree.visited run.working (Settings.filePath root) →
          run.tree.locate .use run.working settings.keywordPath ≠ .ok (.taken location) →
          ∀ again : TreeRun, again.tree = later.tree → again.working = run.working →
            ∃ last, again.after (dumpProject root output format) = (.ok dump, last) ∧
              last.tree = later.tree) := by
  rcases after_dumpProject_cases run root output format with
    ⟨fault, failed, ends, still⟩ | ⟨settings, source, records, text, location, loaded, finds⟩
  · rw [ends]
    constructor
    · rintro _ _ ⟨⟩
      exact still.tree
    · rintro _ _ ⟨⟩
  · obtain ⟨written, ends, tree, _⟩ := after_dumpProject_of_finds loaded finds
    rw [ends]
    constructor
    · rintro _ _ ⟨⟩
    · rintro _ _ ⟨⟩
      obtain ⟨bytes, read, decoded⟩ := textFrom_eq_ok_iff.1 finds.reads
      have place : run.tree.target run.working (root.join output) = .ok location := by
        have target := finds.place
        rw [Settings.resolve, root_of_load loaded] at target
        exact target
      have vacant := FileTree.vacant_of_target place
      have held : written.tree.node? location = some (.file (Text.encode text)) := by
        rw [tree]
        exact vacant.node?_put (Text.encode text)
      have fills : run.tree.Fills written.tree [location] := by
        rw [tree]
        exact (FileTree.Fills.refl run.tree).put vacant (Text.encode text)
      refine ⟨settings, bytes, source, text, location, loaded, read, decoded, finds.extracts,
        rfl, place, FileTree.read_of_target (fills.target place) held, held, ?_, ?_⟩
      · intro other different
        rw [tree]
        exact FileTree.node?_put_of_ne different _ _
      · intro apart notSource again sameTree sameWorking
        rw [← sameTree]
        exact after_dumpProject_again loaded finds (sameTree.trans tree) sameWorking apart
          notSource

/-! ## A bare project -/

def bareProject : FileTree :=
  FileTree.empty.arrangeFile [] "/src/compiler/typesharp_ast/keyword.rs".toList
    (Text.encode "enum KeyWord { If, }".toList)

def bareRun : TreeRun := .start bareProject []

theorem settings_bareProject :
    (bareRun.after (Settings.load ['/'])).1 = .ok (Settings.standing ['/']) := by
  have absent : bareRun.tree.read bareRun.working (Settings.filePath ['/']) =
      .error .notFound := by decide +kernel
  rw [(Settings.looks_load ['/']).outcome, absent]
  rfl

theorem finds_bareProject {output : Path} {location : Location}
    (place : bareProject.target [] ((Settings.standing ['/']).resolve output) = .ok location) :
    Finds bareProject [] (Settings.standing ['/']) output .text "enum KeyWord { If, }".toList
      [⟨"If".toList, "if".toList⟩] "Keywords:\n - If: \"if\"".toList location where
  reads := by decide +kernel
  extracts := by decide +kernel
  place := place

/-- A dump of the bare project to a file that nothing else needs. -/
theorem dumpProject_atomic_bareProject :
    ∃ later last,
      bareRun.after (dumpProject ['/'] "tokens.txt".toList .text) =
        (.ok ⟨"/tokens.txt".toList, [⟨"If".toList, "if".toList⟩]⟩, later) ∧
      later.tree.node? ["tokens.txt".toList] =
        some (.file (Text.encode "Keywords:\n - If: \"if\"".toList)) ∧
      later.after (dumpProject ['/'] "tokens.txt".toList .text) =
        (.ok ⟨"/tokens.txt".toList, [⟨"If".toList, "if".toList⟩]⟩, last) ∧
      last.tree = later.tree := by
  have place : bareProject.target [] (Path.join ['/'] "tokens.txt".toList) =
      .ok ["tokens.txt".toList] := by decide +kernel
  obtain ⟨later, ends, tree, working⟩ :=
    after_dumpProject_of_finds settings_bareProject (finds_bareProject place)
  obtain ⟨settings, bytes, source, text, location, loaded, _, _, _, _, target, _, _, _, repeats⟩ :=
    (dumpProject_atomic bareRun ['/'] "tokens.txt".toList .text).2 _ _ ends
  cases target.symm.trans place
  cases loaded.symm.trans settings_bareProject
  obtain ⟨last, endsLast, unchanged⟩ :=
    repeats (by decide +kernel) (by decide +kernel) later rfl working
  refine ⟨later, last, ends, ?_, endsLast, unchanged⟩
  rw [tree]
  exact (FileTree.vacant_of_target place).node?_put _

/-- A dump can take the place of the settings' directory, if there is none. Then the settings
cannot be looked for any more, and the next dump fails. -/
theorem dumpProject_not_repeatable :
    ¬ ∀ (run later : TreeRun) (root output : Path) (format : Format) (settings : Settings)
        (dump : Dump) (location : Location),
      (run.after (Settings.load root)).1 = .ok settings →
      run.after (dumpProject root output format) = (.ok dump, later) →
      run.tree.target run.working (root.join output) = .ok location →
      later.tree.locate .use run.working settings.keywordPath ≠ .ok (.taken location) →
      later.tree.locate .use run.working (Settings.filePath root) ≠ .ok (.taken location) →
      ∃ last, later.after (dumpProject root output format) = (.ok dump, last) ∧
        last.tree = later.tree := by
  intro repeatable
  have place : bareProject.target [] (Path.join ['/'] "scripts".toList) =
      .ok ["scripts".toList] := by decide +kernel
  obtain ⟨later, ends, tree, working⟩ :=
    after_dumpProject_of_finds settings_bareProject (finds_bareProject place)
  have source : later.tree.locate .use [] (Settings.standing ['/']).keywordPath ≠
      .ok (.taken ["scripts".toList]) := by
    rw [tree]
    decide +kernel
  have noFile : later.tree.locate .use bareRun.working (Settings.filePath ['/']) =
      .error .notDirectory := by
    rw [tree]
    decide +kernel
  have notFile : later.tree.locate .use bareRun.working (Settings.filePath ['/']) ≠
      .ok (.taken ["scripts".toList]) := by
    rw [noFile]
    exact nofun
  obtain ⟨last, endsLast, _⟩ := repeatable bareRun later ['/'] "scripts".toList .text _ _ _
    settings_bareProject ends place source notFile
  rcases after_dumpProject_cases later ['/'] "scripts".toList .text with
    ⟨_, _, failed, _⟩ | ⟨settings, _, _, _, _, loaded, _⟩
  · cases failed.symm.trans endsLast
  · rw [(Settings.looks_load ['/']).outcome, working, FileTree.read, noFile] at loaded
    cases loaded

end SourceCatalog.Keyword
