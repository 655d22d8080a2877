import SourceCatalog.FileTree.Arrange
import SourceCatalog.Proofs.Readme.Entries

/-!
# Collections under every schedule

Every order in which readings can arrive is that of some schedule, and under each of them a
collection comes to what reading one fragment after the other comes to. The outcome can be told
as soon as the readings up to the first failure in the order of the listing are there.
-/

namespace SourceCatalog

variable {α β ε : Type}

/-- Every order is that of some schedule. -/
theorem exists_schedule {order pending : List α} (permutation : order.Perm pending) :
    ∃ schedule, scheduled schedule pending = order := by
  induction order generalizing pending with
  | nil =>
    have nothing : pending = [] := List.nil_perm.1 permutation
    exact ⟨[], nothing⟩
  | cons first others inductionHypothesis =>
    have member : first ∈ pending := permutation.mem_iff.1 List.mem_cons_self
    obtain ⟨place, inRange, found⟩ := List.getElem_of_mem member
    have exposed : (first :: pending.eraseIdx place).Perm pending := by
      rw [← found]
      exact List.getElem_cons_eraseIdx_perm inRange
    have rest : others.Perm (pending.eraseIdx place) :=
      (permutation.trans exposed.symm).cons_inv
    obtain ⟨later, ofLater⟩ := inductionHypothesis rest
    have inTurn : place % pending.length = place := Nat.mod_eq_of_lt inRange
    refine ⟨place :: later, ?_⟩
    rw [scheduled, inTurn, List.getElem?_eq_getElem inRange, found]
    dsimp only
    rw [ofLater]

section Results

variable {work : α → Except ε β}

theorem mapM_eq_ok_of_forall {result : α → β} {items : List α}
    (fine : ∀ item ∈ items, work item = .ok (result item)) :
    items.mapM work = .ok (items.map result) := by
  induction items with
  | nil => rfl
  | cons first others inductionHypothesis =>
    have later := inductionHypothesis fun item member =>
      fine item (List.mem_cons_of_mem first member)
    exact mapM_cons_eq_ok_iff.2 ⟨_, _, fine first List.mem_cons_self, later, rfl⟩

/-- Of several errors the first one counts. -/
theorem mapM_eq_error_of_first {result : α → β} {before after : List α} {failing : α}
    {fault : ε} (fine : ∀ item ∈ before, work item = .ok (result item))
    (failed : work failing = .error fault) :
    (before ++ failing :: after).mapM work = .error fault := by
  rw [List.mapM_append, mapM_eq_ok_of_forall fine, List.mapM_cons, failed]
  rfl

/-- A failure is that of some item. -/
theorem exists_of_mapM_eq_error {items : List α} {fault : ε}
    (failed : items.mapM work = .error fault) : ∃ item ∈ items, work item = .error fault := by
  induction items with
  | nil => cases failed
  | cons first others inductionHypothesis =>
    rw [List.mapM_cons] at failed
    cases here : work first with
    | error reason =>
      rw [here] at failed
      cases failed
      exact ⟨first, List.mem_cons_self, here⟩
    | ok value =>
      cases later : others.mapM work with
      | error reason =>
        rw [here, later] at failed
        cases failed
        obtain ⟨item, member, found⟩ := inductionHypothesis later
        exact ⟨item, List.mem_cons_of_mem first member, found⟩
      | ok values =>
        rw [here, later] at failed
        cases failed

end Results

theorem Looks.mapM {items : List α} {job : α → Job (StateM TreeRun) β}
    {found : α → FileTree → Location → Except Fault β}
    (looks : ∀ item, Looks (job item) (found item)) :
    Looks (items.mapM job) fun tree working =>
      items.mapM fun item => found item tree working := by
  induction items with
  | nil => exact Looks.pure []
  | cons first others inductionHypothesis =>
    have parts := (looks first).bind fun result =>
      inductionHypothesis.bind fun more => Looks.pure (result :: more)
    intro run
    rw [List.mapM_cons]
    dsimp only
    rw [List.mapM_cons]
    exact parts run

namespace Readme

variable {fragment : Text} {run : TreeRun}

section InTurn

variable {m : Type → Type} [Monad m] [Workspace m]

def readEntry (fragment : Text) (child : Subdirectory) : Job m Entry := do
  let text ← Job.readLossy [] (child.path.join fragment)
  return Entry.ofFragment child.name text

def collectInTurn (directory : Path) (fragment : Text) : Job m (List Entry) := do
  match ← ExceptT.lift (Workspace.list directory) with
  | .ok listing => (subdirectoriesIn directory listing).mapM (readEntry fragment)
  | .error .notFound => return []
  | .error obstacle => throw (.access directory obstacle)

end InTurn

theorem looks_readEntry (fragment : Text) (child : Subdirectory) :
    Looks (readEntry fragment child) (entryOf fragment · · child) := by
  have parts := (looks_readLossy [] (child.path.join fragment)).bind fun text =>
    Looks.pure (Entry.ofFragment child.name text)
  refine parts.congr fun tree working => ?_
  rw [entryOf, fragmentOf]
  cases Job.orMissing (child.path.join fragment)
      (tree.read working (child.path.join fragment)) with
  | error fault => rfl
  | ok bytes => rfl

theorem looks_collectInTurn (directory : Path) (fragment : Text) :
    Looks (collectInTurn directory fragment) (entriesOf directory fragment) := by
  refine (Looks.list directory).bind fun listed =>
    (?_ : Looks _ fun tree working => entriesIn directory fragment tree working listed)
  rcases listed with obstacle | listing
  · cases obstacle with
    | notFound => exact Looks.pure []
    | _ => exact Looks.throw _
  · exact Looks.mapM (looks_readEntry fragment)

/-- The fault of an outcome that cannot be told yet. -/
def awaiting : Fault :=
  .task "a reading never arrived".toList

theorem arrived_take (path : Path) (order : List Arrival) (count index : Nat) :
    arrived path (order.take count) index = .error awaiting ∨
      arrived path (order.take count) index = arrived path order index := by
  rw [arrived, arrived]
  cases found : (order.take count).find? (·.index == index) with
  | none => exact Or.inl rfl
  | some arrival =>
    have whole : order.find? (·.index == index) = some arrival := by
      rw [← List.take_append_drop count order, List.find?_append, found]
      rfl
    rw [whole]
    exact Or.inr rfl

/-- The readings that have arrived by some time already settle the outcome, or the next child of
the listing is still awaited. -/
theorem entriesFrom_take (fragment : Text) (order : List Arrival) (count start : Nat)
    (found : List Subdirectory) :
    entriesFrom fragment (order.take count) start found = .error awaiting ∨
      entriesFrom fragment (order.take count) start found =
        entriesFrom fragment order start found := by
  induction found generalizing start with
  | nil => exact Or.inr rfl
  | cons first others inductionHypothesis =>
    rw [entriesFrom, entriesFrom]
    rcases arrived_take (first.path.join fragment) order count start with waits | same
    · rw [waits]
      exact Or.inl rfl
    · rw [same]
      cases arrived (first.path.join fragment) order start with
      | error fault => exact Or.inr rfl
      | ok text =>
        dsimp only
        rcases inductionHypothesis (start + 1) with waits | sameLater
        · rw [waits]
          exact Or.inl rfl
        · rw [sameLater]
          exact Or.inr rfl

theorem entriesFrom_of_perm {order : List Arrival} {found : List Subdirectory}
    (permutation : order.Perm (run.readings
      (found.map fun subdirectory => subdirectory.path.join fragment))) :
    entriesFrom fragment order 0 found =
      found.mapM (entryOf fragment run.tree run.working) := by
  obtain ⟨schedule, rfl⟩ := exists_schedule permutation
  exact entriesFrom_readings run schedule fragment found

section Entry

variable {tree : FileTree} {working : Location} {child : Subdirectory}

theorem entryOf_of_missing (fine : ∀ obstacle,
    tree.read working (child.path.join fragment) = .error obstacle → obstacle = .notFound) :
    entryOf fragment tree working child =
      .ok (.ofFragment child.name
        ((tree.read working (child.path.join fragment)).toOption.map Text.decodeLossy)) := by
  rw [entryOf, fragmentOf]
  cases reading : tree.read working (child.path.join fragment) with
  | ok bytes => rfl
  | error obstacle =>
    rw [fine obstacle reading]
    rfl

theorem entryOf_of_obstacle {obstacle : Obstacle}
    (failed : tree.read working (child.path.join fragment) = .error obstacle)
    (present : obstacle ≠ .notFound) :
    entryOf fragment tree working child =
      .error (.access (child.path.join fragment) obstacle) := by
  rw [entryOf, fragmentOf, failed]
  cases obstacle with
  | notFound => exact absurd rfl present
  | _ => rfl

/-- The entry of a child can only fail for want of access. -/
theorem exists_access_of_entryOf {fault : Fault}
    (failed : entryOf fragment tree working child = .error fault) :
    ∃ path obstacle, fault = .access path obstacle := by
  by_cases fine : ∀ obstacle,
      tree.read working (child.path.join fragment) = .error obstacle → obstacle = .notFound
  · rw [entryOf_of_missing fine] at failed
    cases failed
  · push Not at fine
    obtain ⟨obstacle, reading, present⟩ := fine
    rw [entryOf_of_obstacle reading present] at failed
    cases failed
    exact ⟨_, obstacle, rfl⟩

theorem exists_access_of_entriesOf {directory : Path} {fault : Fault}
    (failed : entriesOf directory fragment tree working = .error fault) :
    ∃ path obstacle, fault = .access path obstacle := by
  rw [entriesOf] at failed
  cases listed : tree.list working directory with
  | ok listing =>
    rw [listed, entriesIn] at failed
    obtain ⟨child, _, childFailed⟩ := exists_of_mapM_eq_error failed
    exact exists_access_of_entryOf childFailed
  | error obstacle =>
    rw [listed] at failed
    cases obstacle with
    | notFound => cases failed
    | _ =>
      cases failed
      exact ⟨directory, _, rfl⟩

end Entry

/-! ## Collections -/

/-- No schedule changes what is collected. -/
theorem collect_under (run : TreeRun) (schedule : List Nat) (outer : List Log.Span)
    (directory : Path) (fragment : Text) :
    ({ run with schedule }.after (collect outer directory fragment)).1 =
      entriesOf directory fragment run.tree run.working :=
  (looks_collect outer directory fragment).outcome { run with schedule }

/-- Every order of arrival is that of some schedule, and under every schedule a collection comes
to what reading in turn comes to: nothing for a missing directory, one entry for each child that
is a directory, or the obstacle of the first child in the listing whose fragment is there and
cannot be read. No task is ever lost. -/
theorem collect_any_order (run : TreeRun) (outer : List Log.Span) (directory : Path)
    (fragment : Text) :
    (∀ paths order, order.Perm (run.readings paths) →
      ∃ schedule, scheduled schedule (run.readings paths) = order) ∧
    ∀ schedule : List Nat,
      let outcome := ({ run with schedule }.after (collect outer directory fragment)).1
      let reading (name : Text) :=
        run.tree.read run.working ((directory.join name).join fragment)
      outcome = (run.after (collectInTurn directory fragment)).1 ∧
      (run.tree.list run.working directory = .error .notFound → outcome = .ok []) ∧
      (∀ place, run.tree.Leads run.working directory place →
        let names := run.tree.subdirectories place
        names.Nodup ∧
        (∀ name, name ∈ names ↔ run.tree.node? (place ++ [name]) = some .directory) ∧
        ((∀ name ∈ names, ∀ obstacle, reading name = .error obstacle →
            obstacle = .notFound) →
          outcome = .ok (names.map fun name =>
            .ofFragment name ((reading name).toOption.map Text.decodeLossy))) ∧
        (∀ before failing after obstacle, names = before ++ failing :: after →
          (∀ name ∈ before, ∀ missing, reading name = .error missing →
            missing = .notFound) →
          reading failing = .error obstacle → obstacle ≠ .notFound →
          outcome = .error (.access ((directory.join failing).join fragment) obstacle)) ∧
        ∀ (order : List Arrival) (count : Nat),
          let children : List Subdirectory := names.map fun name => ⟨name, directory.join name⟩
          order.Perm (run.readings (children.map (·.path.join fragment))) →
          entriesFrom fragment (order.take count) 0 children = .error awaiting ∨
            entriesFrom fragment (order.take count) 0 children = outcome) ∧
      ∀ wording, outcome ≠ .error (.task wording) := by
  refine ⟨fun paths order => exists_schedule, ?_⟩
  intro schedule
  dsimp only
  rw [collect_under]
  refine ⟨?_, ?_, ?_, ?_⟩
  · obtain ⟨later, ends, _⟩ := looks_collectInTurn directory fragment run
    rw [ends]
  · intro missing
    rw [entriesOf, missing]
    rfl
  · intro place leads
    have outcome_eq : entriesOf directory fragment run.tree run.working =
        ((run.tree.subdirectories place).map fun name =>
          (⟨name, directory.join name⟩ : Subdirectory)).mapM
            (entryOf fragment run.tree run.working) := by
      rw [entriesOf, leads.list, entriesIn, subdirectoriesIn_children]
    rw [outcome_eq]
    refine ⟨run.tree.nodup_subdirectories place, ?_, ?_, ?_, ?_⟩
    · intro name
      exact FileTree.mem_subdirectories_iff.trans FileTree.isDirectory_iff
    · intro fine
      rw [List.mapM_map]
      exact mapM_eq_ok_of_forall fun name member => entryOf_of_missing (fine name member)
    · intro before failing after obstacle split fine failed present
      rw [split, List.mapM_map]
      exact mapM_eq_error_of_first
        (fun name member => entryOf_of_missing (fine name member))
        (entryOf_of_obstacle failed present)
    · intro order count permutation
      rw [← entriesFrom_of_perm permutation]
      exact entriesFrom_take fragment order count 0 _
  · intro wording failed
    obtain ⟨path, obstacle, equality⟩ := exists_access_of_entriesOf failed
    cases equality

/-- In the directory `d` the first child has a fragment, while in the two others a directory stands
where the fragment should. In `e` the first child has no fragment, and the second one has. -/
def tangledTree : FileTree :=
  ((((FileTree.empty.makeDirectories [] "/d/c/f".toList).makeDirectories []
    "/d/b/f".toList).arrangeFile [] "/d/a/f".toList
      (Text.encode "a\nThe part a.".toList)).arrangeFile [] "/e/h/f".toList
        (Text.encode "h\nThe part h.".toList)).makeDirectories [] "/e/g".toList

def tangledRun : TreeRun := .start tangledTree []

/-- Below `e` no fragment has anything wrong with it but that it is missing. -/
theorem fine_tangledRun : ∀ name ∈ tangledRun.tree.subdirectories [['e']], ∀ obstacle,
    tangledRun.tree.read tangledRun.working ((Path.join "/e".toList name).join ['f']) =
      .error obstacle → obstacle = .notFound := by
  have names : tangledRun.tree.subdirectories [['e']] = [['g'], ['h']] := by decide +kernel
  have absent : tangledRun.tree.read tangledRun.working "/e/g/f".toList =
      .error .notFound := by decide +kernel
  have readable : tangledRun.tree.read tangledRun.working "/e/h/f".toList =
      .ok (Text.encode "h\nThe part h.".toList) := by decide +kernel
  rw [names]
  intro name member obstacle failed
  rcases List.mem_cons.1 member with rfl | member
  · cases absent.symm.trans failed
    rfl
  · rw [List.mem_singleton.1 member] at failed
    cases readable.symm.trans failed

/-- In `d` the last reading of the listing fails first, and still it is the one before it that
counts. In `e` the fragment arrives before it is known that the other one is missing, and still the
entries stand in the order of the listing. -/
theorem collect_any_order_tangledRun :
    scheduled [2, 1] (tangledRun.readings ["/d/a/f".toList, "/d/b/f".toList, "/d/c/f".toList]) =
        [⟨2, .error .isDirectory⟩, ⟨1, .error .isDirectory⟩,
          ⟨0, .ok (Text.encode "a\nThe part a.".toList)⟩] ∧
      ({ tangledRun with schedule := [2, 1] }.after (collect [] "/d".toList ['f'])).1 =
        .error (.access "/d/b/f".toList .isDirectory) ∧
      scheduled [1] (tangledRun.readings ["/e/g/f".toList, "/e/h/f".toList]) =
        [⟨1, .ok (Text.encode "h\nThe part h.".toList)⟩, ⟨0, .error .notFound⟩] ∧
      ({ tangledRun with schedule := [1] }.after (collect [] "/e".toList ['f'])).1 =
        .ok [⟨['g'], "No description.".toList⟩, ⟨['h'], "The part h.".toList⟩] ∧
      ({ tangledRun with schedule := [1] }.after (collect [] "/k".toList ['f'])).1 = .ok [] := by
  refine ⟨rfl, ?_, rfl, ?_, ?_⟩
  · have leads : tangledRun.tree.Leads tangledRun.working "/d".toList [['d']] :=
      ⟨by decide +kernel, by decide +kernel⟩
    have split : tangledRun.tree.subdirectories [['d']] = [['a']] ++ ['b'] :: [['c']] := by
      decide +kernel
    have readable : tangledRun.tree.read tangledRun.working "/d/a/f".toList =
        .ok (Text.encode "a\nThe part a.".toList) := by decide +kernel
    have blocked : tangledRun.tree.read tangledRun.working "/d/b/f".toList =
        .error .isDirectory := by decide +kernel
    have fine : ∀ name ∈ [['a']], ∀ missing,
        tangledRun.tree.read tangledRun.working ((Path.join "/d".toList name).join ['f']) =
          .error missing → missing = .notFound := by
      intro name member missing failed
      rw [List.mem_singleton.1 member] at failed
      cases readable.symm.trans failed
    obtain ⟨_, goesOn⟩ := collect_any_order tangledRun [] "/d".toList ['f']
    obtain ⟨_, _, listed, _⟩ := goesOn [2, 1]
    obtain ⟨_, _, _, counts, _⟩ := listed _ leads
    exact counts _ _ _ _ split fine blocked (by decide)
  · have leads : tangledRun.tree.Leads tangledRun.working "/e".toList [['e']] :=
      ⟨by decide +kernel, by decide +kernel⟩
    have entries : (tangledRun.tree.subdirectories [['e']]).map (fun name =>
        Entry.ofFragment name ((tangledRun.tree.read tangledRun.working
          ((Path.join "/e".toList name).join ['f'])).toOption.map Text.decodeLossy)) =
        [⟨['g'], "No description.".toList⟩, ⟨['h'], "The part h.".toList⟩] := by decide +kernel
    obtain ⟨_, goesOn⟩ := collect_any_order tangledRun [] "/e".toList ['f']
    obtain ⟨_, _, listed, _⟩ := goesOn [1]
    obtain ⟨_, _, succeeds, _⟩ := listed _ leads
    exact (succeeds fine_tangledRun).trans (congrArg Except.ok entries)
  · have missing : tangledRun.tree.list tangledRun.working "/k".toList = .error .notFound := by
      decide +kernel
    obtain ⟨_, goesOn⟩ := collect_any_order tangledRun [] "/k".toList ['f']
    exact (goesOn [1]).2.1 missing

end Readme

end SourceCatalog
