import Mathlib.Data.List.Perm.Basic
import SourceCatalog.Proofs.Workspace.Looking
import SourceCatalog.Readme.Collection

/-!
# Collecting in any order

However the readings of a collection are scheduled, each of them arrives once. So a collection
finds what reading one fragment after the other would find, and the first failure in the order
of the listing counts.
-/

namespace SourceCatalog

variable {α : Type}

theorem perm_scheduled (schedule : List Nat) (pending : List α) :
    (scheduled schedule pending).Perm pending := by
  induction schedule generalizing pending with
  | nil => exact List.Perm.refl pending
  | cons choice later inductionHypothesis =>
    rw [scheduled]
    cases pending with
    | nil => exact List.Perm.refl []
    | cons first others =>
      have inRange : choice % (first :: others).length < (first :: others).length :=
        Nat.mod_lt _ (Nat.succ_pos _)
      rw [List.getElem?_eq_getElem inRange]
      exact ((inductionHypothesis _).cons _).trans (List.getElem_cons_eraseIdx_perm inRange)

/-- An arrival is found by its index. -/
theorem find?_index {arrivals : List Arrival} {arrival : Arrival}
    (distinct : (arrivals.map Arrival.index).Nodup) (member : arrival ∈ arrivals) :
    arrivals.find? (·.index == arrival.index) = some arrival := by
  induction arrivals with
  | nil => cases member
  | cons first others inductionHypothesis =>
    rw [List.map_cons, List.nodup_cons] at distinct
    rcases List.mem_cons.1 member with rfl | later
    · rw [List.find?_cons_of_pos (by simp)]
    · have different : first.index ≠ arrival.index := by
        intro same
        exact distinct.1 (List.mem_map.2 ⟨arrival, later, same.symm⟩)
      rw [List.find?_cons_of_neg (by simpa using different)]
      exact inductionHypothesis distinct.2 later

/-- Every reading arrives, whatever the schedule. -/
theorem find?_readings (run : TreeRun) (schedule : List Nat) {paths : List Path} {index : Nat}
    {path : Path} (asked : paths[index]? = some path) :
    (scheduled schedule (run.readings paths)).find? (·.index == index) =
      some ⟨index, run.tree.read run.working path⟩ := by
  have arrives := perm_scheduled schedule (run.readings paths)
  have indices : (run.readings paths).map Arrival.index = List.range paths.length := by
    apply List.ext_getElem
    · simp [TreeRun.readings]
    · intro place _ _
      simp [TreeRun.readings]
  have distinct : ((scheduled schedule (run.readings paths)).map Arrival.index).Nodup := by
    rw [(arrives.map Arrival.index).nodup_iff, indices]
    exact List.nodup_range
  have member : ⟨index, run.tree.read run.working path⟩ ∈ run.readings paths := by
    obtain ⟨inRange, there⟩ := List.getElem?_eq_some_iff.1 asked
    exact List.mem_mapIdx.2 ⟨index, inRange, by rw [there]⟩
  exact find?_index distinct (arrives.mem_iff.2 member)

namespace Readme

def fragmentOf (fragment : Text) (tree : FileTree) (working : Location)
    (subdirectory : Subdirectory) : Except Fault (Option Text) :=
  let path := subdirectory.path.join fragment
  (Job.orMissing path (tree.read working path)).map fun bytes => bytes.map Text.decodeLossy

def entryOf (fragment : Text) (tree : FileTree) (working : Location)
    (subdirectory : Subdirectory) : Except Fault Entry :=
  (fragmentOf fragment tree working subdirectory).map (Entry.ofFragment subdirectory.name)

/-- The entries of a directory, given what listing it brought. A missing one has none. -/
def entriesIn (directory : Path) (fragment : Text) (tree : FileTree) (working : Location) :
    Except Obstacle (List (Text × Kind)) → Except Fault (List Entry)
  | .ok listing => (subdirectoriesIn directory listing).mapM (entryOf fragment tree working)
  | .error .notFound => .ok []
  | .error obstacle => .error (.access directory obstacle)

def entriesOf (directory : Path) (fragment : Text) (tree : FileTree) (working : Location) :
    Except Fault (List Entry) :=
  entriesIn directory fragment tree working (tree.list working directory)

variable {run : TreeRun} {fragment : Text}

theorem entriesFrom_eq_mapM {arrivals : List Arrival} {start : Nat} {found : List Subdirectory}
    {tree : FileTree} {working : Location}
    (arrives : ∀ index subdirectory, found[index]? = some subdirectory →
      arrived (subdirectory.path.join fragment) arrivals (start + index) =
        fragmentOf fragment tree working subdirectory) :
    entriesFrom fragment arrivals start found =
      found.mapM (entryOf fragment tree working) := by
  induction found generalizing start with
  | nil => rfl
  | cons first others inductionHypothesis =>
    have here := arrives 0 first rfl
    rw [Nat.add_zero] at here
    rw [entriesFrom, here, List.mapM_cons, entryOf, inductionHypothesis]
    · cases fragmentOf fragment tree working first with
      | error fault => rfl
      | ok text =>
        dsimp only
        cases others.mapM (entryOf fragment tree working) <;> rfl
    · intro index subdirectory there
      rw [Nat.add_assoc, Nat.add_comm 1 index]
      exact arrives (index + 1) subdirectory there

/-- Whatever the schedule, the readings bring the entries of all subdirectories. -/
theorem entriesFrom_readings (run : TreeRun) (schedule : List Nat) (fragment : Text)
    (found : List Subdirectory) :
    entriesFrom fragment (scheduled schedule (run.readings
        (found.map fun subdirectory => subdirectory.path.join fragment))) 0 found =
      found.mapM (entryOf fragment run.tree run.working) := by
  apply entriesFrom_eq_mapM
  intro index subdirectory there
  have asked : (found.map fun subdirectory => subdirectory.path.join fragment)[index]? =
      some (subdirectory.path.join fragment) := by
    rw [List.getElem?_map, there]
    rfl
  rw [arrived, Nat.zero_add, find?_readings run schedule asked]
  rfl

theorem looks_forM_record (events : List Log.Event) :
    Looks (events.forM Job.record) fun _ _ => .ok () := by
  induction events with
  | nil => exact Looks.pure ()
  | cons event others inductionHypothesis =>
    exact (Looks.record event).bind fun _ => inductionHypothesis

/-- The order of arrival does not show in the entries. -/
theorem looks_readEntries (spans : List Log.Span) (fragment : Text) (found : List Subdirectory) :
    Looks (readEntries spans fragment found) fun tree working =>
      found.mapM (entryOf fragment tree working) := by
  intro run
  let paths := found.map fun subdirectory => subdirectory.path.join fragment
  let arrivals := scheduled run.schedule (run.readings paths)
  have entries : entriesFrom fragment arrivals 0 found =
      found.mapM (entryOf fragment run.tree run.working) :=
    entriesFrom_readings run run.schedule fragment found
  let reader : TreeRun := { run with schedule := run.schedule.drop paths.length }
  have together : run.after (ExceptT.lift (Workspace.readTogether paths)) =
      (.ok arrivals, reader) := rfl
  have first : run.Still reader := ⟨rfl, rfl, rfl⟩
  obtain ⟨logged, second, ends⟩ :=
    (looks_forM_record (missingFragments paths arrivals)).after_bind reader fun _ => do
      let entries ← Job.settle (entriesFrom fragment arrivals 0 found)
      Job.record
        (collectionEvent spans "descriptions collected" [.count "count" entries.length])
      return entries
  have still := first.trans second
  rw [readEntries, TreeRun.after_bind, together]
  dsimp only
  rw [ends]
  dsimp only
  rw [TreeRun.after_settle_bind, entries]
  cases found.mapM (entryOf fragment run.tree run.working) with
  | error fault => exact ⟨logged, rfl, still⟩
  | ok collected =>
    exact ⟨_, rfl, ⟨still.tree, still.working, still.progress⟩⟩

def collectListed (spans : List Log.Span) (directory : Path) (fragment : Text) :
    Except Obstacle (List (Text × Kind)) → Job (StateM TreeRun) (List Entry)
  | .ok listing => readEntries spans fragment (subdirectoriesIn directory listing)
  | .error .notFound => do
    Job.record (collectionEvent spans "directory does not exist, no descriptions" [])
    return []
  | .error obstacle => throw (.access directory obstacle)

/-- What a collection finds does not depend on the order in which its readings arrive. -/
theorem looks_collect (outer : List Log.Span) (directory : Path) (fragment : Text) :
    Looks (collect outer directory fragment) (entriesOf directory fragment) := by
  have next (listed : Except Obstacle (List (Text × Kind))) :
      Looks (collectListed (collectionSpans outer directory) directory fragment listed)
        fun tree working => entriesIn directory fragment tree working listed := by
    rcases listed with obstacle | listing
    · cases obstacle with
      | notFound => exact (Looks.record _).bind fun _ => Looks.pure []
      | _ => exact Looks.throw _
    · exact looks_readEntries _ fragment (subdirectoriesIn directory listing)
  exact (Looks.list directory).bind next

end Readme

end SourceCatalog
