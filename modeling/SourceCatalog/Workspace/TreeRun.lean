import SourceCatalog.FileTree.Access
import SourceCatalog.Workspace.Basic

/-!
# Runs on a file tree

A file tree is a workspace, too. A run on it is a plain value: the tree as it is by now, what
has been logged and announced, and the order in which readings arrive. So a job becomes a
function from one such value to the next.
-/

namespace SourceCatalog

open Log (Event)

/-- A run on a file tree. The schedule says, arrival by arrival, which of the readings that are
still under way comes next, by its place among them. -/
structure TreeRun where
  tree : FileTree
  working : Location
  events : List Event
  progress : List Readme.Progress
  schedule : List Nat
  deriving DecidableEq, Repr

/-- The elements of a list in the order of a schedule. When the schedule is used up the rest
follows as it stands. -/
def scheduled {α : Type} : List Nat → List α → List α
  | [], pending => pending
  | choice :: later, pending =>
    let place := choice % pending.length
    match pending[place]? with
    | some next => next :: scheduled later (pending.eraseIdx place)
    | none => []

namespace TreeRun

def start (tree : FileTree) (working : Location) : TreeRun where
  tree := tree
  working := working
  events := []
  progress := []
  schedule := []

def readings (run : TreeRun) (paths : List Path) : List Arrival :=
  paths.mapIdx fun index path => ⟨index, run.tree.read run.working path⟩

def write (run : TreeRun) (path : Path) (content : List UInt8) :
    Except Obstacle Unit × TreeRun :=
  match run.tree.write run.working path content with
  | .ok tree => (.ok (), { run with tree })
  | .error obstacle => (.error obstacle, run)

instance : Workspace (StateM TreeRun) where
  read path := fun run => (run.tree.read run.working path, run)
  write path content := fun run => run.write path content
  list path := fun run => (run.tree.list run.working path, run)
  readTogether paths := fun run =>
    (scheduled run.schedule (run.readings paths),
      { run with schedule := run.schedule.drop paths.length })
  record event := fun run => ((), { run with events := run.events ++ [event] })
  announce progress := fun run => ((), { run with progress := run.progress ++ [progress] })

def after {α : Type} (run : TreeRun) (job : Job (StateM TreeRun) α) :
    Except Fault α × TreeRun :=
  StateT.run (ExceptT.run job) run

end TreeRun

end SourceCatalog
