import SourceCatalog.Workspace.Basic

/-!
# Collecting descriptions

The fragments of all subdirectories are read together. In whatever order the readings arrive,
the entries come out in the order of the listing, and if readings fail, the first one in that
order counts.
-/

namespace SourceCatalog.Readme

open Log (Event Span)

variable {m : Type → Type} [Monad m] [Workspace m]

structure Subdirectory where
  name : Text
  path : Path
  deriving DecidableEq, Repr

/-- The directories of a listing. Links count as what they are, not as what they lead to. -/
def subdirectoriesIn (directory : Path) (listing : List (Text × Kind)) : List Subdirectory :=
  (listing.filter fun (_, kind) => kind == .directory).map fun (name, _) =>
    ⟨name, directory.join name⟩

def listSubdirectories (directory : Path) : Job m (List Subdirectory) := do
  return subdirectoriesIn directory (← Job.access directory (Workspace.list directory))

/-- What the reading of a fragment brought; a reading that never arrived is a fault. -/
def arrived (path : Path) (arrivals : List Arrival) (index : Nat) :
    Except Fault (Option Text) :=
  match arrivals.find? (·.index == index) with
  | some arrival => (Job.orMissing path arrival.outcome).map fun bytes => bytes.map Text.decodeLossy
  | none => .error (.task "a reading never arrived".toList)

def entriesFrom (fragment : Text) (arrivals : List Arrival) :
    Nat → List Subdirectory → Except Fault (List Entry)
  | _, [] => .ok []
  | index, subdirectory :: others =>
    match arrived (subdirectory.path.join fragment) arrivals index with
    | .error fault => .error fault
    | .ok text =>
      (entriesFrom fragment arrivals (index + 1) others).map fun entries =>
        Entry.ofFragment subdirectory.name text :: entries

/-- The events of the fragments that are missing, in order of arrival. -/
def missingFragments (paths : List Path) (arrivals : List Arrival) : List Event :=
  arrivals.filterMap fun arrival =>
    match arrival.outcome with
    | .error .notFound => (paths[arrival.index]?).map (Job.missingFile [])
    | _ => none

def collectionSpans (outer : List Span) (directory : Path) : List Span :=
  outer ++ [{
    name := "collect_descriptions".toList
    target := "typesharp_readme::collect".toList
    fields := [.plain "dir" directory] }]

def collectionEvent (spans : List Span) (message : String) (fields : List Log.Field) : Event where
  level := .debug
  target := "typesharp_readme::collect".toList
  message := message.toList
  fields := fields
  spans := spans

def readEntries (spans : List Span) (fragment : Text) (found : List Subdirectory) :
    Job m (List Entry) := do
  let paths := found.map fun subdirectory => subdirectory.path.join fragment
  let arrivals ← ExceptT.lift (Workspace.readTogether paths)
  (missingFragments paths arrivals).forM Job.record
  let entries ← Job.settle (entriesFrom fragment arrivals 0 found)
  Job.record
    (collectionEvent spans "descriptions collected" [.count "count" entries.length])
  return entries

/-- Collect the entries of a directory. A missing directory has none. -/
def collect (outer : List Span) (directory : Path) (fragment : Text) : Job m (List Entry) := do
  let spans := collectionSpans outer directory
  match ← ExceptT.lift (Workspace.list directory) with
  | .ok listing => readEntries spans fragment (subdirectoriesIn directory listing)
  | .error .notFound =>
    Job.record (collectionEvent spans "directory does not exist, no descriptions" [])
    return []
  | .error obstacle => throw (.access directory obstacle)

end SourceCatalog.Readme
