import SourceCatalog.Fault
import SourceCatalog.FileTree.Basic
import SourceCatalog.Log.Event
import SourceCatalog.Readme.Entry
import SourceCatalog.Text.Utf8

/-!
# Workspaces

A workspace is the outside of a run: files, a log, and someone who watches the progress. The
jobs of this library run in any monad that offers it, so the same job works on the files of
the machine and on a file tree that is a plain value.
-/

namespace SourceCatalog

open Log (Event Span)

/-- The result of one of several readings that are under way together: which one it was, and
what it brought. -/
structure Arrival where
  index : Nat
  outcome : Except Obstacle (List UInt8)

class Workspace (m : Type → Type) where
  read : Path → m (Except Obstacle (List UInt8))
  write : Path → List UInt8 → m (Except Obstacle Unit)
  /-- The names in a directory, in an order that the workspace chooses, with their kinds. -/
  list : Path → m (Except Obstacle (List (Text × Kind)))
  /-- Read several files together. Each reading arrives once, in an order that the workspace
  chooses. -/
  readTogether : List Path → m (List Arrival)
  record : Event → m Unit
  announce : Readme.Progress → m Unit

/-- A part of a run, which may fail. -/
abbrev Job (m : Type → Type) (α : Type) := ExceptT Fault m α

namespace Job

variable {m : Type → Type} [Monad m] [Workspace m] {α : Type}

def access (path : Path) (action : m (Except Obstacle α)) : Job m α := do
  match ← action with
  | .ok result => return result
  | .error obstacle => throw (.access path obstacle)

def record (event : Event) : Job m Unit :=
  ExceptT.lift (Workspace.record event)

def announce (progress : Readme.Progress) : Job m Unit :=
  ExceptT.lift (Workspace.announce progress)

def settle (result : Except Fault α) : Job m α :=
  ExceptT.mk (pure result)

def missingFile (spans : List Span) (path : Path) : Event :=
  { level := .trace
    target := "typesharp_scripts_shared::fs".toList
    message := "optional file not found".toList
    fields := [.quoted "path" path]
    spans }

def strict (bytes : List UInt8) : Except Obstacle Text :=
  match Text.decode? bytes with
  | some text => .ok text
  | none => .error .notText

def readText (path : Path) : Job m Text := do
  let bytes ← access path (Workspace.read path)
  access path (pure (strict bytes))

/-- What a reading brought of a file that may be missing. -/
def orMissing (path : Path) : Except Obstacle α → Except Fault (Option α)
  | .ok content => .ok (some content)
  | .error .notFound => .ok none
  | .error obstacle => .error (.access path obstacle)

def readOptionalBytes (spans : List Span) (path : Path) : Job m (Option (List UInt8)) := do
  match ← settle (orMissing path (← ExceptT.lift (Workspace.read path))) with
  | some bytes => return some bytes
  | none =>
    record (missingFile spans path)
    return none

/-- Read a text that may be missing. Bytes that are no text are replaced. -/
def readLossy (spans : List Span) (path : Path) : Job m (Option Text) := do
  return (← readOptionalBytes spans path).map Text.decodeLossy

/-- Read a text that may be missing. Bytes that are no text end the run. -/
def readStrict (spans : List Span) (path : Path) : Job m (Option Text) := do
  match ← readOptionalBytes spans path with
  | some bytes => return some (← access path (pure (strict bytes)))
  | none => return none

def writeText (path : Path) (text : Text) : Job m Unit :=
  access path (Workspace.write path (Text.encode text))

end Job

end SourceCatalog
