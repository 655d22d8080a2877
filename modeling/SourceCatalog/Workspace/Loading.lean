import SourceCatalog.Descriptions
import SourceCatalog.Settings
import SourceCatalog.Workspace.Basic

/-!
# Loading settings and descriptions

Both come from files that may be missing. A file that is there must have its format.
-/

namespace SourceCatalog

open Log (Event Span)

variable {m : Type → Type} [Monad m] [Workspace m]

def missingSettings (spans : List Span) (message : String) (path : Path) : Event :=
  { level := .debug
    target := "typesharp_scripts_shared::config".toList
    message := message.toList
    fields := [.quoted "path" path]
    spans }

def Overrides.load (root : Path) : Job m (Option Overrides) := do
  let path := Settings.filePath root
  match ← Job.readStrict [] path with
  | none =>
    Job.record (missingSettings [] "scripts config not found, using defaults" path)
    return none
  | some document =>
    match Overrides.parse document with
    | .ok overrides => return some overrides
    | .error reason => throw (.malformed path reason)

def Settings.load (root : Path) : Job m Settings := do
  match ← Overrides.load root with
  | some overrides => return (Settings.standing root).apply overrides
  | none => return Settings.standing root

/-- The descriptions that a file gives; a missing file gives none. -/
def Descriptions.load (spans : List Span) (path : Path) : Job m Descriptions := do
  match ← Job.readStrict spans path with
  | none =>
    Job.record (missingSettings spans "description map not found, using defaults" path)
    return Descriptions.empty
  | some document =>
    match Descriptions.parse document with
    | .ok descriptions => return descriptions
    | .error refusal => throw (.malformed path (refusal.message document))

end SourceCatalog
