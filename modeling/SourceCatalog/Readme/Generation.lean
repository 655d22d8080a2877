import SourceCatalog.Readme.Collection
import SourceCatalog.Readme.Page
import SourceCatalog.Workspace.Loading

/-!
# Generating readmes

Every directory directly in the source directory gets a readme. The directories are taken one
after the other; the first failure ends the run, and what is written by then stays.
-/

namespace SourceCatalog.Readme

open Log (Event Span)

variable {m : Type → Type} [Monad m] [Workspace m]

def runSpan (settings : Settings) : Span where
  name := "generate_readmes".toList
  target := "typesharp_readme".toList
  fields := [.plain "root" settings.root]

def runEvent (settings : Settings) (message : String) (fields : List Log.Field) : Event where
  level := .info
  target := "typesharp_readme".toList
  message := message.toList
  fields := fields
  spans := [runSpan settings]

def writtenEvent (spans : List Span) (path : Path) (text : Text) : Event where
  level := .debug
  target := "typesharp_readme::compose".toList
  message := "readme written".toList
  fields := [.plain "path" path, .count "bytes" text.byteLength]
  spans := spans

def writePage (spans : List Span) (directory : Path) (fileName text : Text) : Job m Path := do
  let path := directory.join fileName
  Job.writeText path text
  Job.record (writtenEvent spans path text)
  return path

def generateOne (settings : Settings) (descriptions : Descriptions)
    (directory : Subdirectory) : Job m Written := do
  let spans := [runSpan settings]
  let entries ← collect spans directory.path settings.readmeName
  let text :=
    compose directory.name (descriptions.resolve directory.name) entries settings.repositoryUrl
  let path ← writePage spans directory.path settings.readmeName text
  return ⟨directory.name, path, entries⟩

/-- Generate the readmes of some directories, of which the first is the given one of so many. -/
def generateFrom (settings : Settings) (descriptions : Descriptions) (total : Nat) :
    Nat → List Subdirectory → Job m (List Written)
  | _, [] => return []
  | position, directory :: others => do
    Job.announce (.started directory.name position total)
    Job.record (runEvent settings "generating readme" [.plain "name" directory.name])
    let written ← generateOne settings descriptions directory
    let later ← generateFrom settings descriptions total (position + 1) others
    return written :: later

def generate (settings : Settings) : Job m (List Written) := do
  let descriptions ← Descriptions.load [runSpan settings] settings.descriptionsPath
  Job.record (runEvent settings "generating readmes"
    [.plain "source" settings.sourcePath, .count "mapped" descriptions.size])
  let directories ← listSubdirectories settings.sourcePath
  let written ← generateFrom settings descriptions directories.length 1 directories
  Job.record (runEvent settings "readme generation complete" [.count "count" written.length])
  Job.announce (.finished written)
  return written

end SourceCatalog.Readme
