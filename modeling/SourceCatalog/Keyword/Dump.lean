import SourceCatalog.Keyword.Document
import SourceCatalog.Settings
import SourceCatalog.Workspace.Basic

/-!
# Dumping the keywords

A dump reads the file with the enumeration and writes the token document. Nothing is written
unless the records have been found.
-/

namespace SourceCatalog.Keyword

open Log (Event Span)

variable {m : Type → Type} [Monad m] [Workspace m]

structure Dump where
  path : Path
  records : List Record
  deriving DecidableEq, Repr

def dumpSpan (output : Path) : Span where
  name := "dump_keywords".toList
  target := "typesharp_keywords".toList
  fields := [.plain "output" output]

def foundEvent (output : Path) (records : List Record) : Event where
  level := .debug
  target := "typesharp_keywords::extract".toList
  message := "extracted keyword records".toList
  fields := [.count "count" records.length]
  spans := [dumpSpan output]

def writtenEvent (output : Path) (dump : Dump) : Event where
  level := .info
  target := "typesharp_keywords".toList
  message := "token document written".toList
  fields := [.count "count" dump.records.length, .plain "path" dump.path]
  spans := [dumpSpan output]

/-- Dump the keywords of a project to a file under its root. -/
def dump (settings : Settings) (output : Path) (format : Format) : Job m Dump := do
  let source ← Job.readText settings.keywordPath
  let (records, text) ← Job.settle (document source format)
  Job.record (foundEvent output records)
  let finished : Dump := ⟨settings.resolve output, records⟩
  Job.writeText finished.path text
  Job.record (writtenEvent output finished)
  return finished

end SourceCatalog.Keyword
