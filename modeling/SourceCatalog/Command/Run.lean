import SourceCatalog.Command.Arguments
import SourceCatalog.Command.Help
import SourceCatalog.Keyword.Dump
import SourceCatalog.Readme.Generation

/-!
# Running the program

A run loads the settings of its project and does its task. What it prints in the end is either
a report of what was done or the chain of causes of its failure.
-/

namespace SourceCatalog.Command

variable {m : Type → Type} [Monad m] [Workspace m]

inductive Report where
  | dumped (dump : Keyword.Dump)
  | generated (readmes : List Readme.Written)
  deriving DecidableEq, Repr

def formatName : Keyword.Format → Text
  | .text => "Text".toList
  | .json => "Json".toList

def dumpingEvent (settings : Settings) (output : Path) (format : Keyword.Format) :
    Log.Event where
  level := .info
  target := "tsdev::commands".toList
  message := "dumping keywords".toList
  fields := [.plain "source" settings.keywordPath, .plain "output" output,
    .plain "format" (formatName format)]
  spans := []

def perform (settings : Settings) : Task → Job m Report
  | .dumpTokens output format => do
    Job.record (dumpingEvent settings output format)
    return .dumped (← Keyword.dump settings output format)
  | .genReadme => return .generated (← Readme.generate settings)

/-- Do what an invocation asks for. Without a root the working directory is the root. -/
def Invocation.run (working : Path) (invocation : Invocation) : Job m Report := do
  let settings ← Settings.load (invocation.root.getD working)
  perform settings invocation.task

def readmeLine (written : Readme.Written) : Text :=
  "  ".toList ++ written.name.padTo 16 ++ [' '] ++ Text.ofNat written.entries.length ++
    " entries  ".toList ++ written.path

/-- The lines of a report, given the time that the run took. -/
def Report.lines (elapsed : Text) : Report → List Text
  | dumped dump =>
    ["Wrote ".toList ++ Text.ofNat dump.records.length ++ " keywords to ".toList ++ dump.path]
  | generated readmes =>
    [[]] ++ readmes.map readmeLine ++
      [[], "  Generated ".toList ++ Text.ofNat readmes.length ++ " readmes in ".toList ++ elapsed,
        []]

/-- The lines of a failure: its causes, numbered from zero. -/
def faultLines (fault : Fault) : List Text :=
  fault.chain.mapIdx fun index cause => Text.ofNat index ++ ": ".toList ++ cause

/-- How the program ends: its exit code and what it prints. -/
structure Ending where
  code : Nat
  output : List Text
  errors : List Text
  deriving DecidableEq, Repr

namespace Ending

/-- The ending of a command line that does not lead to a run. A complaint takes one line: where it
quotes an argument that goes on behind a line feed, it ends there. -/
def ofStop (environment : Option Text) : Stop → Ending
  | .help topic => ⟨0, (topic.page environment).shown, []⟩
  | .version => ⟨0, ["tsdev 0.1.0".toList], []⟩
  | .nothingGiven => ⟨2, [], (programPage environment).shown⟩
  | .misuse complaint => ⟨2, [], (Text.lines ("error: ".toList ++ complaint)).take 1⟩

def ofRun (elapsed : Text) : Except Fault Report → Ending
  | .ok report => ⟨0, report.lines elapsed, []⟩
  | .error fault => ⟨1, [], faultLines fault⟩

end Ending

end SourceCatalog.Command
