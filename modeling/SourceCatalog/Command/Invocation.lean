import SourceCatalog.Keyword.Document
import SourceCatalog.Log.Line
import SourceCatalog.Path
import SourceCatalog.Text.Terminal

/-!
# Invocations

What a command line asks for, once it is understood, and what is answered instead if it asks
for help or cannot be understood.
-/

namespace SourceCatalog.Command

inductive Task where
  | dumpTokens (output : Path) (format : Keyword.Format)
  | genReadme
  deriving DecidableEq, Repr

/-- A run of the program. Without a root the working directory is the root. -/
structure Invocation where
  root : Option Path
  logFormat : Log.Format
  verbosity : Nat
  task : Task
  deriving DecidableEq, Repr

inductive Scope where
  | program
  | dumpTokens
  | genReadme
  deriving DecidableEq, Repr

inductive Topic where
  | scope (scope : Scope) (long : Bool)
  | help
  deriving DecidableEq, Repr

/-- Why a command line does not lead to a run. -/
inductive Stop where
  | help (topic : Topic)
  | version
  | nothingGiven
  | misuse (complaint : Text)
  deriving DecidableEq, Repr

inductive Slot where
  | root
  | logFormat
  | format
  | output
  deriving DecidableEq, Repr

def Slot.shown : Slot → Text
  | root => "--root <ROOT>".toList
  | logFormat => "--log-format <LOG_FORMAT>".toList
  | format => "--format <FORMAT>".toList
  | output => "<OUTPUT>".toList

namespace Stop

/-- A part of a command line in a complaint: what a terminal shows of it, in quotes. -/
def quote (part : Text) : Text :=
  "'".toList ++ part.visible ++ "'".toList

def valueMissing (slot : Slot) : Stop :=
  .misuse ("a value is required for '".toList ++ slot.shown ++ "' but none was supplied".toList)

/-- An argument has a value that it cannot have. -/
def valueInvalid (slot : Slot) (value : Text) : Stop :=
  .misuse ("invalid value ".toList ++ quote value ++ " for '".toList ++ slot.shown ++ "'".toList)

def repeated (slot : Slot) : Stop :=
  .misuse ("the argument '".toList ++ slot.shown ++ "' cannot be used multiple times".toList)

def unexpected (argument : Text) : Stop :=
  .misuse ("unexpected argument ".toList ++ quote argument ++ " found".toList)

def valueUnneeded (flag value : Text) : Stop :=
  .misuse ("unexpected value ".toList ++ quote value ++ " for '".toList ++ flag ++
    "' found; no more were expected".toList)

def unknownTask (word : Text) : Stop :=
  .misuse ("unrecognized subcommand ".toList ++ quote word)

def taskMissing : Stop :=
  .misuse "'tsdev' requires a subcommand but one was not provided".toList

def outputMissing : Stop :=
  .misuse "the following required arguments were not provided:".toList

end Stop

end SourceCatalog.Command
