import SourceCatalog.Path
import SourceCatalog.Text.Quoted

/-!
# Obstacles and faults

An obstacle stands in the way of one access to a file. A fault ends a run. Each has one
wording.
-/

namespace SourceCatalog

/-- Why a file could not be read or written, or a directory not be listed. -/
inductive Obstacle where
  | notFound
  | notDirectory
  | isDirectory
  | nameTooLong
  | tooManyLinks
  | nulByte
  | notText
  | other (wording : Text)
  deriving DecidableEq, Repr

namespace Obstacle

def message : Obstacle → Text
  | notFound => "No such file or directory (os error 2)".toList
  | notDirectory => "Not a directory (os error 20)".toList
  | isDirectory => "Is a directory (os error 21)".toList
  | nameTooLong => "File name too long (os error 36)".toList
  | tooManyLinks => "Too many levels of symbolic links (os error 40)".toList
  | nulByte => "file name contained an unexpected NUL byte".toList
  | notText => "stream did not contain valid UTF-8".toList
  | other wording => wording

end Obstacle

inductive Fault where
  | markerNotFound (marker : Text)
  | settings (wording : Text)
  | access (path : Path) (obstacle : Obstacle)
  | serialization (wording : Text)
  /-- A task ended without a result. -/
  | task (wording : Text)
  deriving DecidableEq, Repr

namespace Fault

/-- The settings or descriptions at a path do not have their format. -/
def malformed (path : Path) (reason : Text) : Fault :=
  .settings ("failed to parse ".toList ++ path ++ ": ".toList ++ reason)

def message : Fault → Text
  | markerNotFound marker => "marker `".toList ++ marker ++ "` not found in source text".toList
  | settings wording => "config error: ".toList ++ wording
  | access path obstacle =>
    "I/O error at ".toList ++ path.quoted ++ ": ".toList ++ obstacle.message
  | serialization wording => "serialization error: ".toList ++ wording
  | task wording => "task failed: ".toList ++ wording

/-- The wording of a fault followed by that of its cause, outermost first. -/
def chain : Fault → List Text
  | access path obstacle => [(access path obstacle).message, obstacle.message]
  | fault => [fault.message]

end Fault

end SourceCatalog
