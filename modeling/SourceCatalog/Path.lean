import SourceCatalog.Text.Basic

/-!
# Paths

A path is kept as it is written; only opening a file gives it a meaning.
-/

namespace SourceCatalog

abbrev Path := Text

namespace Path

/-- Whether a path starts at the root of all files. -/
def isAbsolute (path : Path) : Bool :=
  path.head? == some '/'

def join (base path : Path) : Path :=
  if path.isAbsolute then path
  else if base.isEmpty ∨ base.getLast? = some '/' then base ++ path
  else base ++ ['/'] ++ path

end Path

end SourceCatalog
