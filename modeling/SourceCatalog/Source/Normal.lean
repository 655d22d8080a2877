import SourceCatalog.Source.Comment
import SourceCatalog.Source.Blanks

/-!
# The normal form of a source text

Comments go first: once the line ends are gone, a line comment would have no end.
-/

namespace SourceCatalog.Source

/-- The source text without comments and without runs of blanks. -/
def normalize (source : Text) : Text :=
  withoutBlankRuns (withoutComments source)

end SourceCatalog.Source
