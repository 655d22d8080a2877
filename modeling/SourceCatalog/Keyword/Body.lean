import SourceCatalog.Fault
import SourceCatalog.Keyword.Record

/-!
# The body of the enumeration

The body lies between the opening mark and the next closing brace, or the end of the text if
no brace follows.
-/

namespace SourceCatalog.Keyword

/-- The opening of the enumeration, as it stands in a normal form. -/
def marker : Text := "enum KeyWord \x7b".toList

/-- The body of the first enumeration in a text. -/
def enumBody (source : Text) : Except Fault Text :=
  match Text.splitFirst? marker source with
  | some (_, after) => .ok (after.takeWhile (· != '}'))
  | none => .error (.markerNotFound marker)

def extract (source : Text) : Except Fault (List Record) :=
  (enumBody source).map tokenize

end SourceCatalog.Keyword
