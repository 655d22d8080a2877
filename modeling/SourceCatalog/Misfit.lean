import SourceCatalog.Text.Quoted

/-!
# Values where others are expected

The settings and the descriptions are made of tables and strings. A value of another kind is
reported with what it is.
-/

namespace SourceCatalog

inductive Misfit where
  | null
  | boolean (value : Bool)
  | integer (value : Int)
  | float (written : Text)
  | string (content : Text)
  | sequence
  | map
  deriving DecidableEq, Repr

namespace Misfit

def name : Misfit → Text
  | null => "null".toList
  | boolean value => "boolean `".toList ++ (toString value).toList ++ "`".toList
  | integer value => "integer `".toList ++ Text.ofInt value ++ "`".toList
  | float written => "floating point `".toList ++ written ++ "`".toList
  | string content => "string ".toList ++ content.quoted
  | sequence => "sequence".toList
  | map => "map".toList

/-- The report of a value where another kind was expected. -/
def report (found : Misfit) (expected : Text) : Text :=
  "invalid type: ".toList ++ found.name ++ ", expected ".toList ++ expected

end Misfit

end SourceCatalog
