import SourceCatalog.Text.Case

/-!
# Keyword records

A record is one reserved word of the enumeration: its name as written, and the form in which
it is displayed. The body of the enumeration is a comma-separated list of names; segments with
nothing but blanks are no names.
-/

namespace SourceCatalog.Keyword

structure Record where
  name : Text
  /-- The displayed form: lower case, without the word `keyword`. -/
  value : Text
  deriving DecidableEq, Repr

/-- The text without the word `keyword`, wherever the word is met from the left. -/
def withoutKeyword : Text → Text
  | 'k' :: 'e' :: 'y' :: 'w' :: 'o' :: 'r' :: 'd' :: tail => withoutKeyword tail
  | head :: tail => head :: withoutKeyword tail
  | [] => []

def displayValue (name : Text) : Text :=
  withoutKeyword name.lower

def Record.ofName (name : Text) : Record :=
  ⟨name, displayValue name⟩

/-- The records of a comma-separated list of names, in order. -/
def tokenize (body : Text) : List Record :=
  (((Text.pieces ',' body).map Text.trim).filter (!·.isEmpty)).map Record.ofName

end SourceCatalog.Keyword
