import SourceCatalog.Text.Basic

/-!
# Places in a text

A place is a line and a column. Lines count from one. A message about JSON counts columns in
bytes, one about TOML in characters; both count what has been passed on the line.
-/

namespace SourceCatalog.Text

/-- A line, counted from one, and what has been passed on it. -/
structure Place where
  line : Nat
  column : Nat
  deriving DecidableEq, Repr

namespace Place

def start : Place := ⟨1, 0⟩

/-- The place after some bytes of a text. It may lie inside a character. -/
def afterBytes (here : Place) : Nat → Text → Place
  | _, [] => here
  | bytes, head :: tail =>
    if bytes < head.utf8Size then
      ⟨here.line, here.column + bytes⟩
    else if head = '\n' then
      afterBytes ⟨here.line + 1, 0⟩ (bytes - head.utf8Size) tail
    else
      afterBytes ⟨here.line, here.column + head.utf8Size⟩ (bytes - head.utf8Size) tail

def after (here : Place) : Text → Place
  | [] => here
  | head :: tail =>
    if head = '\n' then
      after ⟨here.line + 1, 0⟩ tail
    else
      after ⟨here.line, here.column + 1⟩ tail

end Place

end SourceCatalog.Text
