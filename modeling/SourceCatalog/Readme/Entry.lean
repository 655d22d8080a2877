import SourceCatalog.Path

/-!
# Entries of a readme

Each subdirectory of a directory is an entry of the directory's readme. It is described by the
second line of a fragment, a text of its own, if that line has something to say.
-/

namespace SourceCatalog.Readme

structure Entry where
  name : Text
  description : Text
  deriving DecidableEq, Repr

namespace Entry

def missing : Text := "No description.".toList

def fallback (name : Text) : Entry :=
  ⟨name, missing⟩

def ofFragment (name : Text) (fragment : Option Text) : Entry :=
  match fragment.bind fun text => (Text.lines text)[1]? with
  | some line => if (Text.trim line).isEmpty then fallback name else ⟨name, line⟩
  | none => fallback name

end Entry

/-- A readme that has been written: the directory's name, the file's path and the entries in it. -/
structure Written where
  name : Text
  path : Path
  entries : List Entry
  deriving DecidableEq, Repr

/-- What a run that writes readmes tells its caller on the way. -/
inductive Progress where
  /-- A directory is taken up, the given one of so many. -/
  | started (name : Text) (position total : Nat)
  | finished (readmes : List Written)
  deriving DecidableEq, Repr

end SourceCatalog.Readme
