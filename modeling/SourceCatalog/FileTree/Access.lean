import SourceCatalog.Fault
import SourceCatalog.FileTree.Basic

/-!
# Access to a file tree

A path is followed name by name from the root or from the working directory. A symbolic link
is replaced by its target, a limited number of times. Reading, writing and listing follow the
whole path, and fail with the obstacle that is met first.
-/

namespace SourceCatalog

namespace FileTree

/-- Where a path leads: to an entry, or to a place in a directory that is still free. -/
inductive Spot where
  | taken (location : Location)
  | free (location : Location)
  deriving DecidableEq, Repr

/-- The number of bytes that a path may have. -/
def pathLimit : Nat := 4095

/-- The number of links that a path may lead through. -/
def linkLimit : Nat := 40

def namesOf (path : Path) : List Text :=
  Text.pieces '/' path

/-- Where a path starts, given the directory that relative paths start in. -/
def startOf (working : Location) (path : Path) : Location :=
  if path.isAbsolute then [] else working

inductive Purpose where
  | use
  /-- To make a file, or to replace one. A slash at the end can then only be a mistake. -/
  | make
  deriving DecidableEq, Repr

/-- Follow names from a location. A link is handed on, with the place and the names that are
followed instead of it. -/
def walkNames (tree : FileTree) (purpose : Purpose)
    (through : Location → List Text → Except Obstacle Spot) (here : Location) :
    List Text → Except Obstacle Spot
  | [] => .ok (.taken here)
  | name :: rest =>
    if !tree.isDirectory here then .error .notDirectory
    else if name = [] ∨ name = ['.'] then tree.walkNames purpose through here rest
    else if name = ['.', '.'] then tree.walkNames purpose through here.dropLast rest
    else if purpose = .make ∧ rest ≠ [] ∧ rest.all List.isEmpty then .error .isDirectory
    else if nameLimit < Text.byteLength name then .error .nameTooLong
    else
      match tree.node? (here ++ [name]) with
      | none => if rest.isEmpty then .ok (.free (here ++ [name])) else .error .notFound
      | some (.link target) => through (startOf here target) (namesOf target ++ rest)
      | some _ => tree.walkNames purpose through (here ++ [name]) rest

/-- Follow names from a location, through at most some number of links. -/
def walk (tree : FileTree) (purpose : Purpose) : Nat → Location → List Text → Except Obstacle Spot
  | 0 => tree.walkNames purpose fun _ _ => .error .tooManyLinks
  | links + 1 => tree.walkNames purpose (tree.walk purpose links)

/-- What is wrong with a path before it is followed. -/
def pathObstacle? (path : Path) : Option Obstacle :=
  if path.contains '\x00' then some .nulByte
  else if path.isEmpty then some .notFound
  else if pathLimit < Text.byteLength path then some .nameTooLong
  else none

def locate (tree : FileTree) (purpose : Purpose) (working : Location) (path : Path) :
    Except Obstacle Spot :=
  match pathObstacle? path with
  | some obstacle => .error obstacle
  | none => tree.walk purpose linkLimit (startOf working path) (namesOf path)

def read (tree : FileTree) (working : Location) (path : Path) :
    Except Obstacle (List UInt8) :=
  match tree.locate .use working path with
  | .error obstacle => .error obstacle
  | .ok (.free _) => .error .notFound
  | .ok (.taken location) =>
    match tree.node? location with
    | some (.file content) => .ok content
    | some _ => .error .isDirectory
    | none => .error .notFound

/-- Where a file at a path would be written. -/
def target (tree : FileTree) (working : Location) (path : Path) : Except Obstacle Location :=
  match tree.locate .make working path with
  | .error obstacle => .error obstacle
  | .ok (.free location) => .ok location
  | .ok (.taken location) =>
    if tree.isDirectory location then .error .isDirectory else .ok location

def write (tree : FileTree) (working : Location) (path : Path) (content : List UInt8) :
    Except Obstacle FileTree :=
  (tree.target working path).map fun location => tree.put location (.file content)

/-- The names in the directory that a path leads to, with their kinds. -/
def list (tree : FileTree) (working : Location) (path : Path) :
    Except Obstacle (List (Text × Kind)) :=
  match tree.locate .use working path with
  | .error obstacle => .error obstacle
  | .ok (.free _) => .error .notFound
  | .ok (.taken location) =>
    if tree.isDirectory location then .ok (tree.children location) else .error .notDirectory

end FileTree

end SourceCatalog
