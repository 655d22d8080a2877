import SourceCatalog.FileTree.Access

/-!
# Arranging a file tree

Directories, links and files are put in place before a run. What cannot be put in place is
left out.
-/

namespace SourceCatalog

namespace FileTree

/-- The names of a path before its last one and the slashes behind that. -/
def parentNames (path : Path) : List Text :=
  ((namesOf path).reverse.dropWhile List.isEmpty).tail.reverse

/-- Make a directory, and the directories that lead to it, where they are missing. -/
def makeDirectories (tree : FileTree) (working : Location) (path : Path) : FileTree :=
  (List.range ((namesOf path).length + 1)).foldl
    (fun made count =>
      match made.walk .use linkLimit (startOf working path) ((namesOf path).take count) with
      | .ok (.free location) => made.put location .directory
      | _ => made)
    tree

/-- The location that a path names, without following a link at its end. -/
def entryAt? (tree : FileTree) (working : Location) (path : Path) : Option Location :=
  match tree.walk .use linkLimit (startOf working path) (parentNames path),
      ((namesOf path).filter (!·.isEmpty)).getLast? with
  | .ok (.taken location), some name => some (location ++ [name])
  | _, _ => none

def removeAt (tree : FileTree) (working : Location) (path : Path) : FileTree :=
  ((tree.entryAt? working path).map tree.remove).getD tree

def makeLink (tree : FileTree) (working : Location) (path target : Path) : FileTree :=
  ((tree.entryAt? working path).map fun location => tree.put location (.link target)).getD tree

/-- Put a file in place, in a directory that is made if it is missing. -/
def arrangeFile (tree : FileTree) (working : Location) (path : Path) (content : List UInt8) :
    FileTree :=
  let parent := Text.join ['/'] (parentNames path)
  let made := tree.makeDirectories working parent
  match made.write working path content with
  | .ok written => written
  | .error _ => made

end FileTree

end SourceCatalog
