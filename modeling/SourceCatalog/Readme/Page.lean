import SourceCatalog.Readme.Entry
import SourceCatalog.Text.Case

/-!
# The text of a readme

A readme begins with a mark that says that it is generated, and a heading. Each entry follows
on a line of its own, with a link into the repository.
-/

namespace SourceCatalog.Readme

/-- The first line of every readme. -/
def marker : Text := "<!-- This file was auto generated by Typesharp. -->".toList

def entryUrl (repository directory entry : Text) : Text :=
  Text.dropFinal '/' repository ++ "/src/".toList ++ directory ++ ['/'] ++ entry

def heading (name description : Text) : Text :=
  "# ".toList ++ Text.capitalize name ++ " - ".toList ++ description

def bullet (repository directory : Text) (entry : Entry) : Text :=
  " - **[".toList ++ entry.name ++ "](".toList ++ entryUrl repository directory entry.name ++
    ")** - ".toList ++ entry.description

def compose (name description : Text) (entries : List Entry) (repository : Text) : Text :=
  marker ++ ['\n'] ++ heading name description ++
    entries.flatMap fun entry => '\n' :: bullet repository name entry

end SourceCatalog.Readme
