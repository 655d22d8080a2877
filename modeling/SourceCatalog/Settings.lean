import SourceCatalog.Path
import SourceCatalog.Toml.Document

/-!
# Settings

The settings say where under the root of a project the files are found. Each has a standing
value, which a settings file may override.
-/

namespace SourceCatalog

inductive Setting where
  | keywordFile
  | sourceDirectory
  | descriptionsFile
  | readmeName
  | repositoryUrl
  deriving DecidableEq, Repr

namespace Setting

def all : List Setting :=
  [keywordFile, sourceDirectory, descriptionsFile, readmeName, repositoryUrl]

def key : Setting → Text
  | keywordFile => "keyword_file".toList
  | sourceDirectory => "source_dir".toList
  | descriptionsFile => "descriptions_file".toList
  | readmeName => "readme_name".toList
  | repositoryUrl => "repository_url".toList

def ofKey? (name : Text) : Option Setting :=
  all.find? (·.key == name)

end Setting

structure Overrides where
  keywordFile : Option Text
  sourceDirectory : Option Text
  descriptionsFile : Option Text
  readmeName : Option Text
  repositoryUrl : Option Text
  deriving DecidableEq, Repr

namespace Overrides

def empty : Overrides := ⟨none, none, none, none, none⟩

def set (overrides : Overrides) (value : Text) : Setting → Overrides
  | .keywordFile => { overrides with keywordFile := some value }
  | .sourceDirectory => { overrides with sourceDirectory := some value }
  | .descriptionsFile => { overrides with descriptionsFile := some value }
  | .readmeName => { overrides with readmeName := some value }
  | .repositoryUrl => { overrides with repositoryUrl := some value }

/-- The report of something wrong at a place, whose column is counted from one. -/
def wrongAt (place : Text.Place) (reason : Text) : Text :=
  "line ".toList ++ Text.ofNat place.line ++ ", column ".toList ++
    Text.ofNat (place.column + 1) ++ ": ".toList ++ reason

def unknownKey (name : Text) : Text :=
  let known := Setting.all.map fun setting => "`".toList ++ setting.key ++ "`".toList
  "unknown field `".toList ++ name ++ "`, expected one of ".toList ++
    Text.join ", ".toList known

/-- Accept an item of a settings file: it must be a setting with a string. -/
def accept (overrides : Overrides) (item : Toml.Item) : Except Text Overrides :=
  match Setting.ofKey? item.name with
  | none => .error (wrongAt item.keyPlace (unknownKey item.name))
  | some setting =>
    match item.value with
    | .string content => .ok (overrides.set content setting)
    | .other found => .error (wrongAt item.valuePlace (found.report "a string".toList))

def malformed : Text := "<toml syntax error>".toList

def parse (document : Text) : Except Text Overrides :=
  match Toml.items? document with
  | none => .error malformed
  | some items => items.foldlM accept empty

end Overrides

structure Settings where
  root : Path
  keywordFile : Path
  sourceDirectory : Path
  descriptionsFile : Path
  readmeName : Text
  repositoryUrl : Text
  deriving DecidableEq, Repr

namespace Settings

def standing (root : Path) : Settings where
  root := root
  keywordFile := "src/compiler/typesharp_ast/keyword.rs".toList
  sourceDirectory := "src".toList
  descriptionsFile := "scripts/descriptions.json".toList
  readmeName := "Readme.md".toList
  repositoryUrl := "https://github.com/TypeSharp/Typesharp/tree/master".toList

def fileName : Path := "scripts/scripts.toml".toList

/-- The settings with some of them overridden. A link is continued after a slash, so the
slashes at the end of the repository's address are dropped. -/
def apply (settings : Settings) (overrides : Overrides) : Settings where
  root := settings.root
  keywordFile := overrides.keywordFile.getD settings.keywordFile
  sourceDirectory := overrides.sourceDirectory.getD settings.sourceDirectory
  descriptionsFile := overrides.descriptionsFile.getD settings.descriptionsFile
  readmeName := overrides.readmeName.getD settings.readmeName
  repositoryUrl := (overrides.repositoryUrl.map (Text.dropFinal '/')).getD settings.repositoryUrl

def resolve (settings : Settings) (path : Path) : Path :=
  settings.root.join path

def keywordPath (settings : Settings) : Path :=
  settings.resolve settings.keywordFile

/-- The path of the directory whose children get readmes. -/
def sourcePath (settings : Settings) : Path :=
  settings.resolve settings.sourceDirectory

/-- The path of the description map. -/
def descriptionsPath (settings : Settings) : Path :=
  settings.resolve settings.descriptionsFile

def filePath (root : Path) : Path :=
  root.join fileName

end Settings

end SourceCatalog
