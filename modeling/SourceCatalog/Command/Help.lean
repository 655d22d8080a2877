import SourceCatalog.Command.Invocation
import SourceCatalog.Text.Terminal

/-!
# Help pages

A page says what the program or a task does, how it is called, and what its arguments mean. The
option for the root shows the value that the environment gives it. Pages are written for a
terminal, with the names of options in bold, and shown without styles.
-/

namespace SourceCatalog.Command

abbrev Page := List Text

def page (lines : List String) : Page :=
  lines.map String.toList

def Page.shown (page : Page) : List Text :=
  Text.lines (Text.visible (page.flatMap (· ++ ['\n'])))

/-- An option as pages show it: its letter, its name, and what follows the name. -/
structure OptionHead where
  letter : Option Char
  name : String
  value : String

namespace OptionHead

def root : OptionHead := ⟨none, "--root", " <ROOT>"⟩

def logFormat : OptionHead := ⟨none, "--log-format", " <LOG_FORMAT>"⟩

def verbose : OptionHead := ⟨some 'v', "--verbose", "..."⟩

def help : OptionHead := ⟨some 'h', "--help", ""⟩

def version : OptionHead := ⟨some 'V', "--version", ""⟩

def format : OptionHead := ⟨some 'f', "--format", " <FORMAT>"⟩

/-- The names of an option, the letter in front. Without a letter its place is left free. -/
def written (head : OptionHead) : Text :=
  let front := match head.letter with
    | some letter => Text.bold ['-', letter] ++ ", ".toList
    | none => "    ".toList
  "  ".toList ++ front ++ Text.bold head.name.toList ++ head.value.toList

def shortColumn : Nat := 33

def longColumn : Nat := 10

/-- Further lines of a description begin in its column. -/
def indented (column : Nat) (lines : Page) : Page :=
  lines.map (List.replicate column ' ' ++ ·)

/-- An option with a description beside its names. -/
def short (head : OptionHead) (description : Text) : Page :=
  let names := head.written
  let free := List.replicate (shortColumn - (Text.visible names).length) ' '
  match Text.pieces '\n' description with
  | [] => [names]
  | first :: others => (names ++ free ++ first) :: indented shortColumn others

/-- An option with a description below its names. -/
def long (head : OptionHead) (description : Page) : Page :=
  head.written :: indented longColumn (description.flatMap (Text.pieces '\n'))

end OptionHead

def environmentShown (environment : Option Text) : Text :=
  "[env: TSDEV_ROOT=".toList ++ environment.getD [] ++ "]".toList

def commonOptions (environment : Option Text) (helpDescription : String) : Page :=
  OptionHead.root.short
    ("Project root; every path is resolved against it. Defaults to the current directory ".toList
      ++ environmentShown environment) ++
  OptionHead.logFormat.short
    ("Log format: text (default) or json [default: text] [possible values: text, json]").toList ++
  OptionHead.verbose.short "Verbosity level (-v, -vv)".toList ++
  OptionHead.help.short helpDescription.toList

/-- The options that every scope has, with long descriptions. -/
def commonLongOptions (environment : Option Text) : Page :=
  OptionHead.root.long
    (page [
      "Project root; every path is resolved against it. Defaults to the current directory",
      ""] ++
    [environmentShown environment]) ++
  [[]] ++
  OptionHead.logFormat.long (page [
    "Log format: text (default) or json",
    "",
    "[default: text]",
    "[possible values: text, json]"]) ++
  [[]] ++
  OptionHead.verbose.long (page ["Verbosity level (-v, -vv)"]) ++
  [[]] ++
  OptionHead.help.long (page ["Print help (see a summary with '-h')"])

def programPage (environment : Option Text) : Page :=
  page [
    "Dump Typesharp keywords and generate source-tree readmes.",
    "",
    "Usage: tsdev [OPTIONS] <COMMAND>",
    "",
    "Commands:",
    "  dump-tokens  Extract the KeyWord enumeration into a token document",
    "  gen-readme   Generate a Readme.md for every top-level directory of the source tree",
    "  help         Print this message or the help of the given subcommand(s)",
    "",
    "Options:"] ++
  commonOptions environment "Print help" ++
  OptionHead.version.short "Print version".toList

def genReadmePage (environment : Option Text) : Page :=
  page [
    "Generate a Readme.md for every top-level directory of the source tree",
    "",
    "Usage: tsdev gen-readme [OPTIONS]",
    "",
    "Options:"] ++
  commonOptions environment "Print help"

def dumpTokensHead : Page :=
  page [
    "Extract the KeyWord enumeration into a token document",
    "",
    "Usage: tsdev dump-tokens [OPTIONS] <OUTPUT>",
    "",
    "Arguments:"]

def dumpTokensPage (environment : Option Text) : Page :=
  dumpTokensHead ++
  page [
    "  <OUTPUT>  Output file, relative to the project root",
    "",
    "Options:"] ++
  OptionHead.format.short
    "Document format [default: text] [possible values: text, json]".toList ++
  commonOptions environment "Print help (see more with '--help')"

def dumpTokensLongPage (environment : Option Text) : Page :=
  dumpTokensHead ++
  page [
    "  <OUTPUT>",
    "          Output file, relative to the project root",
    "",
    "Options:"] ++
  OptionHead.format.long (page ["Document format"]) ++
  [[]] ++
  OptionHead.indented OptionHead.longColumn (page [
    "Possible values:",
    "- text: `Keywords:` header with ` - Name: \"value\"` entries",
    "- json: `\x7b\"keywords\": [\x7b\"name\": .., \"value\": ..\x7d]\x7d`",
    "",
    "[default: text]"]) ++
  [[]] ++
  commonLongOptions environment

def helpPage : Page :=
  page [
    "Print this message or the help of the given subcommand(s)",
    "",
    "Usage: tsdev help [COMMAND]...",
    "",
    "Arguments:",
    "  [COMMAND]...  Print help for the subcommand(s)"]

def Topic.page (environment : Option Text) : Topic → Page
  | scope .program _ => programPage environment
  | scope .genReadme _ => genReadmePage environment
  | scope .dumpTokens false => dumpTokensPage environment
  | scope .dumpTokens true => dumpTokensLongPage environment
  | help => helpPage

end SourceCatalog.Command
