import SourceCatalog.Command.Arguments
import SourceCatalog.Command.Help
import SourceCatalog.Command.Invocation
import SourceCatalog.Command.Run
import SourceCatalog.Decimal.Binary64
import SourceCatalog.Decimal.Shortest
import SourceCatalog.Descriptions
import SourceCatalog.Fault
import SourceCatalog.FileTree.Access
import SourceCatalog.FileTree.Arrange
import SourceCatalog.FileTree.Basic
import SourceCatalog.Json.NumberReader
import SourceCatalog.Json.ObjectReader
import SourceCatalog.Json.Quoted
import SourceCatalog.Json.Refusal
import SourceCatalog.Json.StringReader
import SourceCatalog.Keyword.Body
import SourceCatalog.Keyword.Document
import SourceCatalog.Keyword.Dump
import SourceCatalog.Keyword.Record
import SourceCatalog.Log.Directive
import SourceCatalog.Log.Event
import SourceCatalog.Log.Filter
import SourceCatalog.Log.Line
import SourceCatalog.Main
import SourceCatalog.Misfit
import SourceCatalog.Path
import SourceCatalog.Pattern.Basic
import SourceCatalog.Pattern.CharSet
import SourceCatalog.Pattern.Escape
import SourceCatalog.Pattern.Flags
import SourceCatalog.Pattern.Reader
import SourceCatalog.Pattern.Search
import SourceCatalog.Pattern.SetReader
import SourceCatalog.Proofs.Command.Spelling
import SourceCatalog.Proofs.Command.Understanding
import SourceCatalog.Proofs.Descriptions.Parsing
import SourceCatalog.Proofs.FileTree.Entries
import SourceCatalog.Proofs.FileTree.Filling
import SourceCatalog.Proofs.FileTree.Following
import SourceCatalog.Proofs.FileTree.Joining
import SourceCatalog.Proofs.FileTree.Lookup
import SourceCatalog.Proofs.Json.Grammar
import SourceCatalog.Proofs.Json.Objects
import SourceCatalog.Proofs.Json.Strings
import SourceCatalog.Proofs.Json.Unambiguous
import SourceCatalog.Proofs.Keyword.BodyBounds
import SourceCatalog.Proofs.Keyword.CommaList
import SourceCatalog.Proofs.Keyword.Displayed
import SourceCatalog.Proofs.Keyword.Dumping
import SourceCatalog.Proofs.Keyword.Enumeration
import SourceCatalog.Proofs.Keyword.JsonDocument
import SourceCatalog.Proofs.Keyword.Records
import SourceCatalog.Proofs.Keyword.Segments
import SourceCatalog.Proofs.Keyword.TextDocument
import SourceCatalog.Proofs.Keyword.WordParts
import SourceCatalog.Proofs.Readme.Collecting
import SourceCatalog.Proofs.Readme.Entries
import SourceCatalog.Proofs.Readme.Generating
import SourceCatalog.Proofs.Readme.Lines
import SourceCatalog.Proofs.Readme.Links
import SourceCatalog.Proofs.Readme.Pages
import SourceCatalog.Proofs.Readme.Progress
import SourceCatalog.Proofs.Readme.Schedules
import SourceCatalog.Proofs.Readme.SecondLine
import SourceCatalog.Proofs.Source.BlankRuns
import SourceCatalog.Proofs.Source.CommentedLine
import SourceCatalog.Proofs.Source.CrowdedBlanks
import SourceCatalog.Proofs.Source.Decomposition
import SourceCatalog.Proofs.Source.LineEnds
import SourceCatalog.Proofs.Source.LiveCode
import SourceCatalog.Proofs.Source.Remarks
import SourceCatalog.Proofs.Source.Renormalizing
import SourceCatalog.Proofs.Source.Spaced
import SourceCatalog.Proofs.Text.BrokenRuns
import SourceCatalog.Proofs.Text.Codes
import SourceCatalog.Proofs.Text.Cutting
import SourceCatalog.Proofs.Text.Decoding
import SourceCatalog.Proofs.Text.Lines
import SourceCatalog.Proofs.Text.Lowering
import SourceCatalog.Proofs.Toml.Assignments
import SourceCatalog.Proofs.Toml.Blanks
import SourceCatalog.Proofs.Toml.Grammar
import SourceCatalog.Proofs.Toml.Items
import SourceCatalog.Proofs.Toml.Mentions
import SourceCatalog.Proofs.Toml.Rests
import SourceCatalog.Proofs.Toml.Strings
import SourceCatalog.Proofs.Workspace.Looking
import SourceCatalog.Proofs.Workspace.OptionalFiles
import SourceCatalog.Proofs.Workspace.Overriding
import SourceCatalog.Proofs.Workspace.SettingsFile
import SourceCatalog.Readme.Collection
import SourceCatalog.Readme.Entry
import SourceCatalog.Readme.Generation
import SourceCatalog.Readme.Page
import SourceCatalog.Settings
import SourceCatalog.Source.Blanks
import SourceCatalog.Source.Comment
import SourceCatalog.Source.Normal
import SourceCatalog.Text.Alphanumeric
import SourceCatalog.Text.Basic
import SourceCatalog.Text.Case
import SourceCatalog.Text.CaseTable
import SourceCatalog.Text.Category
import SourceCatalog.Text.CategoryTable
import SourceCatalog.Text.Digits
import SourceCatalog.Text.Fold
import SourceCatalog.Text.Place
import SourceCatalog.Text.PrintTable
import SourceCatalog.Text.Quoted
import SourceCatalog.Text.Ranges
import SourceCatalog.Text.Terminal
import SourceCatalog.Text.Utf8
import SourceCatalog.Toml.Bare
import SourceCatalog.Toml.Document
import SourceCatalog.Toml.Line
import SourceCatalog.Toml.Statement
import SourceCatalog.Toml.StringReader
import SourceCatalog.Toml.Value
import SourceCatalog.Workspace.Basic
import SourceCatalog.Workspace.Loading
import SourceCatalog.Workspace.TreeRun
