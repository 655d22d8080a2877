import SourceCatalog.Command.Arguments

/-!
# Spellings of a command line

Options may stand on either side of the name of a task, in any order, with their values attached
or apart. Every request can be spelled.
-/

namespace SourceCatalog.Command

inductive Order where
  | genReadme
  | dumpTokens (output : Path) (format : Option Keyword.Format)
  deriving DecidableEq, Repr

structure Request where
  root : Option Path
  logFormat : Option Log.Format
  detail : Nat
  order : Order
  deriving DecidableEq, Repr

/-- The task of an order. Without a format it is the text format. -/
def Order.task : Order → Task
  | genReadme => .genReadme
  | dumpTokens output format => .dumpTokens output (format.getD .text)

namespace Request

/-- The invocation that is asked for. The environment names a root for requests without one, and
the detail is only counted up to a limit. -/
def invocation (environment : Option Path) (request : Request) : Invocation where
  root := request.root.or environment
  logFormat := request.logFormat.getD .text
  verbosity := min request.detail Given.mostDetail
  task := request.order.task

/-- The root of a run in a working directory. -/
def place (environment : Option Path) (working : Path) (request : Request) : Path :=
  match request.root, environment with
  | some root, _ => root
  | none, some root => root
  | none, none => working

end Request

def logFormatWord : Log.Format → Text
  | .text => "text".toList
  | .json => "json".toList

def formatWord : Keyword.Format → Text
  | .text => "text".toList
  | .json => "json".toList

/-- A word that does not look like an option. -/
def Plain (word : Text) : Prop :=
  word.head? ≠ some '-'

instance (word : Text) : Decidable (Plain word) :=
  inferInstanceAs (Decidable (word.head? ≠ some '-'))

inductive Valued (name value : Text) : List Text → Prop
  | apart : Plain value → Valued name value ["--".toList ++ name, value]
  | attached : Valued name value ["--".toList ++ name ++ '=' :: value]

inductive Formatted (value : Text) : List Text → Prop
  | long {words : List Text} : Valued "format".toList value words → Formatted value words
  | apart : Formatted value ["-f".toList, value]
  | attached : Formatted value ["-f".toList ++ value]
  | equals : Formatted value ["-f=".toList ++ value]

/-- What the words on one side of the name of a task ask for. -/
structure Wish where
  root : Option Path
  logFormat : Option Log.Format
  detail : Nat
  format : Option Keyword.Format
  output : Option Path

def Wish.nothing : Wish := ⟨none, none, 0, none, none⟩

/-- Words that ask for something, one option behind the other. Only the detail is asked for more
than once. -/
inductive Asks (scope : Scope) : Wish → List Text → Prop
  | nothing : Asks scope .nothing []
  | root {wish : Wish} {words more : List Text} (value : Path) : Asks scope wish words →
      wish.root = none → value ≠ [] → Valued "root".toList value more →
      Asks scope { wish with root := some value } (words ++ more)
  | logFormat {wish : Wish} {words more : List Text} (format : Log.Format) :
      Asks scope wish words → wish.logFormat = none →
      Valued "log-format".toList (logFormatWord format) more →
      Asks scope { wish with logFormat := some format } (words ++ more)
  | verbose {wish : Wish} {words : List Text} : Asks scope wish words →
      Asks scope { wish with detail := wish.detail + 1 } (words ++ ["--verbose".toList])
  | cluster {wish : Wish} {words : List Text} (count : Nat) : Asks scope wish words →
      Asks scope { wish with detail := wish.detail + (count + 1) }
        (words ++ ['-' :: List.replicate (count + 1) 'v'])
  | format {wish : Wish} {words more : List Text} (format : Keyword.Format) :
      scope = .dumpTokens → Asks scope wish words → wish.format = none →
      Formatted (formatWord format) more →
      Asks scope { wish with format := some format } (words ++ more)
  | output {wish : Wish} {words : List Text} (path : Path) : scope = .dumpTokens →
      Asks scope wish words → wish.output = none → path ≠ [] → Plain path →
      Asks scope { wish with output := some path } (words ++ [path])

inductive Orders : Order → Wish → List Text → Prop
  | genReadme {wish : Wish} {words : List Text} : Asks .genReadme wish words →
      Orders .genReadme wish ("gen-readme".toList :: words)
  | dumpTokens {wish : Wish} {words : List Text} {output : Path} : Asks .dumpTokens wish words →
      wish.output = some output →
      Orders (.dumpTokens output wish.format) wish ("dump-tokens".toList :: words)
  | trailing {wish : Wish} {words : List Text} (output : Path) : Asks .dumpTokens wish words →
      wish.output = none → output ≠ [] →
      Orders (.dumpTokens output wish.format) { wish with output := some output }
        ("dump-tokens".toList :: (words ++ [doubleDash, output]))

/-- Options for both scopes stand on one side only. -/
structure Apart (before after : Wish) : Prop where
  root : before.root = none ∨ after.root = none
  logFormat : before.logFormat = none ∨ after.logFormat = none
  detail : before.detail = 0 ∨ after.detail = 0

/-- The command lines for a request. -/
inductive Spells : Request → List Text → Prop
  | line {before after : Wish} {order : Order} {words others : List Text} :
      Asks .program before words → Orders order after others → Apart before after →
      Spells ⟨before.root.or after.root, before.logFormat.or after.logFormat,
        before.detail + after.detail, order⟩ (words ++ others)

/-- Every wish for the options of both scopes can be put in words. -/
theorem exists_asks (scope : Scope) {root : Option Path} (filled : root ≠ some [])
    (logFormat : Option Log.Format) (detail : Nat) :
    ∃ words, Asks scope ⟨root, logFormat, detail, none, none⟩ words := by
  have rooted : ∃ words, Asks scope ⟨root, none, 0, none, none⟩ words := by
    cases root with
    | none => exact ⟨_, Asks.nothing⟩
    | some value =>
      have valueFilled : value ≠ [] := fun empty => filled (congrArg some empty)
      exact ⟨_, Asks.root value Asks.nothing rfl valueFilled Valued.attached⟩
  obtain ⟨rootWords, asksRoot⟩ := rooted
  have formatted : ∃ words, Asks scope ⟨root, logFormat, 0, none, none⟩ words := by
    cases logFormat with
    | none => exact ⟨_, asksRoot⟩
    | some format => exact ⟨_, Asks.logFormat format asksRoot rfl Valued.attached⟩
  obtain ⟨words, asks⟩ := formatted
  cases detail with
  | zero => exact ⟨_, asks⟩
  | succ count =>
    have clustered := Asks.cluster count asks
    rw [Nat.zero_add] at clustered
    exact ⟨_, clustered⟩

/-- Each request has a spelling, unless it names an empty root or output. -/
theorem exists_spells {request : Request} (rootFilled : request.root ≠ some [])
    (outputFilled : ∀ format, request.order ≠ .dumpTokens [] format) :
    ∃ words, Spells request words := by
  obtain ⟨root, logFormat, detail, order⟩ := request
  have spelled : ∀ {after : Wish} {words : List Text}, after.root = root →
      after.logFormat = logFormat → after.detail = detail → Orders order after words →
      Spells ⟨root, logFormat, detail, order⟩ ([] ++ words) := by
    rintro after words rfl rfl rfl orders
    have line := Spells.line Asks.nothing orders ⟨Or.inl rfl, Or.inl rfl, Or.inl rfl⟩
    simpa only [Wish.nothing, Option.none_or, Nat.zero_add] using line
  cases order with
  | genReadme =>
    obtain ⟨words, asks⟩ := exists_asks .genReadme rootFilled logFormat detail
    exact ⟨_, spelled rfl rfl rfl (Orders.genReadme asks)⟩
  | dumpTokens output format =>
    obtain ⟨words, asks⟩ := exists_asks .dumpTokens rootFilled logFormat detail
    have filled : output ≠ [] := fun empty => outputFilled format (by rw [empty])
    cases format with
    | none => exact ⟨_, spelled rfl rfl rfl (Orders.trailing output asks rfl filled)⟩
    | some format =>
      have formatted := Asks.format format rfl asks rfl (Formatted.long Valued.attached)
      exact ⟨_, spelled rfl rfl rfl (Orders.trailing output formatted rfl filled)⟩

end SourceCatalog.Command
