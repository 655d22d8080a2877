import SourceCatalog.Command.Invocation

/-!
# Understanding a command line

Arguments are taken one after the other. The value of an option may be attached to it or be the
next argument; a value that stands alone is looked at when the next argument has its turn, and
at the end. Options of the program may stand before or after the name of the task, and count
from there if they stand in both places.
-/

namespace SourceCatalog.Command

/-- The arguments of one scope so far. A pending argument is one whose value is still missing
or has not been looked at. -/
structure Given where
  root : Option Path
  logFormat : Option Log.Format
  verbosity : Nat
  format : Option Keyword.Format
  output : Option Path
  pending : Option (Slot × Option Text)
  deriving DecidableEq, Repr

namespace Given

def nothing : Given := ⟨none, none, 0, none, none, none⟩

def awaitsValue (given : Given) : Bool :=
  given.pending.any fun (_, value) => value.isNone

def has (given : Given) : Slot → Bool
  | .root => given.root.isSome
  | .logFormat => given.logFormat.isSome
  | .format => given.format.isSome
  | .output => given.output.isSome

def logFormatOf? (value : Text) : Option Log.Format :=
  if value = "text".toList then some .text
  else if value = "json".toList then some .json
  else none

def formatOf? (value : Text) : Option Keyword.Format :=
  if value = "text".toList then some .text
  else if value = "json".toList then some .json
  else none

def assign (given : Given) (slot : Slot) (value : Text) : Except Stop Given :=
  if given.has slot then .error (.repeated slot)
  else if value.isEmpty then .error (.valueMissing slot)
  else
    match slot with
    | .root => .ok { given with root := some value }
    | .output => .ok { given with output := some value }
    | .logFormat =>
      match logFormatOf? value with
      | some format => .ok { given with logFormat := some format }
      | none => .error (.valueInvalid slot value)
    | .format =>
      match formatOf? value with
      | some format => .ok { given with format := some format }
      | none => .error (.valueInvalid slot value)

def settle (given : Given) : Except Stop Given :=
  match given.pending with
  | none => .ok given
  | some (slot, none) => .error (.valueMissing slot)
  | some (slot, some value) => { given with pending := none }.assign slot value

def take (given : Given) (slot : Slot) (attached : Option Text) : Except Stop Given := do
  let settled ← given.settle
  match attached with
  | some value => settled.assign slot value
  | none => return { settled with pending := some (slot, none) }

/-- The count of requests for more detail stops here. -/
def mostDetail : Nat := 255

def moreDetail (given : Given) : Except Stop Given := do
  let settled ← given.settle
  return { settled with verbosity := min (settled.verbosity + 1) mostDetail }

def stop (given : Given) (reason : Stop) : Except Stop Given := do
  let _ ← given.settle
  throw reason

end Given

inductive Effect where
  | value (slot : Slot)
  | verbose
  | help
  | version
  deriving DecidableEq, Repr

def longOption? (scope : Scope) (name : Text) : Option Effect :=
  if name = "root".toList then some (.value .root)
  else if name = "log-format".toList then some (.value .logFormat)
  else if name = "verbose".toList then some .verbose
  else if name = "help".toList then some .help
  else if name = "version".toList ∧ scope = .program then some .version
  else if name = "format".toList ∧ scope = .dumpTokens then some (.value .format)
  else none

/-- Options that a scope knows by a letter. -/
def shortOption? (scope : Scope) (letter : Char) : Option Effect :=
  if letter = 'v' then some .verbose
  else if letter = 'h' then some .help
  else if letter = 'V' ∧ scope = .program then some .version
  else if letter = 'f' ∧ scope = .dumpTokens then some (.value .format)
  else none

def flagShown (name : Text) : Text :=
  "--".toList ++ name ++ (if name = "verbose".toList then "...".toList else [])

/-- A long option is cut at its first equals sign. -/
def cutLong (written : Text) : Text × Option Text :=
  match Text.splitFirst? ['='] written with
  | some (name, value) => (name, some value)
  | none => (written, none)

/-- Take a long option, given without its two dashes. -/
def takeLong (scope : Scope) (given : Given) (written : Text) : Except Stop Given :=
  let (name, attached) := cutLong written
  match longOption? scope name, attached with
  | none, _ => .error (.unexpected ("--".toList ++ name))
  | some (.value slot), _ => given.take slot attached
  | some _, some value => .error (.valueUnneeded (flagShown name) value)
  | some .verbose, none => given.moreDetail
  | some .help, none => given.stop (.help (.scope scope true))
  | some .version, none => given.stop .version

/-- The value that is attached to a short option, without an equals sign in front. -/
def attachedShort : Text → Option Text
  | [] => none
  | '=' :: value => some value
  | value => some value

/-- Take short options, given without their dash. -/
def takeShort (scope : Scope) (given : Given) : Text → Except Stop Given
  | [] => .ok given
  | letter :: others =>
    match shortOption? scope letter with
    | none => .error (.unexpected ['-', letter])
    | some (.value slot) => given.take slot (attachedShort others)
    | some .verbose =>
      match given.moreDetail with
      | .ok more => takeShort scope more others
      | .error stop => .error stop
    | some .help => given.stop (.help (.scope scope false))
    | some .version => given.stop .version

def taskScope? (word : Text) : Option Scope :=
  if word = "dump-tokens".toList then some .dumpTokens
  else if word = "gen-readme".toList then some .genReadme
  else none

def helpWord : Text := "help".toList

/-- Take an argument that is no option. Only the file to write may be such a one. -/
def takePlain (scope : Scope) (trailing : Bool) (given : Given) (word : Text) :
    Except Stop Given :=
  match scope with
  | .program =>
    if trailing && (word == helpWord || (taskScope? word).isSome) then .error (.unexpected word)
    else .error (.unknownTask word)
  | .genReadme => .error (.unexpected word)
  | .dumpTokens =>
    if given.output.isSome || given.pending.any (·.1 == .output) then
      .error (.unexpected word)
    else do
      let settled ← given.settle
      return { settled with pending := some (.output, some word) }

def takeArgument (scope : Scope) (given : Given) (argument : Text) : Except Stop Given :=
  match argument with
  | '-' :: '-' :: written => takeLong scope given written
  | '-' :: letter :: others => takeShort scope given (letter :: others)
  | word =>
    match given.pending with
    | some (slot, none) => .ok { given with pending := some (slot, some word) }
    | _ => takePlain scope false given word

def takeTrailing (scope : Scope) (given : Given) (arguments : List Text) : Except Stop Given :=
  arguments.foldlM (takePlain scope true) given

def doubleDash : Text := "--".toList

def takeAll (scope : Scope) (given : Given) : List Text → Except Stop Given
  | [] => .ok given
  | argument :: others =>
    if argument = doubleDash then
      takeTrailing scope given others
    else
      match takeArgument scope given argument with
      | .ok taken => takeAll scope taken others
      | .error stop => .error stop

/-- The end of a scope: everything pending is looked at. The root that the environment names
must be a path where no other is given. -/
def close (environment : Option Text) (given : Given) : Except Stop Given := do
  let settled ← given.settle
  if settled.root.isNone && environment.any List.isEmpty then
    throw (.valueMissing .root)
  else
    return settled

def readTask (environment : Option Text) (scope : Scope) (arguments : List Text) :
    Except Stop Given := do
  let given ← takeAll scope .nothing arguments
  let closed ← close environment given
  if scope = .dumpTokens ∧ closed.output = none then throw .outputMissing else return closed

def taskOf (scope : Scope) (given : Given) : Task :=
  match scope with
  | .dumpTokens => .dumpTokens (given.output.getD []) (given.format.getD .text)
  | _ => .genReadme

/-- The run for the arguments before and after the name of a task. -/
def combine (environment : Option Text) (before : Given) (scope : Scope) (after : Given) :
    Invocation where
  root := (after.root.or before.root).or environment
  logFormat := (after.logFormat.or before.logFormat).getD .text
  verbosity := if after.verbosity = 0 then before.verbosity else after.verbosity
  task := taskOf scope after

def helpFor : List Text → Stop
  | [] => .help (.scope .program true)
  | word :: others =>
    match taskScope? word, others with
    | some scope, [] => .help (.scope scope true)
    | some _, other :: _ => .unknownTask other
    | none, _ =>
      if word = helpWord then
        match others with
        | [] => .help .help
        | other :: _ => .unknownTask other
      else
        .unknownTask word

def withoutTask (environment : Option Text) (given : Given) : Except Stop Invocation := do
  let closed ← close environment given
  if closed.root.isNone && environment.isNone && closed.logFormat.isNone && closed.verbosity == 0
  then throw .nothingGiven
  else throw .taskMissing

/-- Take the arguments before the name of a task, then those of the task. -/
def readFrom (environment : Option Text) (given : Given) :
    List Text → Except Stop Invocation
  | [] => withoutTask environment given
  | argument :: others =>
    let named := if given.awaitsValue then none else taskScope? argument
    match named with
    | some scope => do
      let after ← readTask environment scope others
      let before ← close environment given
      return combine environment before scope after
    | none =>
      if argument = helpWord ∧ !given.awaitsValue then .error (helpFor others)
      else if argument = doubleDash then do
        withoutTask environment (← takeTrailing .program given others)
      else
        match takeArgument .program given argument with
        | .ok taken => readFrom environment taken others
        | .error stop => .error stop

/-- Understand a command line. The environment may name a root. -/
def read (environment : Option Text) (arguments : List Text) : Except Stop Invocation :=
  readFrom environment .nothing arguments

end SourceCatalog.Command
