import SourceCatalog.Command.Run

/-!
# The program

The files of the machine are a workspace. Events go to the standard output as they happen, in
the form and as far as the command line asks for them. The program ends by printing its report
or its complaint.
-/

namespace SourceCatalog

structure LogView where
  format : Log.Format
  filter : Log.Filter

abbrev MachineRun := ReaderT LogView IO

namespace MachineRun

/-- The obstacle with a number of the system, which may come with its sign changed. -/
def obstacleOf (code : UInt32) (wording : String) : Obstacle :=
  let number := min code (0 - code)
  if number = 2 then .notFound
  else if number = 20 then .notDirectory
  else if number = 21 then .isDirectory
  else if number = 36 then .nameTooLong
  else if number = 40 then .tooManyLinks
  else .other wording.toList

/-- The obstacle that an error of the system stands for. -/
def obstacle (error : IO.Error) : Obstacle :=
  match error with
  | .noFileOrDirectory _ code _ => obstacleOf code (toString error)
  | .inappropriateType _ code _ => obstacleOf code (toString error)
  | .invalidArgument _ code _ => obstacleOf code (toString error)
  | .resourceExhausted _ code _ => obstacleOf code (toString error)
  | .otherError code _ => obstacleOf code (toString error)
  | _ => .other (toString error).toList

/-- Access a path, which no zero byte may stand in. -/
def attempt {α : Type} (path : Path) (action : String → IO α) : IO (Except Obstacle α) := do
  if path.contains '\x00' then
    return .error .nulByte
  else
    match ← (action (String.ofList path)).toBaseIO with
    | .ok result => return .ok result
    | .error error => return .error (obstacle error)

def readFile (path : Path) : IO (Except Obstacle (List UInt8)) :=
  attempt path fun name => return (← IO.FS.readBinFile name).toList

def writeFile (path : Path) (content : List UInt8) : IO (Except Obstacle Unit) :=
  attempt path fun name => IO.FS.writeBinFile name (ByteArray.mk content.toArray)

/-- The kind of an entry, links not followed. -/
def kindOf (entry : IO.FS.DirEntry) : IO Kind := do
  match (← entry.path.symlinkMetadata).type with
  | .dir => return .directory
  | .symlink => return .link
  | _ => return .file

def listDirectory (path : Path) : IO (Except Obstacle (List (Text × Kind))) :=
  attempt path fun name => do
    let entries ← (System.mkFilePath [name]).readDir
    entries.toList.mapM fun entry => return (entry.fileName.toList, ← kindOf entry)

def readFiles (paths : List Path) : IO (List Arrival) := do
  let tasks ← paths.mapM fun path => IO.asTask (readFile path)
  let outcomes ← tasks.mapM fun task => IO.ofExcept task.get
  return outcomes.mapIdx fun index outcome => ⟨index, outcome⟩

def printEvent (view : LogView) (event : Log.Event) : IO Unit :=
  match view.filter.apply event with
  | some shown => IO.println (String.ofList (view.format.line shown))
  | none => return ()

instance : Workspace MachineRun where
  read path := readFile path
  write path content := writeFile path content
  list path := listDirectory path
  readTogether paths := readFiles paths
  record event := do printEvent (← read) event
  announce _ := return ()

end MachineRun

def seconds (milliseconds : Nat) : Text :=
  let tenths := (milliseconds + 50) / 100
  Text.ofNat (tenths / 10) ++ ['.'] ++ Text.ofNat (tenths % 10) ++ ['s']

/-- Do what an invocation asks for on the machine. -/
def runInvocation (invocation : Command.Invocation) : IO Command.Ending := do
  let working := (← IO.currentDir).toString.toList
  let requested ← IO.getEnv "RUST_LOG"
  let filter := Log.Filter.inForce (requested.map String.toList) invocation.verbosity
  let start ← IO.monoMsNow
  let job : Job MachineRun Command.Report := invocation.run working
  let result ← (ExceptT.run job).run ⟨invocation.logFormat, filter⟩
  return .ofRun (seconds ((← IO.monoMsNow) - start)) result

/-- The lines of the standard error. The causes of a failure stand below a heading. -/
def errorLines (ending : Command.Ending) : List Text :=
  if ending.code = 1 then
    "Error: ".toList :: ending.errors.map fun line => "   ".toList ++ line
  else
    ending.errors

/-- How the program ends for a command line. -/
def ending (arguments : List String) : IO Command.Ending := do
  let environment := (← IO.getEnv "TSDEV_ROOT").map String.toList
  match Command.read environment (arguments.map String.toList) with
  | .ok invocation => runInvocation invocation
  | .error stop => return .ofStop environment stop

end SourceCatalog

def main (arguments : List String) : IO UInt32 := do
  let ending ← SourceCatalog.ending arguments
  ending.output.forM fun line => IO.println (String.ofList line)
  (SourceCatalog.errorLines ending).forM fun line => IO.eprintln (String.ofList line)
  return ending.code.toUInt32
