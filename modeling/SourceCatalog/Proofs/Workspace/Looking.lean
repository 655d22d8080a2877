import SourceCatalog.Proofs.FileTree.Lookup
import SourceCatalog.Workspace.Loading
import SourceCatalog.Workspace.TreeRun

/-!
# Jobs that only look

The parts of a job follow each other, and the first fault ends it. A job that only looks finds
what the tree and the working directory determine, and leaves a run as it was but for its log
and its schedule. Loading the settings or the descriptions only looks at one file.
-/

namespace SourceCatalog

variable {σ α β : Type}

def Job.doneFrom (state : σ) (job : Job (StateM σ) α) : Except Fault α × σ :=
  StateT.run (ExceptT.run job) state

theorem Job.doneFrom_bind (state : σ) (job : Job (StateM σ) α)
    (next : α → Job (StateM σ) β) :
    doneFrom state (job >>= next) =
      match doneFrom state job with
      | (.ok result, later) => doneFrom later (next result)
      | (.error fault, later) => (.error fault, later) := by
  have parts : doneFrom state (job >>= next) =
      (fun (outcome, later) => StateT.run (ExceptT.bindCont next outcome) later)
        (doneFrom state job) := rfl
  rw [parts]
  obtain ⟨outcome, later⟩ := doneFrom state job
  cases outcome with
  | error fault => rfl
  | ok result => rfl

namespace TreeRun

theorem after_bind (run : TreeRun) (job : Job (StateM TreeRun) α)
    (next : α → Job (StateM TreeRun) β) :
    run.after (job >>= next) =
      match run.after job with
      | (.ok result, later) => later.after (next result)
      | (.error fault, later) => (.error fault, later) := by
  have done : Job.doneFrom run job = run.after job := rfl
  refine (Job.doneFrom_bind run job next).trans ?_
  rw [done]
  rcases run.after job with ⟨fault | result, later⟩ <;> rfl

/-- A result that is already there leaves the run as it is. -/
theorem after_settle_bind (run : TreeRun) (result : Except Fault α)
    (next : α → Job (StateM TreeRun) β) :
    run.after (Job.settle result >>= next) =
      match result with
      | .ok settled => run.after (next settled)
      | .error fault => (.error fault, run) := by
  cases result <;> rfl

theorem after_record_bind (run : TreeRun) (event : Log.Event)
    (next : Unit → Job (StateM TreeRun) β) :
    run.after (Job.record event >>= next) =
      { run with events := run.events ++ [event] }.after (next ()) :=
  rfl

/-- Nothing but the log and the schedule of a run has moved on. -/
structure Still (run later : TreeRun) : Prop where
  tree : later.tree = run.tree
  working : later.working = run.working
  progress : later.progress = run.progress

theorem Still.refl (run : TreeRun) : run.Still run := ⟨rfl, rfl, rfl⟩

theorem Still.trans {run middle later : TreeRun} (first : run.Still middle)
    (second : middle.Still later) : run.Still later :=
  ⟨second.tree.trans first.tree, second.working.trans first.working,
    second.progress.trans first.progress⟩

theorem after_access (run : TreeRun) (path : Path) (action : StateM TreeRun (Except Obstacle α)) :
    run.after (Job.access path action) =
      match StateT.run action run with
      | (.ok result, later) => (.ok result, later)
      | (.error obstacle, later) => (.error (.access path obstacle), later) := by
  have lifted : run.after (liftM action : Job (StateM TreeRun) (Except Obstacle α)) =
      (.ok (StateT.run action run).1, (StateT.run action run).2) := rfl
  rw [Job.access, after_bind, lifted]
  obtain ⟨outcome, later⟩ := StateT.run action run
  cases outcome with
  | error obstacle => rfl
  | ok result => rfl

/-- A write changes the tree in its target alone, and in nothing if there is none. -/
theorem after_writeText (run : TreeRun) (path : Path) (text : Text) :
    run.after (Job.writeText path text) =
      match run.tree.target run.working path with
      | .ok location =>
        (.ok (), { run with tree := run.tree.put location (.file (Text.encode text)) })
      | .error obstacle => (.error (.access path obstacle), run) := by
  have action : StateT.run
      (Workspace.write path (Text.encode text) : StateM TreeRun (Except Obstacle Unit)) run =
        run.write path (Text.encode text) := rfl
  rw [Job.writeText, after_access, action, TreeRun.write, FileTree.write]
  cases run.tree.target run.working path with
  | error obstacle => rfl
  | ok location => rfl

end TreeRun

/-- A job that finds what the tree and the working directory determine, and changes neither. -/
def Looks (job : Job (StateM TreeRun) α) (found : FileTree → Location → Except Fault α) : Prop :=
  ∀ run : TreeRun, ∃ later,
    run.after job = (found run.tree run.working, later) ∧ run.Still later

namespace Looks

theorem pure (result : α) : Looks (Pure.pure result) fun _ _ => .ok result :=
  fun run => ⟨run, rfl, .refl run⟩

theorem throw (fault : Fault) :
    Looks (MonadExcept.throw fault : Job (StateM TreeRun) α) fun _ _ => .error fault :=
  fun run => ⟨run, rfl, .refl run⟩

theorem settle (result : Except Fault α) : Looks (Job.settle result) fun _ _ => result :=
  fun run => ⟨run, rfl, .refl run⟩

theorem record (event : Log.Event) : Looks (Job.record event) fun _ _ => .ok () :=
  fun run => ⟨{ run with events := run.events ++ [event] }, rfl, ⟨rfl, rfl, rfl⟩⟩

theorem read (path : Path) :
    Looks (ExceptT.lift (Workspace.read path)) fun tree working =>
      .ok (tree.read working path) :=
  fun run => ⟨run, rfl, .refl run⟩

theorem list (path : Path) :
    Looks (ExceptT.lift (Workspace.list path)) fun tree working =>
      .ok (tree.list working path) :=
  fun run => ⟨run, rfl, .refl run⟩

/-- One look after the other is a look. -/
theorem bind {job : Job (StateM TreeRun) α} {found : FileTree → Location → Except Fault α}
    {next : α → Job (StateM TreeRun) β}
    {foundNext : α → FileTree → Location → Except Fault β} (looks : Looks job found)
    (looksNext : ∀ result, Looks (next result) (foundNext result)) :
    Looks (job >>= next) fun tree working =>
      (found tree working).bind fun result => foundNext result tree working := by
  intro run
  obtain ⟨middle, ends, still⟩ := looks run
  dsimp only
  rw [TreeRun.after_bind, ends]
  cases found run.tree run.working with
  | error fault => exact ⟨middle, rfl, still⟩
  | ok result =>
    obtain ⟨later, endsLater, stillLater⟩ := looksNext result middle
    rw [still.tree, still.working] at endsLater
    exact ⟨later, endsLater, still.trans stillLater⟩

theorem access {path : Path} {action : StateM TreeRun (Except Obstacle α)}
    {brings : FileTree → Location → Except Obstacle α}
    (looks : ∀ run : TreeRun, StateT.run action run = (brings run.tree run.working, run)) :
    Looks (Job.access path action) fun tree working =>
      (brings tree working).mapError (.access path) := by
  intro run
  dsimp only
  rw [TreeRun.after_access, looks run]
  cases brings run.tree run.working with
  | error obstacle => exact ⟨run, rfl, .refl run⟩
  | ok result => exact ⟨run, rfl, .refl run⟩

theorem accessRead (path : Path) :
    Looks (Job.access path (Workspace.read path)) fun tree working =>
      (tree.read working path).mapError (.access path) :=
  access fun _ => rfl

theorem accessPure (path : Path) (result : Except Obstacle α) :
    Looks (Job.access path (Pure.pure result)) fun _ _ => result.mapError (.access path) :=
  access fun _ => rfl

theorem accessList (path : Path) :
    Looks (Job.access path (Workspace.list path)) fun tree working =>
      (tree.list working path).mapError (.access path) :=
  access fun _ => rfl

theorem congr {job : Job (StateM TreeRun) α}
    {found other : FileTree → Location → Except Fault α} (looks : Looks job found)
    (same : ∀ tree working, found tree working = other tree working) : Looks job other := by
  intro run
  obtain ⟨later, ends, still⟩ := looks run
  rw [same] at ends
  exact ⟨later, ends, still⟩

/-- What a look finds is its outcome. -/
theorem outcome {job : Job (StateM TreeRun) α} {found : FileTree → Location → Except Fault α}
    (looks : Looks job found) (run : TreeRun) :
    (run.after job).1 = found run.tree run.working := by
  obtain ⟨later, ends, _⟩ := looks run
  rw [ends]

/-- A job that only looks comes before another one without a trace. -/
theorem after_bind {job : Job (StateM TreeRun) α} {found : FileTree → Location → Except Fault α}
    (looks : Looks job found) (run : TreeRun) (next : α → Job (StateM TreeRun) β) :
    ∃ later, run.Still later ∧ run.after (job >>= next) =
      match found run.tree run.working with
      | .ok result => later.after (next result)
      | .error fault => (.error fault, later) := by
  obtain ⟨later, ends, still⟩ := looks run
  refine ⟨later, still, ?_⟩
  rw [TreeRun.after_bind, ends]
  cases found run.tree run.working <;> rfl

end Looks

def textFrom (path : Path) (reading : Except Obstacle (List UInt8)) : Except Fault Text :=
  (reading.mapError (.access path)).bind fun bytes =>
    (Job.strict bytes).mapError (.access path)

theorem textFrom_eq_ok_iff {path : Path} {reading : Except Obstacle (List UInt8)} {text : Text} :
    textFrom path reading = .ok text ↔
      ∃ bytes, reading = .ok bytes ∧ Text.decode? bytes = some text := by
  rw [textFrom]
  cases reading with
  | error obstacle => simp [Except.mapError, Except.bind]
  | ok bytes =>
    simp only [Except.mapError, Except.bind, Job.strict, Except.ok.injEq, exists_eq_left']
    cases Text.decode? bytes <;> simp

theorem Looks.readText (path : Path) :
    Looks (Job.readText path) fun tree working => textFrom path (tree.read working path) :=
  (accessRead path).bind fun bytes => accessPure path (Job.strict bytes)

theorem looks_readOptionalBytes (spans : List Log.Span) (path : Path) :
    Looks (Job.readOptionalBytes spans path) fun tree working =>
      Job.orMissing path (tree.read working path) := by
  refine Looks.congr ((Looks.read path).bind fun reading =>
    (Looks.settle (Job.orMissing path reading)).bind fun result =>
      (?_ : Looks _ fun _ _ => .ok result)) fun tree working => ?_
  · cases result with
    | none => exact (Looks.record _).bind fun _ => Looks.pure none
    | some bytes => exact Looks.pure (some bytes)
  · simp only [Except.bind]
    cases Job.orMissing path (tree.read working path) with
    | error fault => rfl
    | ok bytes => rfl

theorem looks_readLossy (spans : List Log.Span) (path : Path) :
    Looks (Job.readLossy spans path) fun tree working =>
      (Job.orMissing path (tree.read working path)).map fun bytes =>
        bytes.map Text.decodeLossy := by
  refine Looks.congr ((looks_readOptionalBytes spans path).bind fun bytes =>
    Looks.pure (bytes.map Text.decodeLossy)) fun tree working => ?_
  cases Job.orMissing path (tree.read working path) with
  | error fault => rfl
  | ok bytes => rfl

/-- What the reading of a file with a strict text comes to, if it may be missing. -/
def strictFrom (path : Path) : Except Obstacle (List UInt8) → Except Fault (Option Text)
  | .error .notFound => .ok none
  | reading => (textFrom path reading).map some

/-- Only a missing file brings nothing. -/
theorem strictFrom_eq_none_iff {path : Path} {reading : Except Obstacle (List UInt8)} :
    strictFrom path reading = .ok none ↔ reading = .error .notFound := by
  constructor
  · intro none
    rw [strictFrom.eq_def] at none
    split at none
    · rfl
    · cases found : textFrom path reading <;> rw [found] at none <;> cases none
  · rintro rfl
    rfl

/-- A text comes of bytes that are valid. -/
theorem strictFrom_eq_some_iff {path : Path} {reading : Except Obstacle (List UInt8)}
    {text : Text} : strictFrom path reading = .ok (some text) ↔
      ∃ bytes, reading = .ok bytes ∧ Text.decode? bytes = some text := by
  rw [← textFrom_eq_ok_iff, strictFrom.eq_def]
  split
  · simp [textFrom, Except.mapError, Except.bind]
  · cases textFrom path reading <;> simp [Except.map]

theorem looks_readStrict (spans : List Log.Span) (path : Path) :
    Looks (Job.readStrict spans path) fun tree working =>
      strictFrom path (tree.read working path) := by
  refine Looks.congr ((looks_readOptionalBytes spans path).bind fun result =>
    (?_ : Looks _ fun _ _ => match result with
      | none => .ok none
      | some bytes => ((Job.strict bytes).mapError (.access path)).map some))
    fun tree working => ?_
  · cases result with
    | none => exact Looks.pure none
    | some bytes =>
      refine Looks.congr ((Looks.accessPure path (Job.strict bytes)).bind fun text =>
        Looks.pure (some text)) fun _ _ => ?_
      dsimp only
      cases Job.strict bytes <;> rfl
  · cases tree.read working path with
    | ok bytes => rfl
    | error obstacle => cases obstacle <;> rfl

/-! ## Loading -/

namespace Overrides

def ofDocument? (path : Path) : Option Text → Except Fault (Option Overrides)
  | none => .ok none
  | some document => ((parse document).mapError (.malformed path)).map some

def loadFrom (path : Path) (reading : Except Obstacle (List UInt8)) :
    Except Fault (Option Overrides) :=
  (strictFrom path reading).bind (ofDocument? path)

theorem looks_load (root : Path) :
    Looks (load root) fun tree working =>
      loadFrom (Settings.filePath root) (tree.read working (Settings.filePath root)) := by
  refine (looks_readStrict [] (Settings.filePath root)).bind fun result => ?_
  cases result with
  | none => exact (Looks.record _).bind fun _ => Looks.pure none
  | some document =>
    dsimp only [ofDocument?]
    cases parse document with
    | error reason => exact Looks.throw _
    | ok overrides => exact Looks.pure (some overrides)

end Overrides

namespace Settings

def loadFrom (root : Path) (reading : Except Obstacle (List UInt8)) : Except Fault Settings :=
  (Overrides.loadFrom (filePath root) reading).map fun overrides =>
    (overrides.map (standing root).apply).getD (standing root)

theorem looks_load (root : Path) :
    Looks (load root) fun tree working => loadFrom root (tree.read working (filePath root)) := by
  refine Looks.congr ((Overrides.looks_load root).bind fun result =>
    (?_ : Looks _ fun _ _ => .ok ((result.map (standing root).apply).getD (standing root))))
    fun tree working => ?_
  · cases result with
    | none => exact Looks.pure _
    | some overrides => exact Looks.pure _
  · dsimp only [loadFrom]
    cases Overrides.loadFrom (filePath root) (tree.read working (filePath root)) <;> rfl

end Settings

namespace Descriptions

def ofDocument (path : Path) : Option Text → Except Fault Descriptions
  | none => .ok empty
  | some document =>
    (parse document).mapError fun refusal => .malformed path (refusal.message document)

def loadFrom (path : Path) (reading : Except Obstacle (List UInt8)) :
    Except Fault Descriptions :=
  (strictFrom path reading).bind (ofDocument path)

theorem looks_load (spans : List Log.Span) (path : Path) :
    Looks (load spans path) fun tree working => loadFrom path (tree.read working path) := by
  refine (looks_readStrict spans path).bind fun result => ?_
  cases result with
  | none => exact (Looks.record _).bind fun _ => Looks.pure empty
  | some document =>
    dsimp only [ofDocument]
    cases parse document with
    | error refusal => exact Looks.throw _
    | ok descriptions => exact Looks.pure descriptions

/-- A missing file gives no descriptions, and one that is there those of its document. -/
theorem loadFrom_eq_ok_iff {path : Path} {reading : Except Obstacle (List UInt8)}
    {descriptions : Descriptions} : loadFrom path reading = .ok descriptions ↔
      reading = .error .notFound ∧ descriptions = empty ∨
        ∃ bytes document, reading = .ok bytes ∧ Text.decode? bytes = some document ∧
          parse document = .ok descriptions := by
  have parsed : ∀ document, (parse document).mapError
      (fun refusal => Fault.malformed path (refusal.message document)) = .ok descriptions ↔
        parse document = .ok descriptions := by
    intro document
    cases parse document <;> simp [Except.mapError]
  constructor
  · intro loaded
    cases found : strictFrom path reading with
    | error fault =>
      rw [loadFrom, found] at loaded
      cases loaded
    | ok result =>
      rw [loadFrom, found] at loaded
      cases result with
      | none =>
        cases loaded
        exact .inl ⟨strictFrom_eq_none_iff.1 found, rfl⟩
      | some document =>
        obtain ⟨bytes, read, decoded⟩ := strictFrom_eq_some_iff.1 found
        exact .inr ⟨bytes, document, read, decoded, (parsed document).1 loaded⟩
  · rintro (⟨rfl, rfl⟩ | ⟨bytes, document, read, decoded, isParsed⟩)
    · rfl
    · rw [loadFrom, strictFrom_eq_some_iff.2 ⟨bytes, read, decoded⟩]
      exact (parsed document).2 isParsed

end Descriptions

theorem root_of_load {run : TreeRun} {root : Path} {settings : Settings}
    (loaded : (run.after (Settings.load root)).1 = .ok settings) : settings.root = root := by
  rw [Settings.load, TreeRun.after_bind] at loaded
  generalize run.after (Overrides.load root) = ends at loaded
  obtain ⟨outcome, later⟩ := ends
  cases outcome with
  | error fault => cases loaded
  | ok overrides =>
    cases overrides with
    | none =>
      cases loaded
      rfl
    | some overrides =>
      cases loaded
      rfl

end SourceCatalog
