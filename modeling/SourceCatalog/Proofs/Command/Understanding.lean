import SourceCatalog.Command.Run
import SourceCatalog.Proofs.Command.Spelling
import SourceCatalog.Proofs.Text.Cutting

/-!
# Understanding each spelling

What the words of a spelling ask for is what the reader keeps, once everything pending has been
looked at. Main statement: every spelling of a request is understood as that request.
-/

namespace SourceCatalog.Command

/-- Words are taken, none of which is the name of a task. -/
inductive Takes (scope : Scope) : Given → List Text → Given → Prop
  | done (given : Given) : Takes scope given [] given
  | word {given taken last : Given} {argument : Text} {others : List Text} :
      argument ≠ doubleDash →
      (scope = .program → given.awaitsValue = true ∨ argument.head? = some '-') →
      takeArgument scope given argument = .ok taken → Takes scope taken others last →
      Takes scope given (argument :: others) last

namespace Takes

variable {scope : Scope} {given middle last : Given} {words others : List Text}

theorem append (first : Takes scope given words middle) (second : Takes scope middle others last) :
    Takes scope given (words ++ others) last := by
  induction first with
  | done => exact second
  | word different outside takes _ inductionHypothesis =>
    exact word different outside takes (inductionHypothesis second)

theorem single {argument : Text} (different : argument ≠ doubleDash)
    (outside : scope = .program → given.awaitsValue = true ∨ argument.head? = some '-')
    (takes : takeArgument scope given argument = .ok last) :
    Takes scope given [argument] last :=
  word different outside takes (done last)

/-- Words that are taken leave the others to what has been given by then. -/
theorem takeAll_eq (takes : Takes scope given words last) (others : List Text) :
    takeAll scope given (words ++ others) = takeAll scope last others := by
  induction takes with
  | done => rfl
  | word different _ taken _ inductionHypothesis =>
    rw [List.cons_append, takeAll, if_neg different, taken]
    exact inductionHypothesis

end Takes

theorem taskScope?_of_dash {word : Text} (dash : word.head? = some '-') :
    taskScope? word = none ∧ word ≠ helpWord := by
  have different : ∀ other : Text, other.head? ≠ some '-' → word ≠ other := by
    intro other plain same
    rw [same] at dash
    exact plain dash
  refine ⟨?_, different helpWord (by decide)⟩
  rw [taskScope?, if_neg (different _ (by decide)), if_neg (different _ (by decide))]

theorem Takes.readFrom_eq {given last : Given} {words : List Text}
    (takes : Takes .program given words last) (environment : Option Path) (others : List Text) :
    readFrom environment given (words ++ others) = readFrom environment last others := by
  induction takes with
  | done => rfl
  | @word given taken last argument words different outside takes _ inductionHypothesis =>
    rw [List.cons_append, readFrom, if_neg different, takes]
    rcases outside rfl with awaits | dash
    · simp only [awaits, if_true, Bool.not_true, Bool.false_eq_true, and_false, if_false]
      exact inductionHypothesis
    · obtain ⟨noTask, noHelp⟩ := taskScope?_of_dash dash
      simp only [noTask, ite_self, noHelp, false_and, if_false]
      exact inductionHypothesis

def Wish.given (wish : Wish) : Given :=
  ⟨wish.root, wish.logFormat, min wish.detail Given.mostDetail, wish.format, wish.output, none⟩

/-- Nothing is pending in a wish, and so there is nothing to complain of. -/
theorem Wish.settle_given (wish : Wish) : wish.given.settle = .ok wish.given :=
  rfl

variable {scope : Scope} {given : Given} {wish next : Wish} {slot : Slot}

theorem assign_root {value : Path} (fresh : wish.root = none) (filled : value ≠ []) :
    wish.given.assign .root value = .ok ({ wish with root := some value } : Wish).given := by
  simp [Given.assign, Given.has, Wish.given, fresh, filled]

theorem assign_output {path : Path} (fresh : wish.output = none) (filled : path ≠ []) :
    wish.given.assign .output path = .ok ({ wish with output := some path } : Wish).given := by
  simp [Given.assign, Given.has, Wish.given, fresh, filled]

theorem assign_logFormat {format : Log.Format} (fresh : wish.logFormat = none) :
    wish.given.assign .logFormat (logFormatWord format) =
      .ok ({ wish with logFormat := some format } : Wish).given := by
  cases format <;> simp [Given.assign, Given.has, Wish.given, fresh, logFormatWord,
    Given.logFormatOf?]

theorem assign_format (format : Keyword.Format) (fresh : wish.format = none) :
    wish.given.assign .format (formatWord format) =
      .ok ({ wish with format := some format } : Wish).given := by
  cases format <;> simp [Given.assign, Given.has, Wish.given, fresh, formatWord, Given.formatOf?]

theorem moreDetail_eq (settles : given.settle = .ok wish.given) :
    given.moreDetail = .ok ({ wish with detail := wish.detail + 1 } : Wish).given := by
  have counted : min (min wish.detail Given.mostDetail + 1) Given.mostDetail =
      min (wish.detail + 1) Given.mostDetail := by
    omega
  rw [Given.moreDetail, settles]
  simp only [Wish.given, ← counted]
  rfl

theorem not_awaitsValue (settles : given.settle = .ok wish.given) :
    given.awaitsValue = false := by
  cases pending : given.pending with
  | none => simp [Given.awaitsValue, pending]
  | some held =>
    obtain ⟨slot, value⟩ := held
    cases value with
    | none =>
      rw [Given.settle, pending] at settles
      cases settles
    | some value => simp [Given.awaitsValue, pending]

theorem output_of_assign {given taken : Given} {value : Text}
    (assigns : given.assign slot value = .ok taken) (absent : taken.output = none) :
    given.output = none ∧ slot ≠ .output := by
  unfold Given.assign at assigns
  split at assigns
  · cases assigns
  · split at assigns
    · cases assigns
    · cases slot with
      | root =>
        cases assigns
        exact ⟨absent, by decide⟩
      | output =>
        cases assigns
        cases absent
      | logFormat =>
        simp only at assigns
        split at assigns
        · cases assigns
          exact ⟨absent, by decide⟩
        · cases assigns
      | format =>
        simp only at assigns
        split at assigns
        · cases assigns
          exact ⟨absent, by decide⟩
        · cases assigns

/-- The file to write can still be named, unless it has been asked for. -/
theorem output_unsaid (settles : given.settle = .ok wish.given) (fresh : wish.output = none) :
    (given.output.isSome || given.pending.any (·.1 == .output)) = false := by
  rw [Given.settle] at settles
  cases pending : given.pending with
  | none =>
    rw [pending] at settles
    cases settles
    simp [Wish.given, fresh]
  | some held =>
    obtain ⟨slot, value⟩ := held
    rw [pending] at settles
    cases value with
    | none => cases settles
    | some value =>
      obtain ⟨absent, other⟩ := output_of_assign settles fresh
      simp only at absent
      simp [absent, other]

theorem cutLong_bare {name : Text} (noEquals : '=' ∉ name) : cutLong name = (name, none) := by
  rw [cutLong]
  cases cut : Text.splitFirst? ['='] name with
  | none => rfl
  | some parts =>
    obtain ⟨before, after⟩ := parts
    rw [Text.append_of_splitFirst? cut] at noEquals
    simp at noEquals

theorem cutLong_equals {name : Text} (noEquals : '=' ∉ name) (value : Text) :
    cutLong (name ++ '=' :: value) = (name, some value) := by
  have fresh : ¬ ['='] <:+: name := fun occurs => noEquals (occurs.subset (by simp))
  have alone : Text.Unbordered ['='] := by decide
  have cut := Text.splitFirst?_append alone fresh value
  rw [List.append_assoc, List.singleton_append] at cut
  rw [cutLong, cut]

theorem take_attached (settles : given.settle = .ok wish.given) {value : Text}
    (assigns : wish.given.assign slot value = .ok next.given) :
    given.take slot (some value) = .ok next.given := by
  rw [Given.take, settles]
  exact assigns

/-- Without an attached value the option waits for its value. -/
theorem take_apart (settles : given.settle = .ok wish.given) (slot : Slot) :
    given.take slot none = .ok { wish.given with pending := some (slot, none) } := by
  rw [Given.take, settles]
  rfl

theorem Plain.ne_doubleDash {word : Text} (plain : Plain word) : word ≠ doubleDash := by
  rintro rfl
  exact plain rfl

theorem Plain.takeArgument_eq {word : Text} (plain : Plain word) (scope : Scope) (given : Given) :
    takeArgument scope given word =
      match given.pending with
      | some (slot, none) => .ok { given with pending := some (slot, some word) }
      | _ => takePlain scope false given word := by
  apply takeArgument.eq_3
  · rintro written rfl
    exact plain rfl
  · rintro letter others rfl
    exact plain rfl

/-- The value of an option that has been taken. -/
theorem takes_apartValue (scope : Scope) {value : Text} (plain : Plain value)
    (assigns : wish.given.assign slot value = .ok next.given) :
    ∃ last, Takes scope { wish.given with pending := some (slot, none) } [value] last ∧
      last.settle = .ok next.given := by
  refine ⟨{ wish.given with pending := some (slot, some value) }, ?_, assigns⟩
  refine Takes.single plain.ne_doubleDash (fun _ => Or.inl rfl) ?_
  exact plain.takeArgument_eq scope _

theorem dashes_ne {written : Text} (filled : written ≠ []) :
    "--".toList ++ written ≠ doubleDash :=
  fun same => filled (List.append_right_eq_self.1 same)

/-- An option with a value takes what is attached to its name. -/
theorem takeLong_value {name written : Text} {attached : Option Text}
    (option : longOption? scope name = some (.value slot))
    (cut : cutLong written = (name, attached)) :
    takeLong scope given written = given.take slot attached := by
  simp only [takeLong, cut, option]

theorem longOption?_root (scope : Scope) :
    longOption? scope "root".toList = some (.value .root) := by
  cases scope <;> rfl

theorem longOption?_logFormat (scope : Scope) :
    longOption? scope "log-format".toList = some (.value .logFormat) := by
  cases scope <;> rfl

/-- A long option that a scope knows, with its value. -/
theorem takes_valued {name value : Text} {words : List Text}
    (option : longOption? scope name = some (.value slot)) (noEquals : '=' ∉ name)
    (filled : name ≠ []) (settles : given.settle = .ok wish.given)
    (assigns : wish.given.assign slot value = .ok next.given) (valued : Valued name value words) :
    ∃ last, Takes scope given words last ∧ last.settle = .ok next.given := by
  cases valued with
  | apart plain =>
    obtain ⟨last, takes, settled⟩ := takes_apartValue scope plain assigns
    refine ⟨last, Takes.word (dashes_ne filled) (fun _ => Or.inr rfl) ?_ takes, settled⟩
    rw [← take_apart settles slot]
    exact takeLong_value option (cutLong_bare noEquals)
  | attached =>
    have different : "--".toList ++ name ++ '=' :: value ≠ doubleDash := by
      rw [List.append_assoc]
      exact dashes_ne (by simp)
    refine ⟨_, Takes.single different (fun _ => Or.inr rfl) ?_, next.settle_given⟩
    rw [← take_attached settles assigns]
    exact takeLong_value option (cutLong_equals noEquals value)

/-- The document format, which has a letter as well. -/
theorem takes_formatted {format : Keyword.Format} {words : List Text}
    (settles : given.settle = .ok wish.given) (fresh : wish.format = none)
    (formatted : Formatted (formatWord format) words) :
    ∃ last, Takes .dumpTokens given words last ∧
      last.settle = .ok ({ wish with format := some format } : Wish).given := by
  have assigns := assign_format format fresh
  cases formatted with
  | long valued => exact takes_valued rfl (by decide) (by decide) settles assigns valued
  | apart =>
    have plain : Plain (formatWord format) := by
      cases format <;> decide
    obtain ⟨last, takes, settled⟩ := takes_apartValue .dumpTokens plain assigns
    refine ⟨last, Takes.word (by decide) (fun _ => Or.inr rfl) ?_ takes, settled⟩
    exact take_apart settles .format
  | attached =>
    have different : "-f".toList ++ formatWord format ≠ doubleDash := by
      cases format <;> decide
    refine ⟨_, Takes.single different (fun _ => Or.inr rfl) ?_, Wish.settle_given _⟩
    rw [← take_attached settles assigns]
    cases format <;> rfl
  | equals =>
    have different : "-f=".toList ++ formatWord format ≠ doubleDash := by
      cases format <;> decide
    refine ⟨_, Takes.single different (fun _ => Or.inr rfl) ?_, Wish.settle_given _⟩
    exact take_attached settles assigns

/-- Each letter of a cluster asks for more detail once. -/
theorem takeShort_cluster (scope : Scope) (settles : given.settle = .ok wish.given) (count : Nat) :
    ∃ last, takeShort scope given (List.replicate count 'v') = .ok last ∧
      last.settle = .ok ({ wish with detail := wish.detail + count } : Wish).given := by
  induction count generalizing given wish with
  | zero => exact ⟨given, rfl, settles⟩
  | succ count inductionHypothesis =>
    obtain ⟨last, takes, more⟩ :=
      inductionHypothesis (Wish.settle_given { wish with detail := wish.detail + 1 })
    refine ⟨last, ?_, ?_⟩
    · rw [List.replicate_succ, takeShort, moreDetail_eq settles]
      exact takes
    · rw [more, Nat.add_assoc, Nat.add_comm 1 count]

theorem takes_cluster (scope : Scope) (settles : given.settle = .ok wish.given) (count : Nat) :
    ∃ last, Takes scope given ['-' :: List.replicate (count + 1) 'v'] last ∧
      last.settle = .ok ({ wish with detail := wish.detail + (count + 1) } : Wish).given := by
  obtain ⟨last, takes, settled⟩ := takeShort_cluster scope settles (count + 1)
  refine ⟨last, Takes.single ?_ (fun _ => Or.inr rfl) takes, settled⟩
  rw [List.replicate_succ]
  intro same
  cases same

theorem takes_verbose (scope : Scope) (settles : given.settle = .ok wish.given) :
    ∃ last, Takes scope given ["--verbose".toList] last ∧
      last.settle = .ok ({ wish with detail := wish.detail + 1 } : Wish).given := by
  refine ⟨_, Takes.single (by decide) (fun _ => Or.inr rfl) ?_, Wish.settle_given _⟩
  exact moreDetail_eq settles

theorem takePlain_output (settles : given.settle = .ok wish.given) (fresh : wish.output = none)
    (trailing : Bool) (path : Path) :
    takePlain .dumpTokens trailing given path =
      .ok { wish.given with pending := some (.output, some path) } := by
  rw [takePlain, output_unsaid settles fresh, settles]
  rfl

/-- The file to write stands as a word of its own. -/
theorem takes_output {path : Path} (settles : given.settle = .ok wish.given)
    (fresh : wish.output = none) (filled : path ≠ []) (plain : Plain path) :
    ∃ last, Takes .dumpTokens given [path] last ∧
      last.settle = .ok ({ wish with output := some path } : Wish).given := by
  refine ⟨{ wish.given with pending := some (.output, some path) }, ?_,
    assign_output fresh filled⟩
  refine Takes.single plain.ne_doubleDash (fun same => by cases same) ?_
  rw [plain.takeArgument_eq, ← takePlain_output settles fresh false path]
  split
  · next slot pending =>
    have noValue := not_awaitsValue settles
    simp [Given.awaitsValue, pending] at noValue
  · rfl

/-- Each option adds its part to what the words before it have given. -/
theorem takes_of_asks {words : List Text} (asks : Asks scope wish words) :
    ∃ last, Takes scope .nothing words last ∧ last.settle = .ok wish.given := by
  induction asks with
  | nothing => exact ⟨.nothing, Takes.done _, rfl⟩
  | root value _ fresh filled valued inductionHypothesis =>
    obtain ⟨given, takes, settles⟩ := inductionHypothesis
    obtain ⟨last, more, settled⟩ := takes_valued (longOption?_root scope)
      (by decide) (by decide) settles (assign_root fresh filled) valued
    exact ⟨last, takes.append more, settled⟩
  | logFormat format _ fresh valued inductionHypothesis =>
    obtain ⟨given, takes, settles⟩ := inductionHypothesis
    obtain ⟨last, more, settled⟩ := takes_valued (longOption?_logFormat scope)
      (by decide) (by decide) settles (assign_logFormat fresh) valued
    exact ⟨last, takes.append more, settled⟩
  | verbose _ inductionHypothesis =>
    obtain ⟨given, takes, settles⟩ := inductionHypothesis
    obtain ⟨last, more, settled⟩ := takes_verbose scope settles
    exact ⟨last, takes.append more, settled⟩
  | cluster count _ inductionHypothesis =>
    obtain ⟨given, takes, settles⟩ := inductionHypothesis
    obtain ⟨last, more, settled⟩ := takes_cluster scope settles count
    exact ⟨last, takes.append more, settled⟩
  | format format inTask _ fresh formatted inductionHypothesis =>
    obtain ⟨given, takes, settles⟩ := inductionHypothesis
    obtain ⟨last, more, settled⟩ := takes_formatted settles fresh formatted
    rw [inTask] at takes ⊢
    exact ⟨last, takes.append more, settled⟩
  | output path inTask _ fresh filled plain inductionHypothesis =>
    obtain ⟨given, takes, settles⟩ := inductionHypothesis
    obtain ⟨last, more, settled⟩ := takes_output settles fresh filled plain
    rw [inTask] at takes ⊢
    exact ⟨last, takes.append more, settled⟩

variable {environment : Option Path}

/-- At the end of a scope a wish is taken as it stands. -/
theorem close_eq (named : environment ≠ some []) (settles : given.settle = .ok wish.given) :
    close environment given = .ok wish.given := by
  have usable : environment.any List.isEmpty = false := by
    cases environment with
    | none => rfl
    | some root =>
      cases root with
      | nil => exact absurd rfl named
      | cons head tail => rfl
  rw [close, settles]
  simp [usable]

theorem readTask_eq {words : List Text} (named : environment ≠ some [])
    (takes : takeAll scope .nothing words = .ok given) (settles : given.settle = .ok wish.given)
    (complete : scope = .dumpTokens → wish.output ≠ none) :
    readTask environment scope words = .ok wish.given := by
  have outputGiven : ¬ (scope = .dumpTokens ∧ wish.given.output = none) :=
    fun missing => complete missing.1 missing.2
  simp only [readTask, takes, close_eq named settles, bind, Except.bind, if_neg outputGiven]
  rfl

/-- The words of an order are read as the arguments of its task. -/
theorem readTask_of_orders {order : Order} {words : List Text} (named : environment ≠ some [])
    (orders : Orders order wish words) :
    ∃ scope word others, words = word :: others ∧ taskScope? word = some scope ∧
      readTask environment scope others = .ok wish.given ∧
      taskOf scope wish.given = order.task := by
  cases orders with
  | genReadme asks =>
    obtain ⟨last, takes, settles⟩ := takes_of_asks asks
    have taken := takes.takeAll_eq []
    rw [List.append_nil, takeAll] at taken
    exact ⟨_, _, _, rfl, rfl, readTask_eq named taken settles (fun same => by cases same), rfl⟩
  | dumpTokens asks asked =>
    obtain ⟨last, takes, settles⟩ := takes_of_asks asks
    have taken := takes.takeAll_eq []
    rw [List.append_nil, takeAll] at taken
    have read := readTask_eq named taken settles (fun _ => by rw [asked]; simp)
    refine ⟨_, _, _, rfl, rfl, read, ?_⟩
    rw [taskOf, Wish.given, asked]
    rfl
  | @trailing wish words output asks fresh filled =>
    obtain ⟨last, takes, settles⟩ := takes_of_asks asks
    have taken := takes.takeAll_eq [doubleDash, output]
    rw [takeAll, if_pos rfl, takeTrailing, List.foldlM_cons,
      takePlain_output settles fresh true output] at taken
    have read := readTask_eq named taken (assign_output fresh filled) (by simp)
    exact ⟨_, _, _, rfl, rfl, read, rfl⟩

/-! ## Both sides -/

/-- The words behind the name of a task go to that task. -/
theorem readFrom_task {word : Text} {others : List Text} {after : Given}
    (names : taskScope? word = some scope) (named : environment ≠ some [])
    (settles : given.settle = .ok wish.given)
    (read : readTask environment scope others = .ok after) :
    readFrom environment given (word :: others) =
      .ok (combine environment wish.given scope after) := by
  rw [readFrom, not_awaitsValue settles]
  simp only [Bool.false_eq_true, if_false, names, read, close_eq named settles]
  rfl

/-- What stands before the name of a task and what stands behind it make one request. -/
theorem combine_eq {before after : Wish} {order : Order} (apart : Apart before after)
    (sameTask : taskOf scope after.given = order.task) :
    combine environment before.given scope after.given =
      Request.invocation environment ⟨before.root.or after.root,
        before.logFormat.or after.logFormat, before.detail + after.detail, order⟩ := by
  have root : after.root.or before.root = before.root.or after.root := by
    rcases apart.root with absent | absent <;> simp [absent]
  have logFormat : after.logFormat.or before.logFormat =
      before.logFormat.or after.logFormat := by
    rcases apart.logFormat with absent | absent <;> simp [absent]
  have detail : (if after.given.verbosity = 0 then before.given.verbosity
      else after.given.verbosity) = min (before.detail + after.detail) Given.mostDetail := by
    have kept (wish : Wish) : wish.given.verbosity = min wish.detail Given.mostDetail := rfl
    have positive : 0 < Given.mostDetail := by decide
    by_cases silent : after.detail = 0
    · rw [if_pos (by rw [kept]; omega), kept, silent, Nat.add_zero]
    · rw [if_neg (by rw [kept]; omega), kept, apart.detail.resolve_right silent, Nat.zero_add]
  rw [combine, sameTask, detail]
  simp only [Wish.given, Request.invocation, root, logFormat]

/-- Every spelling of a request is understood as that request, unless the environment names an
empty root. The run takes its root from the command line, else from the environment, else it is
the working directory. -/
theorem read_of_spells {request : Request} {words : List Text} (named : environment ≠ some [])
    (spells : Spells request words) :
    read environment words = .ok (request.invocation environment) ∧
    ∀ (m : Type → Type) [Monad m] [Workspace m] (working : Path),
      (request.invocation environment).run working = (do
        let settings ← Settings.load (request.place environment working)
        perform settings request.order.task : Job m Report) := by
  have placed : ∀ working, (request.root.or environment).getD working =
      request.place environment working := by
    intro working
    cases root : request.root with
    | some root => simp [Request.place, root]
    | none => cases environment <;> simp [Request.place, root]
  constructor
  · cases spells with
    | @line before after order words others asks orders apart =>
      obtain ⟨given, takes, settles⟩ := takes_of_asks asks
      obtain ⟨scope, word, more, rfl, names, taken, sameTask⟩ := readTask_of_orders named orders
      rw [read, takes.readFrom_eq environment, readFrom_task names named settles taken,
        combine_eq apart sameTask]
  · intro m _ _ working
    rw [Invocation.run, Request.invocation, placed working]

/-- A request whose root is named as a task is, and whose file as an option is. -/
def disguisedRequest : Request where
  root := some "gen-readme".toList
  logFormat := some .json
  detail := 3
  order := .dumpTokens "--root=/other".toList (some .json)

def disguisedLine : List Text :=
  ["--root".toList, "gen-readme".toList, "-vv".toList, "--verbose".toList, "dump-tokens".toList,
    "--log-format=json".toList, "-f=json".toList, "--".toList, "--root=/other".toList]

/-- The values look like a subcommand and an option, and the environment names another root. -/
theorem read_of_spells_disguisedLine :
    Spells disguisedRequest disguisedLine ∧
    read (some "/home".toList) disguisedLine =
      .ok ⟨some "gen-readme".toList, .json, 3, .dumpTokens "--root=/other".toList .json⟩ ∧
    ∀ (m : Type → Type) [Monad m] [Workspace m] (working : Path),
      (disguisedRequest.invocation (some "/home".toList)).run working = (do
        let settings ← Settings.load "gen-readme".toList
        perform settings disguisedRequest.order.task : Job m Report) := by
  have rooted : Asks .program _ _ :=
    Asks.root "gen-readme".toList Asks.nothing rfl (by decide) (Valued.apart (by decide))
  have before : Asks .program _ _ := Asks.verbose (Asks.cluster 1 rooted)
  have logged : Asks .dumpTokens _ _ := Asks.logFormat .json Asks.nothing rfl Valued.attached
  have formatted : Asks .dumpTokens _ _ := Asks.format .json rfl logged rfl Formatted.equals
  have spells : Spells disguisedRequest disguisedLine :=
    Spells.line before (Orders.trailing "--root=/other".toList formatted rfl (by decide))
      ⟨Or.inr rfl, Or.inl rfl, Or.inr rfl⟩
  have named : some "/home".toList ≠ some ([] : Path) := by decide
  exact ⟨spells, read_of_spells named spells⟩

end SourceCatalog.Command
