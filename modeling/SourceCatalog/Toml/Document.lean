import SourceCatalog.Text.Place
import SourceCatalog.Toml.Statement

/-!
# The contents of a TOML document

The statements of a document declare values and tables, each by the names that lead to it from
the root. A name may be declared once only, with these exceptions: a table may be led through
any number of times, a table that has only been led through by headers may be opened once,
and a header in double brackets starts a new element, which hides the declarations inside the
one before. A dotted key leads only through tables that are made by keys, or by headers that
lead through them.
-/

namespace SourceCatalog.Toml

inductive Role where
  | value (value : Value)
  /-- A table that headers lead through. -/
  | implied
  /-- A table that dotted keys lead through. -/
  | dotted
  /-- A table with a header of its own. -/
  | opened
  /-- A list of tables, each with a header of its own. -/
  | elements
  deriving DecidableEq, Repr

structure Declaration where
  names : List Text
  role : Role
  key : Nat
  left : Nat
  deriving DecidableEq, Repr

/-- The declarations so far, in order, and the names that lead to the table that is open. -/
structure Declared where
  declarations : List Declaration
  current : List Text
  deriving DecidableEq, Repr

namespace Declared

def start : Declared := ⟨[], []⟩

def role? (declared : Declared) (names : List Text) : Option Role :=
  (declared.declarations.find? (·.names == names)).map Declaration.role

def declare (declared : Declared) (declaration : Declaration) : Declared :=
  { declared with declarations := declared.declarations ++ [declaration] }

/-- Lead through tables, from the names that are given first. Missing tables are declared with
the given role; a dotted key does not lead through a table with a header. -/
def lead (made : Role) : List Text → List Key → Declared → Option Declared
  | _, [], declared => some declared
  | outer, key :: keys, declared =>
    let names := outer ++ [key.name]
    match declared.role? names with
    | none => lead made names keys (declared.declare ⟨names, made, key.left, key.left⟩)
    | some (.value _) => none
    | some .opened => if made = .dotted then none else lead made names keys declared
    | some _ => lead made names keys declared

/-- Assign a value in the open table. The table that holds it is the open one, or one that is
made by dotted keys. -/
def assign (path : KeyPath) (value : Value) (left : Nat) (declared : Declared) :
    Option Declared := do
  let led ← declared.lead .dotted declared.current path.parents
  let table := declared.current ++ path.parents.map Key.name
  let names := table ++ [path.last.name]
  if !path.parents.isEmpty && led.role? table != some .dotted then none
  else if (led.role? names).isSome then none
  else some (led.declare ⟨names, .value value, path.last.left, left⟩)

/-- Open a table. One that headers have led through is declared anew, at the end. -/
def openTable (path : KeyPath) (left : Nat) (declared : Declared) : Option Declared := do
  let led ← declared.lead .implied [] path.parents
  let names := path.names
  let declaration : Declaration := ⟨names, .opened, path.last.left, left⟩
  match led.role? names with
  | none => some { led.declare declaration with current := names }
  | some .implied =>
    let others := led.declarations.filter (·.names != names)
    some ⟨others ++ [declaration], names⟩
  | some _ => none

/-- Open a new element of a list of tables, which is empty at first. -/
def openElement (path : KeyPath) (left : Nat) (declared : Declared) : Option Declared := do
  let led ← declared.lead .implied [] path.parents
  let names := path.names
  match led.role? names with
  | none =>
    some { led.declare ⟨names, .elements, path.last.left, left⟩ with current := names }
  | some .elements =>
    let outside (declaration : Declaration) :=
      declaration.names == names || !names.isPrefixOf declaration.names
    some ⟨led.declarations.filter outside, names⟩
  | some _ => none

def follow (declared : Declared) : Statement → Option Declared
  | .assign path value left => declared.assign path value left
  | .openTable path left => declared.openTable path left
  | .openElement path left => declared.openElement path left

end Declared

/-! ## Contents -/

/-- What a role looks like from outside: tables and lists of them are no strings. -/
def Role.seen : Role → Value
  | .value assigned => assigned
  | .elements => .other .sequence
  | .implied => .other .map
  | .dotted => .other .map
  | .opened => .other .map

/-- A name at the root of a document with its value, and where the two stand. -/
structure Item where
  name : Text
  value : Value
  keyPlace : Text.Place
  valuePlace : Text.Place
  deriving DecidableEq, Repr

/-- The place in a document where some number of characters are left. -/
def placeOf (document : Text) (left : Nat) : Text.Place :=
  Text.Place.start.after (document.take (document.length - left))

def itemOf? (document : Text) (declaration : Declaration) : Option Item :=
  match declaration.names with
  | [name] =>
    some ⟨name, declaration.role.seen, placeOf document declaration.key,
      placeOf document declaration.left⟩
  | _ => none

/-- The items at the root of a document, in order; none if it is not well formed. -/
def items? (document : Text) : Option (List Item) := do
  let statements ← statements document
  let declared ← statements.foldlM Declared.follow Declared.start
  return declared.declarations.filterMap (itemOf? document)

end SourceCatalog.Toml
