import SourceCatalog.Text.Quoted

/-!
# Events

An event is a message with fields, from one part of the program, which is called its target.
It may happen within spans, each a named stretch of work with fields of its own.
-/

namespace SourceCatalog.Log

inductive Level where
  | error
  | warn
  | info
  | debug
  | trace
  deriving DecidableEq, Repr

namespace Level

def all : List Level := [error, warn, info, debug, trace]

/-- The place of a level, counted from one. -/
def rank : Level → Nat
  | error => 1
  | warn => 2
  | info => 3
  | debug => 4
  | trace => 5

def name : Level → Text
  | error => "ERROR".toList
  | warn => "WARN".toList
  | info => "INFO".toList
  | debug => "DEBUG".toList
  | trace => "TRACE".toList

end Level

inductive Value where
  | number (value : Nat)
  | text (content : Text)
  deriving DecidableEq, Repr

structure Field where
  name : Text
  value : Value
  deriving DecidableEq, Repr

namespace Field

def count (name : String) (value : Nat) : Field :=
  ⟨name.toList, .number value⟩

def plain (name : String) (content : Text) : Field :=
  ⟨name.toList, .text content⟩

/-- A field with a text in quotes. -/
def quoted (name : String) (content : Text) : Field :=
  ⟨name.toList, .text content.quoted⟩

end Field

structure Span where
  name : Text
  target : Text
  fields : List Field
  deriving DecidableEq, Repr

/-- Something that happened, within spans that are given from the outermost one on. -/
structure Event where
  level : Level
  target : Text
  message : Text
  fields : List Field
  spans : List Span
  deriving DecidableEq, Repr

end SourceCatalog.Log
