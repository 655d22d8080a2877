import SourceCatalog.Text.Utf8

/-!
# Terminal texts

A text for a terminal may hold control sequences, which begin with an escape character and are
not shown. The visible part of such a text is what is left without them and without control
characters, blanks excepted. A sequence that is cut short hides what follows until the next
escape character. A blank interrupts a short sequence: the blank is shown, and so is what follows
it up to the next character that cannot be shown; there the sequence goes on.
-/

namespace SourceCatalog.Text

/-- The character that begins a control sequence. -/
def escapeMark : Char := '\x1b'

def boldMark : Text := escapeMark :: "[1m".toList

def plainMark : Text := escapeMark :: "[0m".toList

def bold (text : Text) : Text :=
  boldMark ++ text ++ plainMark

/-- Where in a control sequence a character stands. -/
inductive Sequence where
  /-- in no sequence -/
  | outside
  /-- behind an escape character -/
  | escape
  /-- behind an escape character and marks that announce one more character -/
  | announced
  /-- in the parameters of a command -/
  | parameters
  /-- at the beginning of a device command -/
  | device
  /-- in the parameters of a device command -/
  | deviceParameters
  /-- behind marks that announce the name of a device command -/
  | deviceAnnounced
  /-- in a string that the eighth bit ends -/
  | longString
  /-- in a string that a bell ends -/
  | bellString
  deriving DecidableEq, Repr

/-- The blanks of a terminal: those that are control characters. -/
def isControlBlank (tested : Char) : Bool :=
  tested == '\t' || tested == '\n' || tested == '\x0c' || tested == '\r'

def isBetween (lowest highest tested : Char) : Bool :=
  lowest ≤ tested && tested ≤ highest

/-- Whether the UTF-8 form of a character holds the byte that ends a string. -/
def holdsStringEnd (tested : Char) : Bool :=
  (encode [tested]).contains 0x9C

/-- Whether a character is shown where it stands in no sequence. -/
def isShown (tested : Char) : Bool :=
  isControlBlank tested || (' ' ≤ tested && tested ≠ '\x7f')

namespace Sequence

/-- Whether a character is shown where it stands. In a command a blank is shown, in a string not. -/
def shows (sequence : Sequence) (tested : Char) : Bool :=
  match sequence with
  | outside => isShown tested
  | escape | announced | parameters => isControlBlank tested
  | device | deviceParameters | deviceAnnounced | longString | bellString => false

/-- The sequence that a character begins behind an escape character. -/
def begun (first : Char) : Sequence :=
  if first = '[' then parameters
  else if first = ']' then bellString
  else if first = 'P' then device
  else if first = 'X' ∨ first = '^' ∨ first = '_' then longString
  else if isBetween ' ' '/' first then announced
  else if isBetween '0' '~' first then outside
  else escape

/-- Where the next character stands, after one that is not shown. -/
def next (sequence : Sequence) (read : Char) : Sequence :=
  if read = escapeMark then escape
  else if read = '\x18' ∨ read = '\x1a' then outside
  else
    match sequence with
    | outside => outside
    | escape => begun read
    | announced => if isBetween '0' '~' read then outside else announced
    | parameters => if isBetween '@' '~' read then outside else parameters
    | device =>
      if isBetween ' ' '/' read then deviceAnnounced
      else if isBetween '0' '?' read then deviceParameters
      else if isBetween '@' '~' read then longString
      else device
    | deviceParameters =>
      if isBetween ' ' '/' read then deviceAnnounced
      else if isBetween '<' '~' read then longString
      else deviceParameters
    | deviceAnnounced => if isBetween '0' '~' read then longString else deviceAnnounced
    | longString => if holdsStringEnd read then outside else longString
    | bellString => if read = '\x07' then outside else bellString

/-- Where the next character stands, after one that is shown. Only a character of several bytes
ends a sequence that a blank has interrupted. -/
def afterShown (sequence : Sequence) (shown : Char) : Sequence :=
  if shown.toNat < 0x80 then sequence else outside

end Sequence

/-- What is shown of a text that begins within a sequence, interrupted or not. -/
def visibleFrom (sequence : Sequence) (interrupted : Bool) : Text → Text
  | [] => []
  | head :: tail =>
    if sequence.shows head || (interrupted && isShown head) then
      head :: visibleFrom (sequence.afterShown head) true tail
    else
      visibleFrom (sequence.next head) false tail

/-- What a terminal shows of a text, without styles. -/
def visible (text : Text) : Text :=
  visibleFrom .outside false text

/-- A text of shown characters is visible as it stands. -/
theorem visible_eq_self {text : Text} (shown : ∀ member ∈ text, isShown member = true) :
    visible text = text := by
  have visibleFrom_eq_self (interrupted : Bool) :
      visibleFrom .outside interrupted text = text := by
    induction text generalizing interrupted with
    | nil => rfl
    | cons head tail inductionHypothesis =>
      have headShown : Sequence.outside.shows head = true := shown head List.mem_cons_self
      have outsideStays : Sequence.outside.afterShown head = .outside := ite_self _
      rw [visibleFrom, headShown, Bool.true_or, if_pos rfl, outsideStays,
        inductionHypothesis fun member inTail =>
          shown member (List.mem_cons_of_mem head inTail)]
  exact visibleFrom_eq_self false

end SourceCatalog.Text
