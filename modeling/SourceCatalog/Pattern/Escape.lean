import SourceCatalog.Pattern.Flags
import SourceCatalog.Text.Digits

/-!
# Escapes

A backslash gives the characters behind it another meaning: a mark stands for itself, and a
letter for a character that is hard to write, for a kind of characters, or for a condition.
-/

namespace SourceCatalog.Pattern

inductive Escape where
  | character (meant : Char)
  | members (meant : CharSet)
  | condition (meant : Condition)
  deriving DecidableEq, Repr

namespace Escape

/-- A number of hexadecimal digits, and the text behind them. -/
def readDigits? (flags : Flags) : Nat → Text → Option (Text × Text)
  | 0, written => some ([], written)
  | count + 1, written =>
    match flags.skip written with
    | [] => none
    | digit :: after =>
      if Text.isDigitOf 16 digit then
        (readDigits? flags count after).map fun (digits, rest) => (digit :: digits, rest)
      else
        none

def characterOf? (code : Nat) : Option Char :=
  if code.isValidChar then some (Char.ofNat code) else none

/-- The character whose code is written with a number of digits. A code of two digits is a byte
where kinds do not reach beyond ASCII, and no byte beyond it is a character. -/
def readCode? (flags : Flags) (count : Nat) (written : Text) : Option (Escape × Text) := do
  let (digits, rest) ← readDigits? flags count written
  let code ← Text.numeral? 16 digits
  if count = 2 ∧ 0x80 ≤ code ∧ !flags.contains .universal then
    none
  else
    let meant ← characterOf? code
    return (.character meant, rest)

/-- A kind with a letter of its own, or its ASCII part. -/
def shortKind? (flags : Flags) (letter : Char) : Option CharSet :=
  let chosen (kind : Kind) (ascii : CharSet) : CharSet :=
    if flags.contains .universal then .ofKind kind else ascii
  match letter.toLower with
  | 'd' => some (chosen .decimal .asciiDigits)
  | 's' => some (chosen .blank .asciiBlanks)
  | 'w' => some (chosen .wordPart .asciiWordParts)
  | _ => none

/-- The category that a letter behind the escape names. Categories reach beyond ASCII. -/
def readCategory? (flags : Flags) (negated : Bool) (written : Text) : Option (Escape × Text) :=
  match flags.skip written with
  | [] => none
  | letter :: rest => do
    let kind ← Kind.ofLetter? letter
    if flags.contains .universal then
      let meant ← flags.orOthers? negated (flags.cased (.ofKind kind))
      return (.members meant, rest)
    else
      none

/-- The condition that a letter or an angle names. Words are ASCII words here. -/
def condition? (flags : Flags) (letter : Char) : Option Condition :=
  let ofWord (condition : Condition) : Option Condition :=
    if flags.contains .universal then none else some condition
  match letter with
  | 'A' => some .textStart
  | 'z' => some .textEnd
  | 'b' => ofWord .wordEdge
  | 'B' => ofWord .noWordEdge
  | '<' => ofWord .wordStart
  | '>' => ofWord .wordEnd
  | _ => none

def control? : Char → Option Char
  | 'a' => some '\x07'
  | 'f' => some '\x0c'
  | 't' => some '\t'
  | 'n' => some '\n'
  | 'r' => some '\r'
  | 'v' => some '\x0b'
  | _ => none

/-- Whether a character stands for itself behind a backslash: an ASCII character that is neither a
letter nor a digit nor an angle. -/
def isPlain (escaped : Char) : Bool :=
  escaped.toNat < 0x80 && !escaped.isAlphanum && escaped != '<' && escaped != '>'

def single? (flags : Flags) (escaped : Char) : Option Escape :=
  if isPlain escaped then some (.character escaped)
  else
    match control? escaped, shortKind? flags escaped with
    | some meant, _ => some (.character meant)
    | none, some meant => (flags.orOthers? escaped.isUpper meant).map .members
    | none, none => (condition? flags escaped).map .condition

def read? (flags : Flags) : Text → Option (Escape × Text)
  | [] => none
  | 'x' :: after => readCode? flags 2 after
  | 'u' :: after => readCode? flags 4 after
  | 'U' :: after => readCode? flags 8 after
  | 'p' :: after => readCategory? flags false after
  | 'P' :: after => readCategory? flags true after
  | escaped :: after => (single? flags escaped).map fun escape => (escape, after)

end Escape

end SourceCatalog.Pattern
