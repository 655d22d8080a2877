import SourceCatalog.Text.Basic

/-!
# UTF-8

Bytes are read one at a time by a small machine. Each complete character is one reading, and
so is each longest run of bytes that begins a character and cannot end it. A strict decoder
accepts characters only; a lenient one writes the replacement character for a broken run.
-/

namespace SourceCatalog.Text

/-- What a decoder has seen: a character, or a run of bytes that is none. -/
inductive Reading where
  | character (decoded : Char)
  | broken
  deriving DecidableEq, Repr

/-- A character that is not complete: its bits so far, the number of bytes it still misses,
and the bounds of the next one. -/
structure Unfinished where
  bits : Nat
  missing : Nat
  low : Nat
  high : Nat
  deriving DecidableEq, Repr

/-- The first byte of a character, or a byte that begins none. The bounds of the second byte
keep out longer forms than needed, surrogates, and codes beyond the last one. -/
def readFirst (byte : Nat) : List Reading × Option Unfinished :=
  if byte < 0x80 then ([.character (Char.ofNat byte)], none)
  else if byte < 0xC2 then ([.broken], none)
  else if byte < 0xE0 then ([], some ⟨byte - 0xC0, 1, 0x80, 0xBF⟩)
  else if byte = 0xE0 then ([], some ⟨0, 2, 0xA0, 0xBF⟩)
  else if byte = 0xED then ([], some ⟨0xD, 2, 0x80, 0x9F⟩)
  else if byte < 0xF0 then ([], some ⟨byte - 0xE0, 2, 0x80, 0xBF⟩)
  else if byte = 0xF0 then ([], some ⟨0, 3, 0x90, 0xBF⟩)
  else if byte < 0xF4 then ([], some ⟨byte - 0xF0, 3, 0x80, 0xBF⟩)
  else if byte = 0xF4 then ([], some ⟨4, 3, 0x80, 0x8F⟩)
  else ([.broken], none)

/-- One more byte. A byte that cannot continue the unfinished character breaks it off and is
then read as a first byte. -/
def readByte (unfinished : Option Unfinished) (byte : Nat) :
    List Reading × Option Unfinished :=
  match unfinished with
  | none => readFirst byte
  | some started =>
    if started.low ≤ byte ∧ byte ≤ started.high then
      let bits := started.bits * 64 + (byte - 0x80)
      if started.missing ≤ 1 then
        ([.character (Char.ofNat bits)], none)
      else
        ([], some ⟨bits, started.missing - 1, 0x80, 0xBF⟩)
    else
      (.broken :: (readFirst byte).1, (readFirst byte).2)

/-- All readings of some bytes after an unfinished character. -/
def readingsAfter (unfinished : Option Unfinished) : List UInt8 → List Reading
  | [] => if unfinished.isSome then [.broken] else []
  | byte :: rest =>
    (readByte unfinished byte.toNat).1 ++ readingsAfter (readByte unfinished byte.toNat).2 rest

def readings (bytes : List UInt8) : List Reading :=
  readingsAfter none bytes

def Reading.character? : Reading → Option Char
  | .character decoded => some decoded
  | .broken => none

/-- The character of a reading, or the replacement character. -/
def Reading.orReplacement : Reading → Char
  | .character decoded => decoded
  | .broken => Char.ofNat 0xFFFD

def decode? (bytes : List UInt8) : Option Text :=
  (readings bytes).mapM Reading.character?

/-- The text of any bytes, with one replacement character for each broken run. -/
def decodeLossy (bytes : List UInt8) : Text :=
  (readings bytes).map Reading.orReplacement

def encode (text : Text) : List UInt8 :=
  text.flatMap String.utf8EncodeChar

end SourceCatalog.Text
