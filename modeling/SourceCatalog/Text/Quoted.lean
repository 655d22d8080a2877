import SourceCatalog.Text.Basic
import SourceCatalog.Text.PrintTable

/-!
# Quoted texts

A text in double quotes, on one line and in printable characters only, as paths and strings
are shown in messages.
-/

namespace SourceCatalog.Text

/-- The code of a character in lower-case hexadecimal digits, in braces. -/
def codeEscape (escaped : Char) : Text :=
  ['\\', 'u', '{'] ++ Nat.toDigits 16 escaped.toNat ++ ['}']

def quotedChar (shown : Char) : Text :=
  if shown = '"' then ['\\', '"']
  else if shown = '\\' then ['\\', '\\']
  else if shown = '\n' then ['\\', 'n']
  else if shown = '\r' then ['\\', 'r']
  else if shown = '\t' then ['\\', 't']
  else if shown = '\x00' then ['\\', '0']
  else if extendingCodes.holds shown || unprintableCodes.holds shown then codeEscape shown
  else [shown]

def quoted (text : Text) : Text :=
  ['"'] ++ text.flatMap quotedChar ++ ['"']

end SourceCatalog.Text
