import SourceCatalog.Text.Basic

/-!
# Strings of a JSON document

Quotes, backslashes and control characters are escaped, in the short form where there is one.
Everything else stands for itself.
-/

namespace SourceCatalog.Json

/-- A number below 256 as two hexadecimal digits in lower case. -/
def twoDigits (code : Nat) : Text :=
  [Nat.digitChar (code / 16), Nat.digitChar (code % 16)]

def escaped (written : Char) : Text :=
  if written = '"' then ['\\', '"']
  else if written = '\\' then ['\\', '\\']
  else if written = '\x08' then ['\\', 'b']
  else if written = '\x0c' then ['\\', 'f']
  else if written = '\n' then ['\\', 'n']
  else if written = '\r' then ['\\', 'r']
  else if written = '\t' then ['\\', 't']
  else if written.toNat < 0x20 then ['\\', 'u', '0', '0'] ++ twoDigits written.toNat
  else [written]

def quoted (content : Text) : Text :=
  ['"'] ++ content.flatMap escaped ++ ['"']

end SourceCatalog.Json
