import SourceCatalog.Text.Alphanumeric
import SourceCatalog.Text.Basic
import SourceCatalog.Text.CategoryTable

/-!
# Categories of characters

The general categories of characters, one capital letter each in the Unicode character database,
and the characters that words are made of. Each category but the numbers, marks and punctuation
is what the others leave, so every character is in exactly one of the seven.
-/

namespace SourceCatalog.Text

def isDecimal (tested : Char) : Bool :=
  zeroCodes.any fun first => first ≤ tested.toNat && tested.toNat < first + 10

def isNumber (tested : Char) : Bool :=
  isDecimal tested || letterNumberCodes.holds tested || otherNumberCodes.holds tested

/-- Whether a character is alphabetic, as letters, letter numbers and most vowel marks are. -/
def isAlphabetic (tested : Char) : Bool :=
  isAlphanumeric tested && !(isDecimal tested || otherNumberCodes.holds tested)

/-- Codes that extend the character before them and are no marks. -/
def extendingFormatCodes : CodeRanges :=
  [(0x200C, 0x200C), (0xE0020, 0xE007F)]

def isMark (tested : Char) : Bool :=
  spacingMarkCodes.holds tested ||
    (extendingCodes.holds tested && !extendingFormatCodes.holds tested)

/-- Codes of the letters in circles and squares, which are alphabetic symbols. -/
def enclosedLetterCodes : CodeRanges :=
  [(0x24B6, 0x24E9), (0x1F130, 0x1F149), (0x1F150, 0x1F169), (0x1F170, 0x1F189)]

def isLetter (tested : Char) : Bool :=
  isAlphanumeric tested &&
    !(isNumber tested || isMark tested || enclosedLetterCodes.holds tested)

/-- Whether words hold a character: letters, marks, digits, connectors and joiners. -/
def isWordPart (tested : Char) : Bool :=
  isAlphabetic tested || isMark tested || isDecimal tested || connectorCodes.holds tested ||
    CodeRanges.holds [(0x200C, 0x200D)] tested

def isPunctuation (tested : Char) : Bool :=
  punctuationCodes.holds tested

/-- Whether a character is a separator: a blank that is no control character. -/
def isSeparator (tested : Char) : Bool :=
  isBlank tested && !(tested.toNat < 0x20 || tested.toNat == 0x85)

/-- Whether a character is in none of the other categories: a control or format character, or a
code for private use or for none. -/
def isUnprintable (tested : Char) : Bool :=
  unprintableCodes.holds tested && !(isSeparator tested || fillerCodes.holds tested)

/-- Whether a character is a symbol: whatever prints and has no category of its own. -/
def isSymbol (tested : Char) : Bool :=
  !(isLetter tested || isMark tested || isNumber tested || isPunctuation tested ||
    isSeparator tested || isUnprintable tested)

end SourceCatalog.Text
