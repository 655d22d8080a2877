import SourceCatalog.Text.Basic
import SourceCatalog.Text.CaseTable

/-!
# Letter case

The full case mappings: one character may become several. Lower-casing looks at the
neighbours of a capital sigma, which has a form of its own at the end of a word.
-/

namespace SourceCatalog.Text

/-- The partner of a character in a table of runs, or the character itself. -/
def mapByRuns (runs : List CaseRun) (mapped : Char) : Char :=
  match runs.findSome? (·.partner? mapped.toNat) with
  | some code => Char.ofNat code
  | none => mapped

def lowerOf (mapped : Char) : Text :=
  if mapped = 'İ' then ['i', Char.ofNat 0x307] else [mapByRuns lowerRuns mapped]

/-- Whether the first character that is not case-ignorable is cased. -/
def opensCased (text : Text) : Bool :=
  match text.dropWhile caseIgnorableCodes.holds with
  | [] => false
  | found :: _ => casedCodes.holds found

/-- A capital sigma between two texts, the first one reversed: it is final if a cased letter
comes before it and none after it. -/
def lowerSigma (reversedBefore after : Text) : Char :=
  if opensCased reversedBefore && !opensCased after then 'ς' else 'σ'

def lowerAfter (reversedBefore : Text) : Text → Text
  | [] => []
  | head :: tail =>
    (if head = 'Σ' then [lowerSigma reversedBefore tail] else lowerOf head) ++
      lowerAfter (head :: reversedBefore) tail

def lower (text : Text) : Text :=
  lowerAfter [] text

def upperOf (mapped : Char) : Text :=
  match upperExpansions.lookup mapped.toNat with
  | some codes => codes.map Char.ofNat
  | none => [mapByRuns upperRuns mapped]

def capitalize : Text → Text
  | [] => []
  | head :: tail => upperOf head ++ tail

end SourceCatalog.Text
