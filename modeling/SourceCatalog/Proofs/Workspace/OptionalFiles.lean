import SourceCatalog.FileTree.Arrange
import SourceCatalog.Proofs.Text.BrokenRuns
import SourceCatalog.Proofs.Workspace.Looking

/-!
# Files that may be missing

A file that may be missing is read strictly or leniently, on whatever workspace. What either
reader comes to is determined by what the one access to the file brings. Main statement: the two
readers differ on files that are there and are no texts, and on these files only.
-/

namespace SourceCatalog.Job

open Log (Span)
open Text (Reading Shows encode)

variable {σ α : Type}

variable [Workspace (StateM σ)]

/-- What the access to a file brings in a state of some workspace. -/
def readingFrom (state : σ) (path : Path) : Except Obstacle (List UInt8) :=
  (StateT.run (Workspace.read path : StateM σ (Except Obstacle (List UInt8))) state).1

theorem doneFrom_readOptionalBytes (spans : List Span) (path : Path) (state : σ) :
    (doneFrom state (readOptionalBytes spans path)).1 =
      orMissing path (readingFrom state path) := by
  obtain ⟨later, access⟩ : ∃ later : σ,
      doneFrom state (ExceptT.lift (Workspace.read path)) =
        (.ok (readingFrom state path), later) := ⟨_, rfl⟩
  rw [readOptionalBytes, doneFrom_bind, access]
  dsimp only
  rw [doneFrom_bind]
  cases orMissing path (readingFrom state path) with
  | error fault => rfl
  | ok found =>
    cases found with
    | none => rfl
    | some bytes => rfl

theorem doneFrom_readLossy (spans : List Span) (path : Path) (state : σ) :
    (doneFrom state (readLossy spans path)).1 =
      (orMissing path (readingFrom state path)).map fun bytes => bytes.map Text.decodeLossy := by
  rw [← doneFrom_readOptionalBytes spans, readLossy, doneFrom_bind]
  obtain ⟨outcome, later⟩ := doneFrom state (readOptionalBytes spans path)
  cases outcome with
  | error fault => rfl
  | ok found => rfl

/-- Broken bytes end the strict reading. -/
theorem doneFrom_readStrict (spans : List Span) (path : Path) (state : σ) :
    (doneFrom state (readStrict spans path)).1 =
      (orMissing path (readingFrom state path)).bind fun bytes =>
        match bytes with
        | none => .ok none
        | some bytes => ((strict bytes).mapError (.access path)).map some := by
  rw [← doneFrom_readOptionalBytes spans, readStrict, doneFrom_bind]
  obtain ⟨outcome, later⟩ := doneFrom state (readOptionalBytes spans path)
  cases outcome with
  | error fault => rfl
  | ok found =>
    cases found with
    | none => rfl
    | some bytes =>
      dsimp only [Except.bind]
      cases strict bytes with
      | error obstacle => rfl
      | ok text => rfl

theorem orMissing_of_obstacle {path : Path} {obstacle : Obstacle} (other : obstacle ≠ .notFound) :
    (orMissing path (.error obstacle) : Except Fault (Option α)) =
      .error (.access path obstacle) := by
  cases obstacle with
  | notFound => exact absurd rfl other
  | _ => rfl

/-- Bytes of no text are refused. -/
theorem strict_of_noText {bytes : List UInt8} (noText : ∀ text, bytes ≠ encode text) :
    strict bytes = .error .notText := by
  rw [strict]
  cases decoded : Text.decode? bytes with
  | none => rfl
  | some text => exact absurd (Text.decode?_eq_some_iff.1 decoded) (noText text)

theorem strict_encode (text : Text) : strict (encode text) = .ok text := by
  rw [strict, Text.decode?_eq_some_iff.2 rfl]

/-- A missing file has no text for either reader, both find the text of a file that has one, and
both fail alike where the file cannot be read. Of other bytes the strict reader makes a fault, and
the lenient one a text with one replacement character for each broken run. -/
theorem readers_agree (spans : List Span) (path : Path) (state : σ) :
    (readingFrom state path = .error .notFound →
      (doneFrom state (readStrict spans path)).1 = .ok none ∧
      (doneFrom state (readLossy spans path)).1 = .ok none) ∧
    (∀ text, readingFrom state path = .ok (encode text) →
      (doneFrom state (readStrict spans path)).1 = .ok (some text) ∧
      (doneFrom state (readLossy spans path)).1 = .ok (some text)) ∧
    (∀ obstacle, obstacle ≠ .notFound → readingFrom state path = .error obstacle →
      (doneFrom state (readStrict spans path)).1 = .error (.access path obstacle) ∧
      (doneFrom state (readLossy spans path)).1 = .error (.access path obstacle)) ∧
    ∀ bytes, (∀ text, bytes ≠ encode text) → readingFrom state path = .ok bytes →
      (doneFrom state (readStrict spans path)).1 = .error (.access path .notText) ∧
      ∃ shown, Shows bytes shown ∧ (∀ others, Shows bytes others → others = shown) ∧
        .broken ∈ shown ∧
        (doneFrom state (readLossy spans path)).1 =
          .ok (some (shown.map Reading.orReplacement)) ∧
        '\uFFFD' ∈ shown.map Reading.orReplacement := by
  rw [doneFrom_readStrict, doneFrom_readLossy]
  refine ⟨?_, ?_, ?_, ?_⟩
  · intro missing
    rw [missing]
    exact ⟨rfl, rfl⟩
  · intro text found
    rw [found]
    dsimp only [orMissing, Except.bind, Except.map, Option.map]
    rw [strict_encode, Text.decodeLossy_encode]
    exact ⟨rfl, rfl⟩
  · intro obstacle other failed
    rw [failed, orMissing_of_obstacle other]
    exact ⟨rfl, rfl⟩
  · intro bytes noText found
    rw [found]
    dsimp only [orMissing, Except.bind, Except.map, Option.map]
    rw [strict_of_noText noText]
    have machine := Text.shows_readings bytes
    have only : ∀ others, Shows bytes others → others = Text.readings bytes :=
      fun others second => second.unique machine
    have broken := Text.broken_mem_readings noText
    refine ⟨rfl, Text.readings bytes, machine, only, broken, rfl, ?_⟩
    exact List.mem_map.2 ⟨.broken, broken, rfl⟩

/-- A character, a broken run of two bytes, another character, a surrogate, and a broken end. -/
def brokenBytes : List UInt8 := [0x41, 0xE2, 0x82, 0x42, 0xED, 0xA0, 0x80, 0xF0, 0x9F]

def mixedRun : TreeRun :=
  .start ((FileTree.empty.arrangeFile [] "/d/text".toList (encode ['ä', '€'])).arrangeFile []
    "/d/bytes".toList brokenBytes) []

/-- The readers part at the broken bytes only. -/
theorem readers_agree_mixedRun :
    (doneFrom mixedRun (readStrict [] "/d/none".toList)).1 = .ok none ∧
    (doneFrom mixedRun (readLossy [] "/d/text".toList)).1 = .ok (some ['ä', '€']) ∧
    (doneFrom mixedRun (readLossy [] "/d".toList)).1 =
      .error (.access "/d".toList .isDirectory) ∧
    (∀ text, brokenBytes ≠ encode text) ∧
    (doneFrom mixedRun (readStrict [] "/d/bytes".toList)).1 =
      .error (.access "/d/bytes".toList .notText) ∧
    (doneFrom mixedRun (readLossy [] "/d/bytes".toList)).1 =
      .ok (some ['A', '\uFFFD', 'B', '\uFFFD', '\uFFFD', '\uFFFD', '\uFFFD']) := by
  have missing : readingFrom mixedRun "/d/none".toList = .error .notFound := by decide +kernel
  have text : readingFrom mixedRun "/d/text".toList = .ok (encode ['ä', '€']) := by
    decide +kernel
  have directory : readingFrom mixedRun "/d".toList = .error .isDirectory := by decide +kernel
  have bytes : readingFrom mixedRun "/d/bytes".toList = .ok brokenBytes := by decide +kernel
  have undecoded : Text.decode? brokenBytes = none := by decide +kernel
  have noText : ∀ text, brokenBytes ≠ encode text := by
    intro text same
    rw [Text.decode?_eq_some_iff.2 same] at undecoded
    cases undecoded
  obtain ⟨fault, shown, _, only, _, lenient, _⟩ :=
    (readers_agree [] "/d/bytes".toList mixedRun).2.2.2 brokenBytes noText bytes
  have machine := only _ (Text.shows_readings brokenBytes)
  rw [← machine] at lenient
  have replaced : (Text.readings brokenBytes).map Reading.orReplacement =
      ['A', '\uFFFD', 'B', '\uFFFD', '\uFFFD', '\uFFFD', '\uFFFD'] := by decide +kernel
  rw [replaced] at lenient
  exact ⟨((readers_agree [] "/d/none".toList mixedRun).1 missing).1,
    ((readers_agree [] "/d/text".toList mixedRun).2.1 _ text).2,
    ((readers_agree [] "/d".toList mixedRun).2.2.1 _ (by decide) directory).2,
    noText, fault, lenient⟩

end SourceCatalog.Job
