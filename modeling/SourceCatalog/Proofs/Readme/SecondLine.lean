import SourceCatalog.Proofs.Readme.Lines
import SourceCatalog.Proofs.Readme.Schedules
import SourceCatalog.Proofs.Text.Decoding

/-!
# The second line of a fragment

A fragment is read as bytes, and any of them may be broken. Main statement: the entry of a
directory is told by the bytes of its fragment's second line alone.
-/

namespace SourceCatalog.Readme

open Text (Blank decodeLossy dropReturn)

/-- The bytes between the first line feed and the second one or the end. -/
structure SecondLine where
  bytes : List UInt8
  /-- Whether there is a second line feed. -/
  ended : Bool
  deriving DecidableEq, Repr

def secondLine? (content : List UInt8) : Option SecondLine :=
  match content.dropWhile (· != 0x0A) with
  | [] => none
  | _ :: rest => some ⟨rest.takeWhile (· != 0x0A), rest.contains 0x0A⟩

def SecondLine.text (line : SecondLine) : Text :=
  if line.ended then dropReturn (decodeLossy line.bytes) else decodeLossy line.bytes

/-- The entry of a directory whose fragment has a second line, or none. -/
def Entry.ofSecondLine (name : Text) : Option SecondLine → Entry
  | none => fallback name
  | some line => if Blank line.text then fallback name else ⟨name, line.text⟩

section Cutting

variable {first second : List UInt8}

theorem ne_lineFeed_of_notMem (free : 0x0A ∉ first) : ∀ byte ∈ first, (byte != 0x0A) = true := by
  intro byte member
  exact bne_iff_ne.2 fun same => free (same ▸ member)

theorem secondLine?_of_notMem (free : 0x0A ∉ first) : secondLine? first = none := by
  have dropped : first.dropWhile (· != 0x0A) = [] :=
    List.dropWhile_eq_nil_iff.2 (ne_lineFeed_of_notMem free)
  rw [secondLine?, dropped]

/-- The second line begins behind the first line feed. -/
theorem secondLine?_append (free : 0x0A ∉ first) (rest : List UInt8) :
    secondLine? (first ++ 0x0A :: rest) =
      some ⟨rest.takeWhile (· != 0x0A), rest.contains 0x0A⟩ := by
  have dropped : (first ++ 0x0A :: rest).dropWhile (· != 0x0A) = 0x0A :: rest := by
    rw [List.dropWhile_append_of_pos (ne_lineFeed_of_notMem free)]
    rfl
  rw [secondLine?, dropped]

theorem secondLine?_unended (free : 0x0A ∉ first) (secondFree : 0x0A ∉ second) :
    secondLine? (first ++ 0x0A :: second) = some ⟨second, false⟩ := by
  have taken : second.takeWhile (· != 0x0A) = second :=
    List.takeWhile_eq_self_iff.2 (ne_lineFeed_of_notMem secondFree)
  have nowhere : second.contains 0x0A = false := by simpa using secondFree
  rw [secondLine?_append free, taken, nowhere]

theorem secondLine?_ended (free : 0x0A ∉ first) (secondFree : 0x0A ∉ second)
    (rest : List UInt8) :
    secondLine? (first ++ 0x0A :: (second ++ 0x0A :: rest)) = some ⟨second, true⟩ := by
  have taken : (second ++ 0x0A :: rest).takeWhile (· != 0x0A) = second := by
    rw [List.takeWhile_append_of_pos (ne_lineFeed_of_notMem secondFree)]
    simp
  have somewhere : (second ++ 0x0A :: rest).contains 0x0A = true := by simp
  rw [secondLine?_append free, taken, somewhere]

/-- Bytes have one line, or two with or without a line feed behind the second one. -/
theorem lines_cases (content : List UInt8) :
    0x0A ∉ content ∨
      (∃ first second, 0x0A ∉ first ∧ 0x0A ∉ second ∧ content = first ++ 0x0A :: second) ∨
      ∃ first second rest, 0x0A ∉ first ∧ 0x0A ∉ second ∧
        content = first ++ 0x0A :: (second ++ 0x0A :: rest) := by
  by_cases ended : 0x0A ∈ content
  · obtain ⟨first, behind, rfl, free⟩ := List.eq_append_cons_of_mem ended
    by_cases endedAgain : 0x0A ∈ behind
    · obtain ⟨second, rest, rfl, secondFree⟩ := List.eq_append_cons_of_mem endedAgain
      exact .inr (.inr ⟨first, second, rest, free, secondFree, rfl⟩)
    · exact .inr (.inl ⟨first, behind, free, endedAgain, rfl⟩)
  · exact .inl ended

end Cutting

/-- A blank line is no description. -/
theorem ofFragment_of_second {name text line : Text} (second : (Text.lines text)[1]? = some line) :
    Entry.ofFragment name (some text) =
      if Blank line then Entry.fallback name else ⟨name, line⟩ := by
  have blank : (Text.trim line).isEmpty = true ↔ Blank line := by
    rw [List.isEmpty_iff, Text.trim_eq_nil_iff]
  rw [Entry.ofFragment, Option.bind_some, second]
  exact if_congr blank rfl rfl

theorem ofFragment_of_no_second {name text : Text} (second : (Text.lines text)[1]? = none) :
    Entry.ofFragment name (some text) = .fallback name := by
  rw [Entry.ofFragment, Option.bind_some, second]

/-- What stands before the second line of a fragment and behind it is not looked at. -/
theorem ofFragment_decodeLossy (name : Text) (content : List UInt8) :
    Entry.ofFragment name (some (decodeLossy content)) =
      .ofSecondLine name (secondLine? content) := by
  rcases lines_cases content with free | ⟨first, second, free, secondFree, rfl⟩ |
    ⟨first, second, rest, free, secondFree, rfl⟩
  · rw [secondLine?_of_notMem free]
    exact ofFragment_of_no_second
      (Text.second_of_lines_of_notMem (Text.lineFeed_notMem_decodeLossy free))
  · have read := Text.second_of_lines_unended (Text.lineFeed_notMem_decodeLossy free)
      (Text.lineFeed_notMem_decodeLossy secondFree)
    rw [secondLine?_unended free secondFree, Text.decodeLossy_append_lineFeed]
    change _ = if Blank (decodeLossy second) then _ else _
    -- An empty line behind the last line feed is none, and would be blank anyway.
    by_cases nothing : decodeLossy second = []
    · rw [if_pos nothing] at read
      have blank : Blank (decodeLossy second) := by
        rw [nothing]
        exact List.forall_mem_nil _
      rw [ofFragment_of_no_second read, if_pos blank]
    · rw [if_neg nothing] at read
      exact ofFragment_of_second read
  · have read := Text.second_of_lines_ended (Text.lineFeed_notMem_decodeLossy free)
      (Text.lineFeed_notMem_decodeLossy secondFree) (decodeLossy rest)
    rw [secondLine?_ended free secondFree, Text.decodeLossy_append_lineFeed,
      Text.decodeLossy_append_lineFeed]
    exact ofFragment_of_second read

theorem entriesFrom_of_arrived {fragment : Text} {child : Subdirectory} {content : List UInt8}
    {arrivals : List Arrival} {index : Nat}
    (found : arrivals.find? (·.index == index) = some ⟨index, .ok content⟩)
    (others : List Subdirectory) :
    entriesFrom fragment arrivals index (child :: others) =
      (entriesFrom fragment arrivals (index + 1) others).map fun entries =>
        .ofSecondLine child.name (secondLine? content) :: entries := by
  have text : arrived (child.path.join fragment) arrivals index =
      .ok (some (decodeLossy content)) := by
    rw [arrived, found]
    rfl
  rw [entriesFrom, text, ← ofFragment_decodeLossy]

/-- A directory is described by what its fragment's second line holds, in a collection as by
itself. No bytes elsewhere in the fragment, broken or not, have a part in it, for they are decoded
line by line. -/
theorem readEntry_secondLine {fragment : Text} {child : Subdirectory} {run : TreeRun}
    {content : List UInt8}
    (found : run.tree.read run.working (child.path.join fragment) = .ok content) :
    (run.after (readEntry fragment child)).1 =
        .ok (.ofSecondLine child.name (secondLine? content)) ∧
      '\n' ∉ (Entry.ofSecondLine child.name (secondLine? content)).description ∧
      (∀ (again : TreeRun) (other : List UInt8),
        again.tree.read again.working (child.path.join fragment) = .ok other →
        secondLine? other = secondLine? content →
        (again.after (readEntry fragment child)).1 = (run.after (readEntry fragment child)).1) ∧
      (∀ (arrivals : List Arrival) (index : Nat) (others : List Subdirectory),
        arrivals.find? (·.index == index) = some ⟨index, .ok content⟩ →
        entriesFrom fragment arrivals index (child :: others) =
          (entriesFrom fragment arrivals (index + 1) others).map fun entries =>
            .ofSecondLine child.name (secondLine? content) :: entries) ∧
      Text.pieces '\n' (decodeLossy content) = (content.splitOn 0x0A).map decodeLossy := by
  have reads : ∀ (reader : TreeRun) (bytes : List UInt8),
      reader.tree.read reader.working (child.path.join fragment) = .ok bytes →
      (reader.after (readEntry fragment child)).1 =
        .ok (.ofSecondLine child.name (secondLine? bytes)) := by
    intro reader bytes isThere
    have entry : entryOf fragment reader.tree reader.working child =
        .ok (.ofFragment child.name (some (decodeLossy bytes))) := by
      rw [entryOf, fragmentOf, isThere]
      rfl
    rw [(looks_readEntry fragment child).outcome reader, ← ofFragment_decodeLossy]
    exact entry
  refine ⟨reads run content found, ?_, ?_, fun arrivals index others arrived =>
    entriesFrom_of_arrived arrived others, Text.pieces_decodeLossy content⟩
  · rw [← ofFragment_decodeLossy]
    exact lineFeed_notMem_ofFragment child.name _
  · intro again other foundAgain same
    rw [reads again other foundAgain, reads run content found, same]

/-- A fragment with broken characters before and after both line feeds. -/
def brokenBytes : List UInt8 := [0x23, 0xE2, 0x82, 0x0A, 0x53, 0xFF, 0x0D, 0x0A, 0x80]

def otherBytes : List UInt8 := [0xF0, 0x9F, 0x0A, 0x53, 0xFF, 0x0D, 0x0A]

def fragmentRun (bytes : List UInt8) : TreeRun :=
  .start (FileTree.empty.arrangeFile [] "/d/a/f".toList bytes) []

theorem readEntry_secondLine_brokenBytes :
    let child : Subdirectory := ⟨['a'], "/d/a".toList⟩
    ((fragmentRun brokenBytes).after (readEntry ['f'] child)).1 =
        .ok ⟨['a'], ['S', '\uFFFD']⟩ ∧
      ((fragmentRun otherBytes).after (readEntry ['f'] child)).1 =
        .ok ⟨['a'], ['S', '\uFFFD']⟩ := by
  intro child
  have found : (fragmentRun brokenBytes).tree.read (fragmentRun brokenBytes).working
      (child.path.join ['f']) = .ok brokenBytes := by decide +kernel
  have foundOther : (fragmentRun otherBytes).tree.read (fragmentRun otherBytes).working
      (child.path.join ['f']) = .ok otherBytes := by decide +kernel
  have same : secondLine? otherBytes = secondLine? brokenBytes := by decide +kernel
  have entry : Entry.ofSecondLine child.name (secondLine? brokenBytes) =
      ⟨['a'], ['S', '\uFFFD']⟩ := by decide +kernel
  obtain ⟨reads, _, likewise, _, _⟩ := readEntry_secondLine found
  rw [entry] at reads
  exact ⟨reads, (likewise _ _ foundOther same).trans reads⟩

end SourceCatalog.Readme
