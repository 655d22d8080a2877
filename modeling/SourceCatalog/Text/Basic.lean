/-!
# Texts

A text is the list of its characters. This module holds the cuts that the rest of the library
makes: at a separator, at line feeds, at the first occurrence of a mark, and at blank ends.
-/

namespace SourceCatalog

abbrev Text := List Char

namespace Text

/-- The characters with the Unicode property `White_Space`. -/
def isBlank (tested : Char) : Bool :=
  let code := tested.toNat
  (0x09 ≤ code && code ≤ 0x0D) || code == 0x20 || code == 0x85 || code == 0xA0 ||
    code == 0x1680 || (0x2000 ≤ code && code ≤ 0x200A) || code == 0x2028 || code == 0x2029 ||
    code == 0x202F || code == 0x205F || code == 0x3000

def byteLength (text : Text) : Nat :=
  text.foldr (fun head bytes => head.utf8Size + bytes) 0

def ofNat (number : Nat) : Text :=
  Nat.toDigits 10 number

def ofInt : Int → Text
  | .ofNat number => ofNat number
  | .negSucc number => '-' :: ofNat (number + 1)

def padTo (width : Nat) (text : Text) : Text :=
  text ++ List.replicate (width - text.length) ' '

/-- Drop every final occurrence of one character. -/
def dropFinal (dropped : Char) (text : Text) : Text :=
  (text.reverse.dropWhile (· == dropped)).reverse

def trim (text : Text) : Text :=
  ((text.dropWhile isBlank).reverse.dropWhile isBlank).reverse

/-- The pieces between separators: one more than there are separators. -/
def pieces (separator : Char) : Text → List Text
  | [] => [[]]
  | head :: tail =>
    if head = separator then
      [] :: pieces separator tail
    else
      match pieces separator tail with
      | [] => [[head]]
      | first :: others => (head :: first) :: others

theorem pieces_ne_nil (separator : Char) (text : Text) : pieces separator text ≠ [] := by
  cases text with
  | nil => simp [pieces]
  | cons head tail =>
    unfold pieces
    split
    · simp
    · split <;> simp

/-- A piece does not hold the separator. -/
theorem separator_notMem_pieces {separator : Char} {text piece : Text}
    (member : piece ∈ pieces separator text) : separator ∉ piece := by
  induction text generalizing piece with
  | nil =>
    rw [pieces, List.mem_singleton] at member
    rw [member]
    exact List.not_mem_nil
  | cons head tail inductionHypothesis =>
    rw [pieces] at member
    split at member
    · rcases List.mem_cons.1 member with rfl | later
      · exact List.not_mem_nil
      · exact inductionHypothesis later
    · next different =>
      split at member
      · next noPieces => exact absurd noPieces (pieces_ne_nil separator tail)
      · next first others cut =>
        rcases List.mem_cons.1 member with rfl | later
        · intro found
          rcases List.mem_cons.1 found with same | inFirst
          · exact different same.symm
          · exact inductionHypothesis (cut ▸ List.mem_cons_self) inFirst
        · exact inductionHypothesis (cut ▸ List.mem_cons_of_mem first later)

def join (separator : Text) : List Text → Text
  | [] => []
  | [last] => last
  | first :: others => first ++ separator ++ join separator others

/-- A further piece in front comes with a separator. -/
theorem join_cons_of_ne_nil (separator first : Text) {others : List Text} (more : others ≠ []) :
    join separator (first :: others) = first ++ separator ++ join separator others := by
  cases others with
  | nil => exact absurd rfl more
  | cons second others => rfl

/-- A character in front of the first piece stands in front of the joined text. -/
theorem join_cons_cons (separator first : Text) (head : Char) (others : List Text) :
    join separator ((head :: first) :: others) = head :: join separator (first :: others) := by
  cases others with
  | nil => rfl
  | cons second others => rfl

/-- Joining the pieces of a text gives it back. -/
theorem join_pieces (separator : Char) (text : Text) :
    join [separator] (pieces separator text) = text := by
  induction text with
  | nil => rfl
  | cons head tail inductionHypothesis =>
    rw [pieces]
    split
    · next same =>
      rw [join_cons_of_ne_nil _ _ (pieces_ne_nil separator tail), inductionHypothesis, same]
      rfl
    · split
      · next noPieces => exact absurd noPieces (pieces_ne_nil separator tail)
      · next first others cut =>
        rw [join_cons_cons, ← cut, inductionHypothesis]

def dropReturn (line : Text) : Text :=
  if line.getLast? = some '\r' then line.dropLast else line

/-- The lines of a text. A line ends with a line feed, which may follow one carriage return;
neither belongs to the line. What follows the last line feed is a line as it stands, unless it
is empty. -/
def lines (text : Text) : List Text :=
  let cut := pieces '\n' text
  let unfinished := cut.getLast (pieces_ne_nil '\n' text)
  cut.dropLast.map dropReturn ++ (if unfinished.isEmpty then [] else [unfinished])

/-- The text before and after the first occurrence of a mark. -/
def splitFirst? (mark : Text) : Text → Option (Text × Text)
  | [] => (mark.isPrefixOf? []).map fun after => ([], after)
  | head :: tail =>
    match mark.isPrefixOf? (head :: tail) with
    | some after => some ([], after)
    | none => (splitFirst? mark tail).map fun (before, after) => (head :: before, after)

/-- What is left after a beginning is what follows it. -/
theorem isPrefixOf?_eq_some_iff {beginning text after : Text} :
    beginning.isPrefixOf? text = some after ↔ text = beginning ++ after := by
  induction beginning generalizing text with
  | nil => exact Option.some_inj
  | cons head tail inductionHypothesis =>
    cases text with
    | nil =>
      change none = some after ↔ [] = head :: (tail ++ after)
      simp
    | cons first others =>
      change (if head == first then tail.isPrefixOf? others else none) = some after ↔
        first :: others = head :: (tail ++ after)
      by_cases same : head = first
      · rw [if_pos (beq_iff_eq.2 same), inductionHypothesis, same, List.cons_inj_right]
      · simp [same, Ne.symm same]

/-- The mark stands between the two parts of a text that is cut at it. -/
theorem append_of_splitFirst? {mark text before after : Text}
    (cut : splitFirst? mark text = some (before, after)) : text = before ++ mark ++ after := by
  induction text generalizing before with
  | nil =>
    rw [splitFirst?] at cut
    obtain ⟨rest, found, equality⟩ := Option.map_eq_some_iff.1 cut
    cases equality
    exact isPrefixOf?_eq_some_iff.1 found
  | cons head tail inductionHypothesis =>
    rw [splitFirst?] at cut
    split at cut
    · next found =>
      cases cut
      exact isPrefixOf?_eq_some_iff.1 found
    · obtain ⟨⟨front, rest⟩, found, equality⟩ := Option.map_eq_some_iff.1 cut
      cases equality
      rw [inductionHypothesis found]
      rfl

end Text

end SourceCatalog
