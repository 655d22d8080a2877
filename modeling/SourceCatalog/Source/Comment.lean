import SourceCatalog.Text.Basic

/-!
# Comments of a source text

A line comment runs from `//` to the end of its line. A block comment is cut out only where it
closes a line: after its `*/` come at most one comma, which stays, and spaces and tabs. One
space in front of a block comment goes with it. The comment that starts first wins, so neither
kind is looked for inside the other.

A line ends before a line feed, before a carriage return, and with the text.
-/

namespace SourceCatalog.Source

/-- The text from the end of its first line on. -/
def toLineEnd : Text → Text
  | [] => []
  | head :: tail => if head = '\n' ∨ head = '\r' then head :: tail else toLineEnd tail

def blankToLineEnd? : Text → Option Text
  | [] => some []
  | head :: tail =>
    if head = '\n' ∨ head = '\r' then some (head :: tail)
    else if head = ' ' ∨ head = '\t' then blankToLineEnd? tail
    else none

/-- A comment that has been cut out: what stays of it, and the text after it. -/
structure Cut where
  kept : Text
  after : Text
  deriving DecidableEq, Repr

def closing? : Text → Option Cut
  | ',' :: tail => (blankToLineEnd? tail).map fun after => ⟨[','], after⟩
  | text => (blankToLineEnd? text).map fun after => ⟨[], after⟩

/-- The first `*/` that closes a line. -/
def blockEnd? : Text → Option Cut
  | [] => none
  | '*' :: '/' :: tail =>
    match closing? tail with
    | some cut => some cut
    | none => blockEnd? ('/' :: tail)
  | _ :: tail => blockEnd? tail

def commentAt? : Text → Option Cut
  | '/' :: '/' :: tail => some ⟨[], toLineEnd tail⟩
  | '/' :: '*' :: tail => blockEnd? tail
  | ' ' :: '/' :: '*' :: tail => blockEnd? tail
  | _ => none

theorem length_toLineEnd_le (text : Text) : (toLineEnd text).length ≤ text.length := by
  fun_induction toLineEnd text with
  | case1 => simp
  | case2 head tail ends => simp
  | case3 head tail inside shorter =>
    simp only [List.length_cons]
    omega

theorem length_blankToLineEnd? {text after : Text} (found : blankToLineEnd? text = some after) :
    after.length ≤ text.length := by
  fun_induction blankToLineEnd? text with
  | case1 => simp_all
  | case2 head tail ends =>
    cases found
    simp
  | case3 head tail inside blank shorter =>
    have := shorter found
    simp only [List.length_cons]
    omega
  | case4 => simp at found

theorem length_closing? {text : Text} {cut : Cut} (found : closing? text = some cut) :
    cut.after.length ≤ text.length := by
  unfold closing? at found
  split at found
  · obtain ⟨after, blank, rfl⟩ := Option.map_eq_some_iff.1 found
    have := length_blankToLineEnd? blank
    simp only [List.length_cons]
    omega
  · obtain ⟨after, blank, rfl⟩ := Option.map_eq_some_iff.1 found
    exact length_blankToLineEnd? blank

theorem length_blockEnd? {text : Text} {cut : Cut} (found : blockEnd? text = some cut) :
    cut.after.length < text.length := by
  fun_induction blockEnd? text with
  | case1 => simp at found
  | case2 tail closed closes =>
    cases found
    have := length_closing? closes
    simp only [List.length_cons]
    omega
  | case3 tail open_ shorter =>
    have := shorter found
    simp only [List.length_cons] at this ⊢
    omega
  | case4 head tail _ shorter =>
    have := shorter found
    simp only [List.length_cons]
    omega

/-- A comment is not empty. -/
theorem length_commentAt? {text : Text} {cut : Cut} (found : commentAt? text = some cut) :
    cut.after.length < text.length := by
  unfold commentAt? at found
  split at found
  · cases found
    rename_i tail
    have := length_toLineEnd_le tail
    simp only [List.length_cons]
    omega
  · have := length_blockEnd? found
    simp only [List.length_cons]
    omega
  · have := length_blockEnd? found
    simp only [List.length_cons]
    omega
  · simp at found

def withoutComments (text : Text) : Text :=
  match _ : commentAt? text with
  | some cut => cut.kept ++ withoutComments cut.after
  | none =>
    match text with
    | [] => []
    | head :: tail => head :: withoutComments tail
termination_by text.length
decreasing_by
  · exact length_commentAt? (by assumption)
  · simp

end SourceCatalog.Source
