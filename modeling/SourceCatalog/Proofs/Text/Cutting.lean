import Mathlib.Data.List.DropRight
import Mathlib.Data.List.TakeWhile
import SourceCatalog.Text.Basic

/-!
# Cutting texts

A text is cut at a separator or at the first occurrence of a mark, and its blank ends are
dropped. Each cut is described by what stands around the place where it is made.
-/

namespace SourceCatalog.Text

def Blank (text : Text) : Prop :=
  ∀ tested ∈ text, isBlank tested = true

def Solid (text : Text) : Prop :=
  ∀ tested ∈ text, isBlank tested = false

instance (text : Text) : Decidable (Blank text) :=
  List.decidableBAll _ text

instance (text : Text) : Decidable (Solid text) :=
  List.decidableBAll _ text

theorem Blank.append {left right : Text} (leftBlank : Blank left) (rightBlank : Blank right) :
    Blank (left ++ right) := by
  intro tested member
  rcases List.mem_append.1 member with inLeft | inRight
  · exact leftBlank tested inLeft
  · exact rightBlank tested inRight

theorem Blank.of_sublist {shorter longer : Text} (blank : Blank longer)
    (sublist : shorter.Sublist longer) : Blank shorter :=
  fun tested member => blank tested (sublist.subset member)

theorem Blank.notMem {text : Text} {tested : Char} (blank : Blank text)
    (solid : isBlank tested = false) : tested ∉ text := by
  intro member
  rw [blank tested member] at solid
  cases solid

theorem notMem_between {before word after : Text} {tested : Char} (blankBefore : Blank before)
    (absent : tested ∉ word) (blankAfter : Blank after) (solid : isBlank tested = false) :
    tested ∉ before ++ word ++ after := by
  simp only [List.mem_append, not_or]
  exact ⟨⟨blankBefore.notMem solid, absent⟩, blankAfter.notMem solid⟩

theorem Blank.trim {text : Text} (blank : Blank text) : Text.trim text = [] := by
  have dropped : text.dropWhile isBlank = [] := by
    have whole : (text ++ []).dropWhile isBlank = [] := List.dropWhile_append_of_pos blank
    rwa [List.append_nil] at whole
  rw [Text.trim, dropped]
  rfl

/-- Trimming leaves nothing of a blank text only. -/
theorem trim_eq_nil_iff {text : Text} : trim text = [] ↔ Blank text := by
  constructor
  · intro nothing
    rw [trim, List.reverse_eq_nil_iff, List.dropWhile_eq_nil_iff] at nothing
    cases rest : text.dropWhile isBlank with
    | nil => exact List.dropWhile_eq_nil_iff.1 rest
    | cons head tail =>
      have solid := List.head_dropWhile_not isBlank (l := text) (by simp [rest])
      have blank : isBlank head = true := nothing head (by simp [rest])
      simp [rest, blank] at solid
  · exact Blank.trim

structure Trimmed (text : Text) : Prop where
  starts : ∀ first, text.head? = some first → isBlank first = false
  ends : ∀ last, text.getLast? = some last → isBlank last = false

theorem Solid.trimmed {text : Text} (solid : Solid text) : Trimmed text where
  starts := fun first isFirst => solid first (List.mem_of_head? isFirst)
  ends := fun last isLast => solid last (List.mem_of_getLast? isLast)

/-- The first character of a word ends a run of blanks in front of it. -/
theorem dropWhile_blank_append {before word : Text} (blank : Blank before)
    (starts : ∀ first, word.head? = some first → isBlank first = false) (after : Text)
    (filled : word ≠ []) : (before ++ word ++ after).dropWhile isBlank = word ++ after := by
  rw [List.append_assoc, List.dropWhile_append_of_pos blank]
  cases word with
  | nil => exact absurd rfl filled
  | cons head tail =>
    have : isBlank head = false := starts head rfl
    rw [List.cons_append, List.dropWhile_cons_of_neg (by rw [this]; decide)]

/-- Trimming leaves the word that stands between blanks. -/
theorem trim_append_of_trimmed {before word after : Text} (blankBefore : Blank before)
    (trimmed : Trimmed word) (blankAfter : Blank after) :
    trim (before ++ word ++ after) = word := by
  by_cases filled : word = []
  · subst filled
    rw [List.append_nil]
    exact (blankBefore.append blankAfter).trim
  · have blankReverse : Blank after.reverse :=
      fun tested member => blankAfter tested (List.mem_reverse.1 member)
    have endsReverse : ∀ first, word.reverse.head? = some first → isBlank first = false := by
      intro first isFirst
      rw [List.head?_reverse] at isFirst
      exact trimmed.ends first isFirst
    have turned : (word ++ after).reverse = after.reverse ++ word.reverse ++ [] := by
      rw [List.reverse_append, List.append_nil]
    rw [trim, dropWhile_blank_append blankBefore trimmed.starts after filled, turned,
      dropWhile_blank_append blankReverse endsReverse [] (by simpa using filled),
      List.append_nil, List.reverse_reverse]

theorem trim_append {before word after : Text} (blankBefore : Blank before) (solid : Solid word)
    (blankAfter : Blank after) : trim (before ++ word ++ after) = word :=
  trim_append_of_trimmed blankBefore solid.trimmed blankAfter

/-- Only blanks are trimmed. -/
theorem exists_trim (text : Text) :
    ∃ before after, Blank before ∧ Blank after ∧ text = before ++ trim text ++ after := by
  let opened := text.dropWhile isBlank
  have front : Blank (text.takeWhile isBlank) := fun _ member => List.mem_takeWhile_imp member
  have back : Blank (opened.reverse.takeWhile isBlank).reverse := fun _ member =>
    List.mem_takeWhile_imp (List.mem_reverse.1 member)
  refine ⟨text.takeWhile isBlank, (opened.reverse.takeWhile isBlank).reverse, front, back, ?_⟩
  have closed : trim text ++ (opened.reverse.takeWhile isBlank).reverse = opened := by
    rw [trim, ← List.reverse_append, List.takeWhile_append_dropWhile, List.reverse_reverse]
  rw [List.append_assoc, closed, List.takeWhile_append_dropWhile]

theorem notBlank_of_head?_dropWhile {text : Text} {first : Char}
    (isFirst : (text.dropWhile isBlank).head? = some first) : isBlank first = false := by
  cases rest : text.dropWhile isBlank with
  | nil => simp [rest] at isFirst
  | cons head tail =>
    have solid := List.head_dropWhile_not isBlank (l := text) (by simp [rest])
    simp only [rest, List.head?_cons, List.head_cons, Option.some.injEq] at isFirst solid
    rwa [← isFirst]

theorem notBlank_of_getLast?_trim {text : Text} {last : Char}
    (isLast : (trim text).getLast? = some last) : isBlank last = false := by
  rw [trim, List.getLast?_reverse] at isLast
  exact notBlank_of_head?_dropWhile isLast

theorem notBlank_of_head?_trim {text : Text} {first : Char}
    (isFirst : (trim text).head? = some first) : isBlank first = false := by
  have front : trim text <+: text.dropWhile isBlank := by
    rw [trim, ← List.reverse_suffix, List.reverse_reverse]
    exact List.dropWhile_suffix isBlank
  obtain ⟨behind, parts⟩ := front
  apply notBlank_of_head?_dropWhile
  rw [← parts, List.head?_append, isFirst]
  rfl

theorem trimmed_trim (text : Text) : Trimmed (trim text) where
  starts := fun _ => notBlank_of_head?_trim
  ends := fun _ => notBlank_of_getLast?_trim

section DropFinal

variable (dropped : Char) (text : Text)

theorem dropFinal_eq_rdropWhile : dropFinal dropped text = text.rdropWhile (· == dropped) :=
  rfl

theorem dropFinal_dropFinal : dropFinal dropped (dropFinal dropped text) = dropFinal dropped text :=
  List.rdropWhile_idempotent _ text

theorem getLast?_dropFinal_ne : (dropFinal dropped text).getLast? ≠ some dropped := by
  intro isLast
  obtain ⟨filled, last⟩ := List.mem_getLast?_eq_getLast isLast
  have different := List.rdropWhile_last_not (· == dropped) text filled
  exact different (beq_iff_eq.2 last.symm)

theorem exists_eq_dropFinal_append :
    ∃ count, text = dropFinal dropped text ++ List.replicate count dropped := by
  have same : ∀ tested ∈ text.rtakeWhile (· == dropped), tested = dropped := by
    intro tested member
    have equal : (tested == dropped) = true := List.mem_rtakeWhile_imp (p := (· == dropped)) member
    exact beq_iff_eq.1 equal
  refine ⟨(text.rtakeWhile (· == dropped)).length, ?_⟩
  rw [← List.eq_replicate_of_mem same, dropFinal_eq_rdropWhile,
    List.rdropWhile_append_rtakeWhile]

end DropFinal

theorem byteLength_append (first second : Text) :
    byteLength (first ++ second) = byteLength first + byteLength second := by
  induction first with
  | nil => exact (Nat.zero_add _).symm
  | cons head tail inductionHypothesis =>
    change head.utf8Size + byteLength (tail ++ second) =
      head.utf8Size + byteLength tail + byteLength second
    rw [inductionHypothesis, Nat.add_assoc]

/-! ## Pieces -/

theorem pieces_of_notMem {separator : Char} {text : Text} (free : separator ∉ text) :
    pieces separator text = [text] := by
  induction text with
  | nil => rfl
  | cons head tail inductionHypothesis =>
    have different : head ≠ separator := fun same => free (same ▸ List.mem_cons_self)
    have tailFree : separator ∉ tail := fun member => free (List.mem_cons_of_mem head member)
    rw [pieces, if_neg different, inductionHypothesis tailFree]

/-- A separator keeps the pieces in front of it and those behind it apart. -/
theorem pieces_append_separator (separator : Char) (before after : Text) :
    pieces separator (before ++ separator :: after) =
      pieces separator before ++ pieces separator after := by
  induction before with
  | nil =>
    change _ = [[]] ++ pieces separator after
    rw [List.nil_append, pieces, if_pos rfl]
    rfl
  | cons head tail inductionHypothesis =>
    rw [List.cons_append, pieces, pieces, inductionHypothesis]
    by_cases same : head = separator
    · rw [if_pos same, if_pos same]
      rfl
    · rw [if_neg same, if_neg same]
      cases cut : pieces separator tail with
      | nil => exact absurd cut (pieces_ne_nil separator tail)
      | cons first others => rfl

theorem pieces_append_cons {separator : Char} {first : Text} (free : separator ∉ first)
    (others : Text) :
    pieces separator (first ++ separator :: others) = first :: pieces separator others := by
  rw [pieces_append_separator, pieces_of_notMem free]
  rfl

theorem mem_of_mem_pieces {separator tested : Char} {text piece : Text}
    (member : piece ∈ pieces separator text) (inPiece : tested ∈ piece) : tested ∈ text := by
  induction text generalizing piece with
  | nil =>
    rw [pieces, List.mem_singleton] at member
    rw [member] at inPiece
    exact inPiece
  | cons head tail inductionHypothesis =>
    rw [pieces] at member
    split at member
    · rcases List.mem_cons.1 member with rfl | later
      · exact absurd inPiece List.not_mem_nil
      · exact List.mem_cons_of_mem head (inductionHypothesis later inPiece)
    · split at member
      · next noPieces => exact absurd noPieces (pieces_ne_nil separator tail)
      · next first others cut =>
        rcases List.mem_cons.1 member with rfl | later
        · rcases List.mem_cons.1 inPiece with rfl | inFirst
          · exact List.mem_cons_self
          · exact List.mem_cons_of_mem head
              (inductionHypothesis (cut ▸ List.mem_cons_self) inFirst)
        · exact List.mem_cons_of_mem head
            (inductionHypothesis (cut ▸ List.mem_cons_of_mem first later) inPiece)

/-- The last separator cuts off the last piece. -/
theorem pieces_append_last {separator : Char} {word : Text} (free : separator ∉ word)
    (text : Text) :
    pieces separator (text ++ separator :: word) = pieces separator text ++ [word] := by
  rw [pieces_append_separator, pieces_of_notMem free]

/-- The pieces of joined words are these words. -/
theorem pieces_join {separator : Char} {words : List Text} (filled : words ≠ [])
    (free : ∀ word ∈ words, separator ∉ word) :
    pieces separator (join [separator] words) = words := by
  induction words with
  | nil => exact absurd rfl filled
  | cons first others inductionHypothesis =>
    obtain ⟨firstFree, othersFree⟩ := List.forall_mem_cons.1 free
    cases others with
    | nil => exact pieces_of_notMem firstFree
    | cons second others =>
      rw [join_cons_of_ne_nil _ _ (List.cons_ne_nil second others), List.append_assoc,
        List.singleton_append, pieces_append_separator, pieces_of_notMem firstFree,
        inductionHypothesis (List.cons_ne_nil second others) othersFree]
      rfl

/-- No proper ending of the mark begins the mark, so that two occurrences never overlap. -/
def Unbordered (mark : Text) : Prop :=
  ∀ count < mark.length, 0 < count → ¬ mark.drop count <+: mark

instance (mark : Text) : Decidable (Unbordered mark) :=
  inferInstanceAs (Decidable (∀ count < mark.length, _))

/-- An unbordered mark behind a text that does not begin with it is not met at the beginning. -/
theorem not_prefix_append {mark before after : Text} (unbordered : Unbordered mark)
    (absent : ¬ mark <+: before) (filled : before ≠ []) :
    ¬ mark <+: before ++ mark ++ after := by
  intro early
  have positive : 0 < before.length := List.length_pos_iff.2 filled
  rw [List.append_assoc] at early
  by_cases fits : mark.length ≤ before.length
  · have inBefore : mark <+: before :=
      List.prefix_of_prefix_length_le early (List.prefix_append before _) fits
    exact absent inBefore
  · have begins : before <+: mark :=
      List.prefix_of_prefix_length_le (List.prefix_append before _) early (by omega)
    obtain ⟨overlap, parts⟩ := begins
    have dropped : mark.drop before.length = overlap := by
      rw [← parts, List.drop_left]
    have again : overlap <+: mark ++ after := by
      rw [← parts, List.append_assoc] at early
      have := (List.prefix_append_right_inj before).1 early
      rw [← List.append_assoc, parts] at this
      exact this
    have shorter : overlap.length ≤ mark.length := by
      rw [← parts, List.length_append]
      omega
    have overlaps : overlap <+: mark :=
      List.prefix_of_prefix_length_le again (List.prefix_append mark after) shorter
    exact unbordered before.length (by omega) positive (dropped ▸ overlaps)

/-- A text is cut at a mark that does not occur before. -/
theorem splitFirst?_append {mark before : Text} (unbordered : Unbordered mark)
    (fresh : ¬ mark <:+: before) (after : Text) :
    splitFirst? mark (before ++ mark ++ after) = some (before, after) := by
  induction before with
  | nil =>
    have found : mark.isPrefixOf? (mark ++ after) = some after := isPrefixOf?_eq_some_iff.2 rfl
    rw [List.nil_append]
    cases whole : mark ++ after with
    | nil =>
      rw [splitFirst?, ← whole, found]
      rfl
    | cons head tail => rw [splitFirst?, ← whole, found]
  | cons head tail inductionHypothesis =>
    have absent : mark.isPrefixOf? (head :: tail ++ mark ++ after) = none := by
      cases found : mark.isPrefixOf? (head :: tail ++ mark ++ after) with
      | none => rfl
      | some rest =>
        have early : mark <+: head :: tail ++ mark ++ after :=
          ⟨rest, (isPrefixOf?_eq_some_iff.1 found).symm⟩
        have absentBefore : ¬ mark <+: head :: tail := fun begins => fresh begins.isInfix
        exact absurd early (not_prefix_append unbordered absentBefore (List.cons_ne_nil head tail))
    have tailFresh : ¬ mark <:+: tail := fun inTail =>
      fresh (inTail.trans (List.suffix_cons head tail).isInfix)
    have later := inductionHypothesis tailFresh
    rw [List.cons_append, List.cons_append] at absent ⊢
    rw [splitFirst?, absent, later]
    rfl

/-- A text is cut where the mark occurs first. -/
theorem length_le_of_splitFirst? {mark text before after front back : Text}
    (cut : splitFirst? mark text = some (before, after)) (parts : text = front ++ mark ++ back) :
    before.length ≤ front.length := by
  induction text generalizing before front with
  | nil =>
    rw [splitFirst?] at cut
    obtain ⟨rest, _, equality⟩ := Option.map_eq_some_iff.1 cut
    cases equality
    exact Nat.zero_le _
  | cons head tail inductionHypothesis =>
    rw [splitFirst?] at cut
    split at cut
    · cases cut
      exact Nat.zero_le _
    · next absent =>
      obtain ⟨⟨first, rest⟩, found, equality⟩ := Option.map_eq_some_iff.1 cut
      cases equality
      cases front with
      | nil =>
        have early : mark.isPrefixOf? (head :: tail) = some back :=
          isPrefixOf?_eq_some_iff.2 parts
        rw [early] at absent
        cases absent
      | cons other others =>
        have tailParts : tail = others ++ mark ++ back := (List.cons.inj parts).2
        exact Nat.succ_le_succ (inductionHypothesis found tailParts)

/-- A text is not cut exactly if the mark does not occur. -/
theorem splitFirst?_eq_none_iff {mark text : Text} :
    splitFirst? mark text = none ↔ ¬ mark <:+: text := by
  have atFront : ∀ other : Text, mark.isPrefixOf? other = none ↔ ¬ mark <+: other := by
    intro other
    rw [Option.eq_none_iff_forall_ne_some]
    constructor
    · rintro nowhere ⟨rest, parts⟩
      exact nowhere rest (isPrefixOf?_eq_some_iff.2 parts.symm)
    · intro absent rest found
      exact absent ⟨rest, (isPrefixOf?_eq_some_iff.1 found).symm⟩
  induction text with
  | nil => rw [splitFirst?, Option.map_eq_none_iff, atFront, List.infix_nil, List.prefix_nil]
  | cons head tail inductionHypothesis =>
    have later : splitFirst? mark (head :: tail) = none ↔
        mark.isPrefixOf? (head :: tail) = none ∧ splitFirst? mark tail = none := by
      rw [splitFirst?]
      cases mark.isPrefixOf? (head :: tail) with
      | none => simp
      | some rest => simp
    rw [later, atFront, List.infix_cons_iff, not_or]
    exact Iff.and Iff.rfl inductionHypothesis

/-- An unbordered mark stands for the first time behind a text that does not hold it. -/
theorem first_occurrence_iff {mark before after : Text} (unbordered : Unbordered mark) (filled : mark ≠ []) :
    (∀ front back, before ++ mark ++ after = front ++ mark ++ back →
      before.length ≤ front.length) ↔ ¬ mark <:+: before := by
  constructor
  · rintro first ⟨front, back, rfl⟩
    have early := first front (back ++ mark ++ after) (by simp only [List.append_assoc])
    have positive := List.length_pos_iff.2 filled
    simp only [List.length_append] at early
    omega
  · intro fresh front back parts
    exact length_le_of_splitFirst? (splitFirst?_append unbordered fresh after) parts

/-- What stands before the first occurrence of a mark does not hold it. -/
theorem fresh_of_splitFirst? {mark text before after : Text} (unbordered : Unbordered mark)
    (filled : mark ≠ []) (cut : splitFirst? mark text = some (before, after)) :
    ¬ mark <:+: before := by
  apply (first_occurrence_iff unbordered filled).1
  intro front back parts
  exact length_le_of_splitFirst? cut ((append_of_splitFirst? cut).trans parts)

end SourceCatalog.Text
