import SourceCatalog.Proofs.Source.Remarks
import SourceCatalog.Proofs.Source.Spaced
import SourceCatalog.Source.Normal

/-!
# Code outside of comments

A reader of the language ends a block comment at its first `*/`, wherever this stands in its
line. Cutting comments out goes on to a `*/` that closes its line. Main statement: where each
block comment closes its line, all code outside of comments is left. Where one does not, code
behind it may be lost.
-/

namespace SourceCatalog.Source

open Text (isBlank Blank)

inductive Region where
  | code
  | line
  | block
  deriving DecidableEq, Repr

/-- What a reader comes across: a character of code, or the end of a block comment with the text
behind it. -/
inductive Sight where
  | code (seen : Char)
  | blockEnd (behind : Text)
  deriving DecidableEq, Repr

/-- What a reader comes across in a text without quotes, from left to right. Comments do not
nest. -/
def sights : Region → Text → List Sight
  | _, [] => []
  | .code, '/' :: '/' :: tail => sights .line tail
  | .code, '/' :: '*' :: tail => sights .block tail
  | .code, head :: tail => .code head :: sights .code tail
  | .line, head :: tail =>
    if head = '\n' ∨ head = '\r' then .code head :: sights .code tail else sights .line tail
  | .block, '*' :: '/' :: tail => .blockEnd tail :: sights .code tail
  | .block, _ :: tail => sights .block tail

def Sight.code? : Sight → Option Char
  | code seen => some seen
  | blockEnd _ => none

def Sight.behind? : Sight → Option Text
  | code _ => none
  | blockEnd behind => some behind

def codeOf (sights : List Sight) : Text :=
  sights.filterMap Sight.code?

def outsideComments (text : Text) : Text :=
  codeOf (sights .code text)

/-- Behind a block comment there is at most a comma in front of the end of the line. -/
def AtLineEnd (behind : Text) : Prop :=
  ∃ comma margin after, Margin margin ∧ OpensWithLineEnd after ∧
    behind = commaText comma ++ (margin ++ after)

/-- Each block comment that a reader comes to the end of closes its line. -/
def BlocksCloseLines (sights : List Sight) : Prop :=
  ∀ behind, Sight.blockEnd behind ∈ sights → AtLineEnd behind

theorem atLineEnd_iff {behind : Text} : AtLineEnd behind ↔ (closing? behind).isSome := by
  constructor
  · intro closes
    obtain ⟨comma, margin, after, isMargin, opens, parts⟩ := closes
    have found : closing? behind = some ⟨commaText comma, after⟩ :=
      closing?_eq_some_iff.2 ⟨opens, comma, margin, isMargin, rfl, parts⟩
    rw [found]
    rfl
  · intro found
    obtain ⟨cut, isCut⟩ := Option.isSome_iff_exists.1 found
    obtain ⟨opens, comma, margin, isMargin, _, parts⟩ := closing?_eq_some_iff.1 isCut
    exact ⟨comma, margin, cut.after, isMargin, opens, parts⟩

instance (sights : List Sight) : Decidable (BlocksCloseLines sights) :=
  decidable_of_iff
    (∀ behind ∈ sights.filterMap Sight.behind?, (closing? behind).isSome = true) <| by
      constructor
      · intro closes behind member
        exact atLineEnd_iff.2 (closes behind (List.mem_filterMap.2 ⟨_, member, rfl⟩))
      · intro closes behind member
        obtain ⟨sight, isSight, isBehind⟩ := List.mem_filterMap.1 member
        cases sight with
        | code seen => cases isBehind
        | blockEnd tail =>
          obtain rfl := Option.some.inj isBehind
          exact atLineEnd_iff.1 (closes tail isSight)

theorem sights_code_cons {head : Char} {tail : Text}
    (noLine : ∀ rest, head :: tail ≠ '/' :: '/' :: rest)
    (noBlock : ∀ rest, head :: tail ≠ '/' :: '*' :: rest) :
    sights .code (head :: tail) = .code head :: sights .code tail := by
  rw [sights]
  · exact fun rest sameHead sameTail => noLine rest (by rw [sameHead, sameTail])
  · exact fun rest sameHead sameTail => noBlock rest (by rw [sameHead, sameTail])

/-- Without a slash nothing but code is seen. -/
theorem sights_code_append {plain : Text} (noSlash : '/' ∉ plain) (rest : Text) :
    sights .code (plain ++ rest) = plain.map Sight.code ++ sights .code rest := by
  induction plain with
  | nil => rfl
  | cons head tail inductionHypothesis =>
    rw [List.mem_cons, not_or] at noSlash
    have step : sights .code (head :: (tail ++ rest)) = .code head :: sights .code (tail ++ rest) :=
      sights_code_cons (fun _ same => noSlash.1 (List.cons.inj same).1.symm)
        fun _ same => noSlash.1 (List.cons.inj same).1.symm
    rw [List.cons_append, step, inductionHypothesis noSlash.2]
    rfl

/-- A line comment is read up to the end of its line. -/
theorem sights_line (text : Text) : sights .line text = sights .code (toLineEnd text) := by
  fun_induction toLineEnd text with
  | case1 => rfl
  | case2 head tail breaks =>
    rcases breaks with rfl | rfl <;> rfl
  | case3 head tail inside inductionHypothesis => rw [sights, if_neg inside, inductionHypothesis]

/-- Where block comments close their lines, a reader and the search for the end of a block
comment come to the same `*/`, or neither comes to one. -/
theorem sights_block {text : Text} (closed : BlocksCloseLines (sights .block text)) :
    (blockEnd? text = none ∧ sights .block text = []) ∨
      ∃ behind cut, blockEnd? text = some cut ∧ closing? behind = some cut ∧
        sights .block text = .blockEnd behind :: sights .code behind := by
  fun_induction blockEnd? text with
  | case1 => exact Or.inl ⟨rfl, rfl⟩
  | case2 tail cut closes => exact Or.inr ⟨tail, cut, rfl, closes, by simp [sights]⟩
  | case3 tail stays inductionHypothesis =>
    have closes := atLineEnd_iff.1 (closed tail (by simp [sights]))
    rw [stays] at closes
    cases closes
  | case4 head tail different inductionHypothesis =>
    have step : sights .block (head :: tail) = sights .block tail := by
      rw [sights]
      exact different
    rw [step] at closed ⊢
    exact inductionHypothesis closed

theorem solidPart_commaText (comma : Bool) : solidPart (commaText comma) = commaText comma := by
  cases comma <;> decide

theorem Margin.blank {margin : Text} (isMargin : Margin margin) : Blank margin := by
  intro tested member
  rcases isMargin tested member with rfl | rfl <;> decide

theorem codeOf_map_code (text : Text) : codeOf (text.map Sight.code) = text := by
  induction text with
  | nil => rfl
  | cons head tail inductionHypothesis => exact congrArg (head :: ·) inductionHypothesis

/-- Behind a block comment a reader comes across the comma that stays of it, across its margin,
and then across what follows it. -/
theorem solidPart_sights_block {text : Text} {cut : Cut}
    (closed : BlocksCloseLines (sights .block text)) (found : blockEnd? text = some cut) :
    BlocksCloseLines (sights .code cut.after) ∧
      solidPart (codeOf (sights .block text)) =
        cut.kept ++ solidPart (codeOf (sights .code cut.after)) := by
  rcases sights_block closed with ⟨missing, _⟩ | ⟨behind, first, isFirst, closes, sees⟩
  · rw [missing] at found
    cases found
  obtain rfl : cut = first := Option.some.inj (found.symm.trans isFirst)
  obtain ⟨_, comma, margin, isMargin, kept, rfl⟩ := closing?_eq_some_iff.1 closes
  have noSlash : '/' ∉ commaText comma ++ margin := by
    intro member
    rcases eq_of_mem_commaText_append isMargin member with same | same | same <;>
      exact absurd same (by decide)
  have goesOn := sights_code_append noSlash cut.after
  rw [List.append_assoc] at goesOn
  rw [sees, goesOn] at closed ⊢
  constructor
  · intro later member
    exact closed later (List.mem_cons_of_mem _ (List.mem_append_right _ member))
  · have skipsEnd : codeOf (.blockEnd (commaText comma ++ (margin ++ cut.after)) ::
        ((commaText comma ++ margin).map Sight.code ++ sights .code cut.after)) =
        commaText comma ++ margin ++ codeOf (sights .code cut.after) := by
      simp only [codeOf, List.filterMap_cons, Sight.code?, List.filterMap_append]
      exact congrArg (· ++ _) (codeOf_map_code _)
    rw [skipsEnd, solidPart_append, solidPart_append, solidPart_commaText,
      solidPart_of_blank isMargin.blank, List.append_nil, kept]

/-- Where all blocks close their lines, no code is lost. -/
theorem solidPart_sublist_withoutComments {text : Text}
    (closed : BlocksCloseLines (sights .code text)) :
    (solidPart (outsideComments text)).Sublist (withoutComments text) := by
  unfold outsideComments
  fun_induction withoutComments text with
  | case1 text cut found inductionHypothesis =>
    unfold commentAt? at found
    split at found
    · next tail =>
      obtain rfl := Option.some.inj found
      have sees : sights .code ('/' :: '/' :: tail) = sights .code (toLineEnd tail) := by
        rw [sights, sights_line]
      rw [sees] at closed ⊢
      exact inductionHypothesis closed
    · next tail =>
      have sees : sights .code ('/' :: '*' :: tail) = sights .block tail := by rw [sights]
      rw [sees] at closed ⊢
      obtain ⟨closedAfter, parts⟩ := solidPart_sights_block closed found
      rw [parts]
      exact (inductionHypothesis closedAfter).append_left cut.kept
    · next tail =>
      have sees : sights .code (' ' :: '/' :: '*' :: tail) = .code ' ' :: sights .block tail := by
        rw [sights_code_cons (by simp) (by simp), sights]
      rw [sees] at closed ⊢
      have closedTail : BlocksCloseLines (sights .block tail) :=
        fun behind member => closed behind (List.mem_cons_of_mem _ member)
      obtain ⟨closedAfter, parts⟩ := solidPart_sights_block closedTail found
      have dropsSpace : solidPart (codeOf (.code ' ' :: sights .block tail)) =
          solidPart (codeOf (sights .block tail)) := solidPart_cons_of_blank (by decide) _
      rw [dropsSpace, parts]
      exact (inductionHypothesis closedAfter).append_left cut.kept
    · cases found
  | case2 missing => exact List.Sublist.refl []
  | case3 head tail missing inductionHypothesis =>
    by_cases opensBlock : ∃ rest, head :: tail = '/' :: '*' :: rest
    · obtain ⟨rest, parts⟩ := opensBlock
      rw [parts] at closed missing ⊢
      have sees : sights .code ('/' :: '*' :: rest) = sights .block rest := by rw [sights]
      rw [sees] at closed ⊢
      rcases sights_block closed with ⟨_, nothing⟩ | ⟨_, cut, found, _⟩
      · rw [nothing]
        exact List.nil_sublist _
      · rw [commentAt?, found] at missing
        cases missing
    · have noLine : ∀ rest, head :: tail ≠ '/' :: '/' :: rest := by
        intro rest parts
        rw [parts] at missing
        cases missing
      have sees := sights_code_cons noLine fun rest parts => opensBlock ⟨rest, parts⟩
      rw [sees] at closed ⊢
      have later := inductionHypothesis
        fun behind member => closed behind (List.mem_cons_of_mem _ member)
      by_cases blank : isBlank head = true
      · exact (solidPart_cons_of_blank blank _ ▸ later).cons head
      · have keepsHead : solidPart (codeOf (.code head :: sights .code tail)) =
            head :: solidPart (codeOf (sights .code tail)) :=
          solidPart_cons_of_solid (by simpa using blank) _
        rw [keepsHead]
        exact later.cons_cons head

/-- Where each block comment closes its line, the characters outside of comments that are no
blanks stay, in their order. -/
theorem outsideComments_sublist_normalize {text : Text}
    (closed : BlocksCloseLines (sights .code text)) :
    (solidPart (outsideComments text)).Sublist (normalize text) := by
  have once : solidPart (solidPart (outsideComments text)) = solidPart (outsideComments text) := by
    simp [solidPart]
  have stays := (solidPart_sublist_withoutComments closed).filter fun tested => !isBlank tested
  have atLeast : (solidPart (outsideComments text)).Sublist (solidPart (normalize text)) := by
    rw [normalize, solidPart_withoutBlankRuns, ← once]
    exact stays
  exact atLeast.trans (solidPart_sublist _)

/-- Both kinds of comments, each with marks of the other one in it. The last one is not ended. -/
def closedSample : Text :=
  "If, // a /* in a line\r\nDo /* see\n// b, */,\t\nElse /* open".toList

theorem outsideComments_sublist_normalize_closedSample :
    BlocksCloseLines (sights .code closedSample) ∧
      solidPart (outsideComments closedSample) = "If,Do,Else".toList ∧
      "If,Do,Else".toList.Sublist (normalize closedSample) := by
  have closed : BlocksCloseLines (sights .code closedSample) := by decide +kernel
  have code : solidPart (outsideComments closedSample) = "If,Do,Else".toList := by decide +kernel
  have stays := outsideComments_sublist_normalize closed
  rw [code] at stays
  exact ⟨closed, code, stays⟩

/-- Its first comment does not close its line, and its second one does. -/
def openSample : Text :=
  "/* words */ enum KeyWord \x7b\n  If, /* first */\n  Else,\n\x7d\n".toList

/-- Behind a block comment that does not close its line, code is lost up to the end of a comment
that does. -/
theorem outsideComments_not_sublist_normalize :
    '"' ∉ openSample ∧ '\'' ∉ openSample ∧
      solidPart (outsideComments openSample) = "enumKeyWord\x7bIf,Else,\x7d".toList ∧
      normalize openSample = "Else,\n\x7d\n".toList ∧
      ¬ (solidPart (outsideComments openSample)).Sublist (normalize openSample) := by
  have code : solidPart (outsideComments openSample) = "enumKeyWord\x7bIf,Else,\x7d".toList := by
    decide +kernel
  have left : normalize openSample = "Else,\n\x7d\n".toList := by decide +kernel
  have lost : ¬ "enumKeyWord\x7bIf,Else,\x7d".toList.Sublist "Else,\n\x7d\n".toList := by
    decide +kernel
  refine ⟨by decide +kernel, by decide +kernel, code, left, ?_⟩
  rw [code, left]
  exact lost

end SourceCatalog.Source
