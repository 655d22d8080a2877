import SourceCatalog.Proofs.Text.Codes
import SourceCatalog.Text.Case

/-!
# Lower case, twice

The table of lower-case forms leads out of itself: no lower-case form has a further one. Main
statement: a text in lower case stays as it is when it is lower-cased, final sigmas included.
An ASCII text is lower-cased character by character.
-/

namespace SourceCatalog.Text

/-- No partner in `run` has a partner in `other`: the codes of the two lie apart, or they differ
in parity. -/
def CaseRun.avoids (run other : CaseRun) : Bool :=
  Nat.blt (run.target + (run.last - run.first)) other.first || Nat.blt other.last run.target ||
    (other.step == 2 && (run.step == 2 || run.first == run.last) &&
      run.target % 2 != other.first % 2)

theorem CaseRun.partner?_eq_none_of_avoids {run other : CaseRun} (avoids : run.avoids other = true)
    {code partner : Nat} (found : run.partner? code = some partner) :
    other.partner? partner = none := by
  unfold partner? at found ⊢
  split at found
  · next inside =>
    obtain rfl := Option.some.inj found
    obtain ⟨above, below, step⟩ := inside
    simp only [CaseRun.avoids, Bool.or_eq_true, Bool.and_eq_true, Nat.blt_eq, beq_iff_eq,
      bne_iff_ne] at avoids
    apply if_neg
    rintro ⟨otherAbove, otherBelow, otherStep⟩
    rcases avoids with (before | behind) | ⟨⟨two, same⟩, parity⟩
    · omega
    · omega
    · rw [two] at otherStep
      rcases same with runTwo | single
      · rw [runTwo] at step
        omega
      · omega
  · cases found

theorem lowerRuns_avoid :
    lowerRuns.all (fun run => lowerRuns.all fun other => run.avoids other) = true := by
  decide +kernel

/-- The capital letter with a dot, which has a longer form, is nobody's partner. -/
theorem lowerRuns_avoid_dotted :
    lowerRuns.all (fun run => run.avoids ⟨0x130, 0x130, 1, 0x130⟩) = true := by
  decide +kernel

/-- The partner of a code has none itself. -/
theorem noPartner_of_partner {code partner : Nat}
    (found : lowerRuns.findSome? (·.partner? code) = some partner) :
    lowerRuns.findSome? (·.partner? partner) = none ∧ partner ≠ 0x130 := by
  obtain ⟨run, isRun, isPartner⟩ := List.exists_of_findSome?_eq_some found
  constructor
  · apply List.findSome?_eq_none_iff.2
    intro other isOther
    have avoidsAll := List.all_eq_true.1 lowerRuns_avoid run isRun
    exact CaseRun.partner?_eq_none_of_avoids (List.all_eq_true.1 avoidsAll other isOther) isPartner
  · rintro rfl
    have avoids := List.all_eq_true.1 lowerRuns_avoid_dotted run isRun
    have missing := CaseRun.partner?_eq_none_of_avoids avoids isPartner
    exact absurd missing (by decide)

/-- A character that lower-casing leaves alone, wherever it stands. -/
def IsLower (tested : Char) : Prop :=
  tested ≠ 'Σ' ∧ lowerOf tested = [tested]

instance (tested : Char) : Decidable (IsLower tested) :=
  inferInstanceAs (Decidable (_ ∧ _))

/-- The characters that lower-casing writes without a look at the table: the two for the capital
letter with a dot, both small sigmas, and the one that stands for no valid code. -/
theorem isLower_untabled :
    IsLower 'i' ∧ IsLower (Char.ofNat 0x307) ∧ IsLower 'ς' ∧ IsLower 'σ' ∧ IsLower '\x00' := by
  decide +kernel

theorem isLower_of_noPartner {tested : Char} (undotted : tested ≠ 'İ')
    (noPartner : lowerRuns.findSome? (·.partner? tested.toNat) = none) : IsLower tested := by
  constructor
  · rintro rfl
    exact absurd noPartner (by decide +kernel)
  · rw [lowerOf, if_neg undotted, mapByRuns, noPartner]

theorem isLower_mapByRuns {mapped : Char} (undotted : mapped ≠ 'İ') :
    IsLower (mapByRuns lowerRuns mapped) := by
  unfold mapByRuns
  split
  · next code found =>
    obtain ⟨noPartner, notDotted⟩ := noPartner_of_partner found
    by_cases valid : code.isValidChar
    · have number := toNat_ofNat_of_valid valid
      apply isLower_of_noPartner
      · intro same
        exact notDotted (eq_toNat_of_ofNat_eq same (by decide))
      · rwa [number]
    · rw [ofNat_of_not_valid valid]
      exact isLower_untabled.2.2.2.2
  · next missing => exact isLower_of_noPartner undotted missing

theorem isLower_of_mem_lowerOf {mapped tested : Char} (member : tested ∈ lowerOf mapped) :
    IsLower tested := by
  unfold lowerOf at member
  split at member
  · rcases List.mem_cons.1 member with rfl | second
    · exact isLower_untabled.1
    · rw [List.mem_singleton.1 second]
      exact isLower_untabled.2.1
  · next undotted =>
    rw [List.mem_singleton.1 member]
    exact isLower_mapByRuns undotted

theorem isLower_of_mem_lowerAfter {reversedBefore text : Text} {tested : Char}
    (member : tested ∈ lowerAfter reversedBefore text) : IsLower tested := by
  induction text generalizing reversedBefore with
  | nil => cases member
  | cons head tail inductionHypothesis =>
    rcases List.mem_append.1 member with atHead | inTail
    · split at atHead
      · rw [List.mem_singleton.1 atHead, lowerSigma]
        split
        · exact isLower_untabled.2.2.1
        · exact isLower_untabled.2.2.2.1
      · exact isLower_of_mem_lowerOf atHead
    · exact inductionHypothesis inTail

/-- A text in lower case is left alone from then on. -/
theorem isLower_of_mem_lower {text : Text} {tested : Char} (member : tested ∈ lower text) :
    IsLower tested :=
  isLower_of_mem_lowerAfter member

theorem lowerAfter_of_isLower {text : Text} (isLower : ∀ tested ∈ text, IsLower tested)
    (reversedBefore : Text) : lowerAfter reversedBefore text = text := by
  induction text generalizing reversedBefore with
  | nil => rfl
  | cons head tail inductionHypothesis =>
    obtain ⟨noSigma, stays⟩ := isLower head List.mem_cons_self
    have later := inductionHypothesis (fun tested member =>
      isLower tested (List.mem_cons_of_mem head member)) (head :: reversedBefore)
    rw [lowerAfter, if_neg noSigma, stays, later]
    rfl

theorem lower_of_isLower {text : Text} (isLower : ∀ tested ∈ text, IsLower tested) :
    lower text = text :=
  lowerAfter_of_isLower isLower []

/-- A part of a text in lower case is in lower case, whatever has been left out of it. -/
theorem lower_of_sublist_lower {part text : Text} (sublist : part.Sublist (lower text)) :
    lower part = part :=
  lower_of_isLower fun _ member => isLower_of_mem_lower (sublist.subset member)

def IsAscii (text : Text) : Prop :=
  ∀ tested ∈ text, tested.toNat < 0x80

instance (text : Text) : Decidable (IsAscii text) :=
  List.decidableBAll _ text

def capitalRun : CaseRun :=
  ⟨0x41, 0x5A, 1, 0x61⟩

theorem lowerRuns_eq_cons : lowerRuns = capitalRun :: lowerRuns.tail :=
  rfl

theorem lowerRuns_tail_beyond :
    lowerRuns.tail.all (fun run => Nat.ble 0x80 run.first) = true := by
  decide +kernel

theorem mapByRuns_capitalRun :
    ∀ code < 0x80, mapByRuns [capitalRun] (Char.ofNat code) = (Char.ofNat code).toLower := by
  decide +kernel

theorem lowerOf_of_ascii {mapped : Char} (ascii : mapped.toNat < 0x80) :
    lowerOf mapped = [mapped.toLower] := by
  have undotted : mapped ≠ 'İ' := by
    rintro rfl
    exact absurd ascii (by decide)
  have others : lowerRuns.tail.findSome? (·.partner? mapped.toNat) = none := by
    apply List.findSome?_eq_none_iff.2
    intro run isRun
    have beyond := Nat.le_of_ble_eq_true (List.all_eq_true.1 lowerRuns_tail_beyond run isRun)
    exact if_neg fun inside => absurd inside.1 (by omega)
  have same : mapByRuns lowerRuns mapped = mapByRuns [capitalRun] mapped := by
    rw [mapByRuns, mapByRuns, lowerRuns_eq_cons, List.findSome?_cons, List.findSome?_cons, others,
      List.findSome?_nil]
  have lowered := mapByRuns_capitalRun mapped.toNat ascii
  rw [Char.ofNat_toNat] at lowered
  rw [lowerOf, if_neg undotted, same, lowered]

/-- An ASCII character becomes one character, whatever stands around it. -/
theorem lowerAfter_of_isAscii {text : Text} (ascii : IsAscii text) (reversedBefore : Text) :
    lowerAfter reversedBefore text = text.map Char.toLower := by
  induction text generalizing reversedBefore with
  | nil => rfl
  | cons head tail inductionHypothesis =>
    obtain ⟨headAscii, tailAscii⟩ := List.forall_mem_cons.1 ascii
    have noSigma : head ≠ 'Σ' := by
      rintro rfl
      exact absurd headAscii (by decide)
    rw [lowerAfter, if_neg noSigma, lowerOf_of_ascii headAscii, inductionHypothesis tailAscii]
    rfl

/-- In ASCII each character is put in lower case on its own. -/
theorem lower_of_isAscii {text : Text} (ascii : IsAscii text) :
    lower text = text.map Char.toLower :=
  lowerAfter_of_isAscii ascii []

end SourceCatalog.Text
