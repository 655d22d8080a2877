import Mathlib.Data.List.Infix
import SourceCatalog.Proofs.Text.Codes
import SourceCatalog.Proofs.Text.Cutting
import SourceCatalog.Text.Utf8

/-!
# Line feeds in broken texts

A byte of an ASCII character is never a part of a longer one. It breaks off what has been begun
before it, and is read all the same. Main statement: bytes may be decoded line by line, however
broken they are.
-/

namespace SourceCatalog.Text

def Unfinished.smallest (unfinished : Unfinished) : Nat :=
  (unfinished.bits * 64 + (unfinished.low - 0x80)) * Nat.pow 64 (unfinished.missing - 1)

/-- No ASCII character continues the unfinished one, and it will not be an ASCII character. -/
structure Unfinished.Long (unfinished : Unfinished) : Prop where
  low : 0x80 ≤ unfinished.low
  smallest : 0x80 ≤ unfinished.smallest

/-- What the decoder has begun, if anything, becomes no ASCII character. -/
def Begun (state : Option Unfinished) : Prop :=
  ∀ unfinished, state = some unfinished → unfinished.Long

theorem begun_none : Begun none := by
  intro unfinished same
  cases same

theorem begun_some {started : Unfinished} (long : started.Long) : Begun (some started) := by
  intro unfinished same
  rwa [← Option.some.inj same]

theorem begun_readFirst (byte : Nat) : Begun (readFirst byte).2 := by
  unfold readFirst
  repeat' split
  all_goals first
    | exact begun_none
    | exact begun_some ⟨by dsimp only; omega, by simp only [Unfinished.smallest, Nat.pow_eq]; omega⟩

theorem Unfinished.Long.continued {started : Unfinished} (long : started.Long) {byte : Nat}
    (above : started.low ≤ byte) :
    0x80 ≤ (started.bits * 64 + (byte - 0x80)) * Nat.pow 64 (started.missing - 1) := by
  have atLeast : started.bits * 64 + (started.low - 0x80) ≤ started.bits * 64 + (byte - 0x80) := by
    omega
  exact Nat.le_trans long.smallest (Nat.mul_le_mul_right _ atLeast)

theorem begun_readByte {state : Option Unfinished} (begun : Begun state) (byte : Nat) :
    Begun (readByte state byte).2 := by
  unfold readByte
  split
  · exact begun_readFirst byte
  · next started =>
    have long := begun started rfl
    split
    · next inside =>
      dsimp only
      split
      · exact begun_none
      · next more =>
        apply begun_some
        refine ⟨Nat.le_refl _, ?_⟩
        have power : Nat.pow 64 (started.missing - 1) =
            64 * Nat.pow 64 (started.missing - 1 - 1) := by
          rw [Nat.pow_eq, Nat.pow_eq, ← Nat.pow_succ']
          congr 1
          omega
        have continued := long.continued inside.1
        rw [power, ← Nat.mul_assoc] at continued
        simpa [Unfinished.smallest] using continued
    · exact begun_readFirst byte

/-- What is left to say of an unfinished character once it is broken off. -/
def abandoned (state : Option Unfinished) : List Reading :=
  if state.isSome then [.broken] else []

/-- An ASCII character breaks off whatever has begun. -/
theorem readByte_ascii {state : Option Unfinished} (begun : Begun state) {byte : Nat}
    (ascii : byte < 0x80) :
    readByte state byte = (abandoned state ++ [.character (Char.ofNat byte)], none) := by
  have first : readFirst byte = ([.character (Char.ofNat byte)], none) := if_pos ascii
  cases state with
  | none => exact first
  | some started =>
    have outside : ¬ (started.low ≤ byte ∧ byte ≤ started.high) := by
      have := (begun started rfl).low
      omega
    rw [readByte, if_neg outside, first]
    rfl

/-- The byte of an ASCII character ends what comes before it, and nothing is carried over. -/
theorem readingsAfter_append_ascii {state : Option Unfinished} (begun : Begun state)
    {byte : UInt8} (ascii : byte.toNat < 0x80) (before after : List UInt8) :
    readingsAfter state (before ++ byte :: after) =
      readingsAfter state before ++ .character (Char.ofNat byte.toNat) :: readings after := by
  induction before generalizing state with
  | nil =>
    change _ = abandoned state ++ _
    rw [List.nil_append, readingsAfter, readByte_ascii begun ascii, List.append_assoc]
    rfl
  | cons head tail inductionHypothesis =>
    rw [List.cons_append, readingsAfter, readingsAfter,
      inductionHypothesis (begun_readByte begun head.toNat), List.append_assoc]

theorem eq_of_character_mem_readFirst {byte : Nat} {decoded : Char} (notZero : decoded ≠ '\x00')
    (member : .character decoded ∈ (readFirst byte).1) : byte = decoded.toNat := by
  have noBroken : Reading.character decoded ∉ [Reading.broken] := by simp
  have inside : byte < 0x80 := by
    by_contra outside
    unfold readFirst at member
    rw [if_neg outside] at member
    repeat' split at member
    all_goals first
      | exact absurd member noBroken
      | exact absurd member List.not_mem_nil
  have first : readFirst byte = ([.character (Char.ofNat byte)], none) := if_pos inside
  rw [first] at member
  have same := Reading.character.inj (List.mem_singleton.1 member)
  exact eq_toNat_of_ofNat_eq same.symm notZero

/-- An ASCII character is read where its byte is, and nowhere else. -/
theorem eq_of_character_mem_readByte {state : Option Unfinished} (begun : Begun state)
    {byte : Nat} {decoded : Char} (notZero : decoded ≠ '\x00') (ascii : decoded.toNat < 0x80)
    (member : .character decoded ∈ (readByte state byte).1) : byte = decoded.toNat := by
  unfold readByte at member
  split at member
  · exact eq_of_character_mem_readFirst notZero member
  · next started =>
    split at member
    · next inside =>
      dsimp only at member
      split at member
      · next last =>
        have same := Reading.character.inj (List.mem_singleton.1 member)
        have code := eq_toNat_of_ofNat_eq same.symm notZero
        have continued := (begun started rfl).continued inside.1
        have power : started.missing - 1 = 0 := by omega
        rw [power, Nat.pow_eq, Nat.pow_zero, Nat.mul_one, code] at continued
        omega
      · exact absurd member List.not_mem_nil
    · rcases List.mem_cons.1 member with broken | first
      · cases broken
      · exact eq_of_character_mem_readFirst notZero first

theorem mem_of_character_mem_readingsAfter {state : Option Unfinished} (begun : Begun state)
    {bytes : List UInt8} {decoded : Char} (notZero : decoded ≠ '\x00')
    (ascii : decoded.toNat < 0x80) (member : .character decoded ∈ readingsAfter state bytes) :
    ∃ byte ∈ bytes, byte.toNat = decoded.toNat := by
  induction bytes generalizing state with
  | nil =>
    rw [readingsAfter] at member
    split at member <;> simp at member
  | cons head tail inductionHypothesis =>
    rcases List.mem_append.1 member with here | later
    · exact ⟨head, List.mem_cons_self, eq_of_character_mem_readByte begun notZero ascii here⟩
    · obtain ⟨byte, inTail, same⟩ :=
        inductionHypothesis (begun_readByte begun head.toNat) later
      exact ⟨byte, List.mem_cons_of_mem head inTail, same⟩

theorem lineFeed_notMem_decodeLossy {bytes : List UInt8} (free : 0x0A ∉ bytes) :
    '\n' ∉ decodeLossy bytes := by
  intro member
  obtain ⟨reading, isReading, same⟩ := List.mem_map.1 member
  cases reading with
  | broken => exact absurd same (by decide)
  | character decoded =>
    obtain rfl : decoded = '\n' := same
    obtain ⟨byte, isByte, code⟩ :=
      mem_of_character_mem_readingsAfter begun_none (by decide) (by decide) isReading
    have isFeed : byte = 0x0A := UInt8.toNat_inj.1 code
    exact free (isFeed ▸ isByte)

/-- Line feeds cut bytes and text alike. -/
theorem decodeLossy_append_lineFeed (before after : List UInt8) :
    decodeLossy (before ++ 0x0A :: after) = decodeLossy before ++ '\n' :: decodeLossy after := by
  have ascii : (0x0A : UInt8).toNat < 0x80 := by decide
  have read := readingsAfter_append_ascii begun_none ascii before after
  have whole := congrArg (List.map Reading.orReplacement) read
  rw [List.map_append, List.map_cons] at whole
  exact whole

theorem splitOn_of_notMem {bytes : List UInt8} (free : 0x0A ∉ bytes) :
    bytes.splitOn 0x0A = [bytes] := by
  apply List.splitOnP_eq_singleton
  intro byte member
  apply beq_eq_false_iff_ne.2
  rintro rfl
  exact free member

theorem splitOn_append_lineFeed (before after : List UInt8) :
    (before ++ 0x0A :: after).splitOn 0x0A = before.splitOn 0x0A ++ after.splitOn 0x0A :=
  List.splitOnP_append_cons before after (beq_self_eq_true _)

/-- Decoding commutes with cutting at line feeds. -/
theorem pieces_decodeLossy (bytes : List UInt8) :
    pieces '\n' (decodeLossy bytes) = (bytes.splitOn 0x0A).map decodeLossy := by
  generalize size : bytes.length = length
  induction length using Nat.strongRecOn generalizing bytes with
  | ind length inductionHypothesis =>
    by_cases member : 0x0A ∈ bytes
    · obtain ⟨first, others, rfl, free⟩ := List.eq_append_cons_of_mem member
      have shorter : others.length < length := by
        rw [← size, List.length_append, List.length_cons]
        omega
      have firstRead := lineFeed_notMem_decodeLossy free
      have cut : (first ++ 0x0A :: others).splitOn 0x0A = first :: others.splitOn 0x0A := by
        rw [splitOn_append_lineFeed, splitOn_of_notMem free]
        rfl
      rw [decodeLossy_append_lineFeed, pieces_append_cons firstRead, cut, List.map_cons,
        inductionHypothesis others.length shorter others rfl]
    · rw [splitOn_of_notMem member, pieces_of_notMem (lineFeed_notMem_decodeLossy member)]
      rfl

end SourceCatalog.Text
