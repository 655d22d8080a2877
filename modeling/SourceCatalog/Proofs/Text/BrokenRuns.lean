import SourceCatalog.Proofs.Text.Decoding

/-!
# Characters and broken runs

What bytes are is said here without a machine: from the left, they are the bytes of characters
and, where no character stands, the longest run that begins one, or a single byte that begins
none. There is one way to read bytes so, and it is the machine's. Main statements: the strict
decoder accepts the bytes of texts only, and the lenient one writes one replacement character for
each broken run.
-/

namespace SourceCatalog.Text

abbrev bytesOf (decoded : Char) : List UInt8 :=
  String.utf8EncodeChar decoded

/-- The last bytes of the character with a code, so many of them. -/
def lastBytes : Nat → Nat → List UInt8
  | 0, _ => []
  | count + 1, code => UInt8.ofNat (code / Nat.pow 64 count % 64 + 0x80) :: lastBytes count code

theorem bytesOf_cases (decoded : Char) :
    (decoded.toNat < 0x80 ∧ bytesOf decoded = [UInt8.ofNat decoded.toNat]) ∨
    (0x80 ≤ decoded.toNat ∧ decoded.toNat < 0x800 ∧
      bytesOf decoded = UInt8.ofNat (decoded.toNat / 64 + 0xC0) :: lastBytes 1 decoded.toNat) ∨
    (0x800 ≤ decoded.toNat ∧ decoded.toNat < 0x10000 ∧
      bytesOf decoded = UInt8.ofNat (decoded.toNat / 4096 + 0xE0) :: lastBytes 2 decoded.toNat) ∨
    (0x10000 ≤ decoded.toNat ∧
      bytesOf decoded =
        UInt8.ofNat (decoded.toNat / 262144 + 0xF0) :: lastBytes 3 decoded.toNat) := by
  have bounds := toNat_bounds decoded
  have code : decoded.val.toNat = decoded.toNat := rfl
  unfold bytesOf String.utf8EncodeChar
  dsimp only [lastBytes]
  rw [code]
  split
  · exact Or.inl ⟨by omega, rfl⟩
  · right
    split
    · left
      refine ⟨by omega, by omega, ?_⟩
      have fits : decoded.toNat / 64 % 32 = decoded.toNat / 64 := by omega
      rw [fits]
      simp
    · right
      split
      · left
        refine ⟨by omega, by omega, ?_⟩
        have fits : decoded.toNat / 4096 % 16 = decoded.toNat / 4096 := by omega
        rw [fits]
        simp only [Nat.pow_eq, Nat.reducePow, Nat.div_one]
      · right
        refine ⟨by omega, ?_⟩
        have fits : decoded.toNat / 262144 % 8 = decoded.toNat / 262144 := by omega
        rw [fits]
        simp only [Nat.pow_eq, Nat.reducePow, Nat.div_one]

/-- The bytes of a character do not begin those of another one. -/
theorem bytesOf_append_inj {first second : Char} {rest others : List UInt8}
    (same : bytesOf first ++ rest = bytesOf second ++ others) : first = second := by
  have decodes : ∀ (decoded : Char) (behind : List UInt8),
      (bytesOf decoded ++ behind).toByteArray.utf8DecodeChar? 0 = some decoded := by
    intro decoded behind
    rw [List.toByteArray_append]
    exact ByteArray.utf8DecodeChar?_utf8EncodeChar_append
  have firstDecoded := decodes first rest
  rw [same, decodes second others] at firstDecoded
  exact (Option.some.inj firstDecoded).symm

/-- A run of bytes begins some character, or is all of it. -/
def Begins (run : List UInt8) : Prop :=
  ∃ decoded, run <+: bytesOf decoded

/-- A run breaks off in front of the rest: no character stands there, and the run is the longest
one that begins a character, or a single byte if there is none. -/
structure Breaks (run rest : List UInt8) : Prop where
  noCharacter : ∀ decoded, ¬ bytesOf decoded <+: run ++ rest
  filled : run ≠ []
  begins : Begins run ∨ run.length = 1
  longest : ∀ longer, longer <+: run ++ rest → Begins longer → longer.length ≤ run.length

/-- What bytes show from left to right. -/
inductive Shows : List UInt8 → List Reading → Prop
  | nothing : Shows [] []
  | character (decoded : Char) {rest : List UInt8} {shown : List Reading} :
      Shows rest shown → Shows (bytesOf decoded ++ rest) (.character decoded :: shown)
  | broken {run rest : List UInt8} {shown : List Reading} :
      Breaks run rest → Shows rest shown → Shows (run ++ rest) (.broken :: shown)

theorem Begins.of_prefix {shorter longer : List UInt8} (begins : Begins longer)
    (front : shorter <+: longer) : Begins shorter := by
  obtain ⟨decoded, inside⟩ := begins
  exact ⟨decoded, front.trans inside⟩

/-- Of two runs at the same place neither is shorter. -/
theorem Breaks.length_le {run rest other others : List UInt8} (breaks : Breaks run rest)
    (breaksToo : Breaks other others) (same : run ++ rest = other ++ others) :
    run.length ≤ other.length := by
  rcases breaks.begins with begins | single
  · apply breaksToo.longest run _ begins
    rw [← same]
    exact List.prefix_append run rest
  · rw [single]
    exact List.length_pos_iff.2 breaksToo.filled

/-- Where a run breaks off is determined by the bytes. -/
theorem Breaks.unique {run rest other others : List UInt8} (breaks : Breaks run rest)
    (breaksToo : Breaks other others) (same : run ++ rest = other ++ others) :
    run = other ∧ rest = others := by
  apply List.append_inj same
  exact Nat.le_antisymm (breaks.length_le breaksToo same) (breaksToo.length_le breaks same.symm)

/-- There is one way to read bytes. -/
theorem Shows.unique {bytes : List UInt8} {shown others : List Reading}
    (first : Shows bytes shown) (second : Shows bytes others) : shown = others := by
  induction first generalizing others with
  | nothing =>
    generalize nothing : [] = bytes at second
    cases second with
    | nothing => rfl
    | character decoded _ => simp [String.utf8EncodeChar_ne_nil] at nothing
    | broken breaks _ => simp [breaks.filled] at nothing
  | @character decoded rest shown _ inductionHypothesis =>
    generalize whole : bytesOf decoded ++ rest = bytes at second
    cases second with
    | nothing => simp [String.utf8EncodeChar_ne_nil] at whole
    | character other second =>
      obtain rfl := bytesOf_append_inj whole
      rw [List.append_cancel_left whole] at inductionHypothesis
      rw [inductionHypothesis second]
    | broken breaks _ =>
      have front : bytesOf decoded <+: bytesOf decoded ++ rest := List.prefix_append _ _
      rw [whole] at front
      exact absurd front (breaks.noCharacter decoded)
  | @broken run rest shown breaks _ inductionHypothesis =>
    generalize whole : run ++ rest = bytes at second
    cases second with
    | nothing => simp [breaks.filled] at whole
    | character other _ =>
      have front : bytesOf other <+: run ++ rest := by
        rw [whole]
        exact List.prefix_append _ _
      exact absurd front (breaks.noCharacter other)
    | broken breaksToo second =>
      obtain ⟨rfl, rfl⟩ := breaks.unique breaksToo whole
      rw [inductionHypothesis second]

/-- The codes that an unfinished character may still have. -/
def Unfinished.Admits (unfinished : Unfinished) (code : Nat) : Prop :=
  let begun := code / Nat.pow 64 (unfinished.missing - 1)
  unfinished.bits * 64 + (unfinished.low - 0x80) ≤ begun ∧
    begun ≤ unfinished.bits * 64 + (unfinished.high - 0x80)

/-- The decoder stands at an unfinished character after a run: the characters that begin with
the run are those with a code that is admitted. -/
structure Unfinished.After (unfinished : Unfinished) (run : List UInt8) : Prop where
  missing : 1 ≤ unfinished.missing ∧ unfinished.missing ≤ 3
  range : 0x80 ≤ unfinished.low ∧ unfinished.low ≤ unfinished.high ∧ unfinished.high ≤ 0xBF
  valid : ∀ code, unfinished.Admits code → code.isValidChar
  completed : ∀ decoded : Char, unfinished.Admits decoded.toNat →
    bytesOf decoded = run ++ lastBytes unfinished.missing decoded.toNat
  only : ∀ decoded : Char, run <+: bytesOf decoded → unfinished.Admits decoded.toNat

theorem first_of_prefix {byte : UInt8} {decoded : Char} (front : [byte] <+: bytesOf decoded) :
    (decoded.toNat < 0x80 ∧ byte.toNat = decoded.toNat) ∨
    (0x80 ≤ decoded.toNat ∧ decoded.toNat < 0x800 ∧ byte.toNat = decoded.toNat / 64 + 0xC0) ∨
    (0x800 ≤ decoded.toNat ∧ decoded.toNat < 0x10000 ∧
      byte.toNat = decoded.toNat / 4096 + 0xE0) ∨
    (0x10000 ≤ decoded.toNat ∧ byte.toNat = decoded.toNat / 262144 + 0xF0) := by
  have bounds := toNat_bounds decoded
  have head : ∀ {code : Nat} {others : List UInt8}, code < 256 →
      bytesOf decoded = UInt8.ofNat code :: others → byte.toNat = code := by
    intro code others small parts
    rw [parts, List.cons_prefix_cons] at front
    rw [front.1]
    exact UInt8.toNat_ofNat_of_lt' small
  rcases bytesOf_cases decoded with ⟨low, parts⟩ | ⟨low, high, parts⟩ | ⟨low, high, parts⟩ |
    ⟨low, parts⟩
  · exact Or.inl ⟨low, head (by omega) parts⟩
  · exact Or.inr (Or.inl ⟨low, high, head (by omega) parts⟩)
  · exact Or.inr (Or.inr (Or.inl ⟨low, high, head (by omega) parts⟩))
  · exact Or.inr (Or.inr (Or.inr ⟨low, head (by omega) parts⟩))

/-- A byte that begins longer characters, with the bounds of their codes. -/
theorem after_first {byte : UInt8} {bits missing low high : Nat} (unit : Nat)
    (power : Nat.pow 64 (missing - 1) = unit)
    (kind : (missing = 1 ∧ 0xC2 ≤ byte.toNat ∧ byte.toNat < 0xE0) ∨
      (missing = 2 ∧ 0xE0 ≤ byte.toNat ∧ byte.toNat < 0xF0) ∨
      (missing = 3 ∧ 0xF0 ≤ byte.toNat))
    (range : 0x80 ≤ low ∧ low ≤ high ∧ high ≤ 0xBF)
    (admits : ∀ code,
      bits * 64 + (low - 0x80) ≤ code / unit ∧ code / unit ≤ bits * 64 + (high - 0x80) ↔
      (code < 0xD800 ∨ 0xDFFF < code ∧ code < 0x110000) ∧
        ((0x80 ≤ code ∧ code < 0x800 ∧ byte.toNat = code / 64 + 0xC0) ∨
        (0x800 ≤ code ∧ code < 0x10000 ∧ byte.toNat = code / 4096 + 0xE0) ∨
        (0x10000 ≤ code ∧ byte.toNat = code / 262144 + 0xF0))) :
    Unfinished.After ⟨bits, missing, low, high⟩ [byte] where
  missing := by
    dsimp only
    omega
  range := range
  valid := by
    intro code admitted
    rw [← power] at admits
    exact ((admits code).1 admitted).1
  completed := by
    intro decoded admitted
    rw [← power] at admits
    have kinds := (admits decoded.toNat).1 admitted
    have same : ∀ {code : Nat}, byte.toNat = code → UInt8.ofNat code = byte := by
      intro code equality
      rw [← equality, UInt8.ofNat_toNat]
    rcases bytesOf_cases decoded with ⟨_, _⟩ | ⟨_, _, parts⟩ | ⟨_, _, parts⟩ | ⟨_, parts⟩
    · omega
    · obtain rfl : missing = 1 := by omega
      rw [parts, same (by omega)]
      rfl
    · obtain rfl : missing = 2 := by omega
      rw [parts, same (by omega)]
      rfl
    · obtain rfl : missing = 3 := by omega
      rw [parts, same (by omega)]
      rfl
  only := by
    intro decoded front
    rw [← power] at admits
    apply (admits decoded.toNat).2
    have lead := first_of_prefix front
    exact ⟨toNat_bounds decoded, by omega⟩

/-- A first byte is a character, begins none, or begins longer ones. -/
theorem readFirst_cases (byte : UInt8) :
    (∃ decoded, bytesOf decoded = [byte] ∧
      readFirst byte.toNat = ([.character decoded], none)) ∨
    (¬ Begins [byte] ∧ readFirst byte.toNat = ([.broken], none)) ∨
    ∃ unfinished : Unfinished, unfinished.After [byte] ∧
      readFirst byte.toNat = ([], some unfinished) := by
  generalize step : readFirst byte.toNat = result
  unfold readFirst at step
  split at step
  · next ascii =>
    have valid : byte.toNat.isValidChar := Or.inl (by omega)
    have code := toNat_ofNat_of_valid valid
    refine Or.inl ⟨Char.ofNat byte.toNat, ?_, step.symm⟩
    rcases bytesOf_cases (Char.ofNat byte.toNat) with ⟨_, parts⟩ | _ | _ | _
    · rw [parts, code, UInt8.ofNat_toNat]
    all_goals omega
  right
  split at step
  · refine Or.inl ⟨?_, step.symm⟩
    rintro ⟨decoded, front⟩
    have lead := first_of_prefix front
    omega
  split at step
  · exact Or.inr ⟨_, after_first 1 rfl (by omega) (by omega) fun code => by omega, step.symm⟩
  split at step
  · exact Or.inr ⟨_, after_first 64 rfl (by omega) (by omega) fun code => by omega, step.symm⟩
  split at step
  · exact Or.inr ⟨_, after_first 64 rfl (by omega) (by omega) fun code => by omega, step.symm⟩
  split at step
  · exact Or.inr ⟨_, after_first 64 rfl (by omega) (by omega) fun code => by omega, step.symm⟩
  split at step
  · exact Or.inr ⟨_, after_first 4096 rfl (by omega) (by omega) fun code => by omega, step.symm⟩
  split at step
  · exact Or.inr ⟨_, after_first 4096 rfl (by omega) (by omega) fun code => by omega, step.symm⟩
  split at step
  · exact Or.inr ⟨_, after_first 4096 rfl (by omega) (by omega) fun code => by omega, step.symm⟩
  · refine Or.inl ⟨?_, step.symm⟩
    rintro ⟨decoded, front⟩
    have bounds := toNat_bounds decoded
    have lead := first_of_prefix front
    omega

namespace Unfinished.After

variable {unfinished : Unfinished} {run : List UInt8}

theorem lastBytes_eq (after : unfinished.After run) (code : Nat) :
    lastBytes unfinished.missing code =
      UInt8.ofNat (code / Nat.pow 64 (unfinished.missing - 1) % 64 + 0x80) ::
        lastBytes (unfinished.missing - 1) code := by
  obtain ⟨missing, same⟩ := Nat.exists_eq_succ_of_ne_zero (Nat.pos_iff_ne_zero.1 after.missing.1)
  rw [same]
  rfl

/-- The next byte of a character tells the next six bits of its code. -/
theorem continues_iff (after : unfinished.After run) (byte : UInt8) (decoded : Char) :
    run ++ [byte] <+: bytesOf decoded ↔
      unfinished.low ≤ byte.toNat ∧ byte.toNat ≤ unfinished.high ∧
        decoded.toNat / Nat.pow 64 (unfinished.missing - 1) =
          unfinished.bits * 64 + (byte.toNat - 0x80) := by
  have range := after.range
  constructor
  · intro front
    have admitted := after.only decoded ((List.prefix_append run [byte]).trans front)
    rw [after.completed decoded admitted, List.prefix_append_right_inj, after.lastBytes_eq,
      List.cons_prefix_cons] at front
    have code : byte.toNat =
        decoded.toNat / Nat.pow 64 (unfinished.missing - 1) % 64 + 0x80 := by
      rw [front.1]
      apply UInt8.toNat_ofNat_of_lt'
      change _ < 256
      omega
    unfold Unfinished.Admits at admitted
    dsimp only at admitted
    omega
  · rintro ⟨above, below, code⟩
    have admitted : unfinished.Admits decoded.toNat := by
      unfold Unfinished.Admits
      dsimp only
      omega
    rw [after.completed decoded admitted, List.prefix_append_right_inj, after.lastBytes_eq,
      List.cons_prefix_cons, code]
    refine ⟨?_, List.nil_prefix⟩
    have same : (unfinished.bits * 64 + (byte.toNat - 0x80)) % 64 + 0x80 = byte.toNat := by omega
    rw [same, UInt8.ofNat_toNat]

/-- The last byte ends a character. -/
theorem bytesOf_last (after : unfinished.After run) {byte : UInt8}
    (above : unfinished.low ≤ byte.toNat) (below : byte.toNat ≤ unfinished.high)
    (last : unfinished.missing = 1) :
    bytesOf (Char.ofNat (unfinished.bits * 64 + (byte.toNat - 0x80))) = run ++ [byte] := by
  have range := after.range
  have power : Nat.pow 64 (unfinished.missing - 1) = 1 := by rw [last]
  have admitted : unfinished.Admits (unfinished.bits * 64 + (byte.toNat - 0x80)) := by
    unfold Unfinished.Admits
    dsimp only
    rw [power, Nat.div_one]
    omega
  have code := toNat_ofNat_of_valid (after.valid _ admitted)
  rw [← code] at admitted
  have front := (after.continues_iff byte _).2
    ⟨above, below, by rw [power, Nat.div_one, code]⟩
  have parts := after.completed _ admitted
  symm
  apply front.eq_of_length
  rw [parts, after.lastBytes_eq, last, List.length_append, List.length_append]
  rfl

theorem admits_next_iff (more : 1 < unfinished.missing) (bits code : Nat) :
    Unfinished.Admits ⟨bits, unfinished.missing - 1, 0x80, 0xBF⟩ code ↔
      code / Nat.pow 64 (unfinished.missing - 1) = bits := by
  have power : Nat.pow 64 (unfinished.missing - 1) =
      Nat.pow 64 (unfinished.missing - 1 - 1) * 64 := by
    rw [Nat.pow_eq, Nat.pow_eq, ← Nat.pow_succ]
    congr 1
    omega
  rw [power, ← Nat.div_div_eq_div_mul]
  unfold Unfinished.Admits
  dsimp only
  omega

/-- Any other byte leaves a character unfinished. -/
theorem next (after : unfinished.After run) {byte : UInt8}
    (above : unfinished.low ≤ byte.toNat) (below : byte.toNat ≤ unfinished.high)
    (more : 1 < unfinished.missing) :
    Unfinished.After
      ⟨unfinished.bits * 64 + (byte.toNat - 0x80), unfinished.missing - 1, 0x80, 0xBF⟩
      (run ++ [byte]) := by
  have range := after.range
  have few := after.missing
  have admitted : ∀ {code : Nat}, code / Nat.pow 64 (unfinished.missing - 1) =
      unfinished.bits * 64 + (byte.toNat - 0x80) → unfinished.Admits code := by
    intro code same
    unfold Unfinished.Admits
    dsimp only
    omega
  have anyByte : 0x80 ≤ 0x80 ∧ 0x80 ≤ 0xBF ∧ 0xBF ≤ 0xBF := by decide
  refine ⟨?_, anyByte, ?_, ?_, ?_⟩
  · dsimp only
    omega
  · intro code admittedNext
    exact after.valid code (admitted ((admits_next_iff more _ code).1 admittedNext))
  · intro decoded admittedNext
    have same := (admits_next_iff more _ decoded.toNat).1 admittedNext
    have front := (after.continues_iff byte decoded).2 ⟨above, below, same⟩
    rw [after.completed decoded (admitted same), after.lastBytes_eq] at front ⊢
    rw [List.prefix_append_right_inj, List.cons_prefix_cons] at front
    rw [← front.1, List.append_assoc]
    rfl
  · intro decoded front
    apply (admits_next_iff more _ decoded.toNat).2
    exact ((after.continues_iff byte decoded).1 front).2.2

/-- The bytes of an unfinished character begin some character. -/
theorem begins (after : unfinished.After run) : Begins run := by
  let code := (unfinished.bits * 64 + (unfinished.low - 0x80)) *
    Nat.pow 64 (unfinished.missing - 1)
  have positive : 0 < Nat.pow 64 (unfinished.missing - 1) := Nat.pow_pos (by decide)
  have begun : code / Nat.pow 64 (unfinished.missing - 1) =
      unfinished.bits * 64 + (unfinished.low - 0x80) := Nat.mul_div_cancel _ positive
  have range := after.range
  have admitted : unfinished.Admits code := by
    unfold Unfinished.Admits
    dsimp only
    rw [begun]
    omega
  have same := toNat_ofNat_of_valid (after.valid code admitted)
  refine ⟨Char.ofNat code, ?_⟩
  rw [after.completed (Char.ofNat code) (by rwa [same])]
  exact List.prefix_append run _

/-- No character is complete within the run. -/
theorem noCharacter (after : unfinished.After run) (decoded : Char) :
    ¬ bytesOf decoded <+: run := by
  rintro ⟨others, parts⟩
  obtain ⟨meant, behind, whole⟩ := after.begins
  have both : bytesOf decoded ++ (others ++ behind) = bytesOf meant ++ [] := by
    rw [← List.append_assoc, parts, whole, List.append_nil]
  obtain rfl := bytesOf_append_inj both
  have completed := after.completed decoded (after.only decoded ⟨behind, whole⟩)
  rw [after.lastBytes_eq] at completed
  have lengths := congrArg List.length completed
  have shorter := congrArg List.length parts
  rw [List.length_append] at lengths shorter
  rw [List.length_cons] at lengths
  omega

/-- One more byte ends the character, breaks the run off, or is one of several that are missing. -/
theorem readByte_cases (after : unfinished.After run) (byte : UInt8) :
    (∃ decoded, bytesOf decoded = run ++ [byte] ∧
      readByte (some unfinished) byte.toNat = ([.character decoded], none)) ∨
    (¬ Begins (run ++ [byte]) ∧
      readByte (some unfinished) byte.toNat =
        (.broken :: (readByte none byte.toNat).1, (readByte none byte.toNat).2)) ∨
    ∃ later : Unfinished, later.After (run ++ [byte]) ∧
      readByte (some unfinished) byte.toNat = ([], some later) := by
  rw [readByte.eq_def]
  dsimp only
  split
  · next inside =>
    split
    · next few =>
      have last : unfinished.missing = 1 := Nat.le_antisymm few after.missing.1
      exact Or.inl ⟨_, after.bytesOf_last inside.1 inside.2 last, rfl⟩
    · next more =>
      exact Or.inr (Or.inr ⟨_, after.next inside.1 inside.2 (Nat.lt_of_not_le more), rfl⟩)
  · next outside =>
    refine Or.inr (Or.inl ⟨?_, rfl⟩)
    rintro ⟨decoded, front⟩
    have inside := (after.continues_iff byte decoded).1 front
    exact outside ⟨inside.1, inside.2.1⟩

end Unfinished.After

/-! ## What the machine sees -/

theorem breaks_of_not_begins {run rest : List UInt8} {byte : UInt8} (filled : run ≠ [])
    (begins : Begins run) (noCharacter : ∀ decoded, ¬ bytesOf decoded <+: run)
    (stuck : ¬ Begins (run ++ [byte])) : Breaks run (byte :: rest) := by
  have through : ∀ {longer : List UInt8}, longer <+: run ++ byte :: rest →
      run.length < longer.length → run ++ [byte] <+: longer := by
    intro longer front more
    apply List.prefix_of_prefix_length_le _ front
    · rw [List.length_append]
      exact more
    · rw [List.prefix_append_right_inj]
      exact List.cons_prefix_cons.2 ⟨rfl, List.nil_prefix⟩
  refine ⟨?_, filled, Or.inl begins, ?_⟩
  · intro decoded front
    by_cases more : run.length < (bytesOf decoded).length
    · exact stuck ⟨decoded, through front more⟩
    · apply noCharacter decoded
      exact List.prefix_of_prefix_length_le front (List.prefix_append run _) (Nat.le_of_not_lt more)
  · intro longer front begun
    by_contra more
    exact stuck (begun.of_prefix (through front (Nat.lt_of_not_le more)))

theorem breaks_of_end {run : List UInt8} (filled : run ≠ []) (begins : Begins run)
    (noCharacter : ∀ decoded, ¬ bytesOf decoded <+: run) : Breaks run [] := by
  refine ⟨?_, filled, Or.inl begins, ?_⟩
  · rwa [List.append_nil]
  · intro longer front _
    rw [List.append_nil] at front
    exact front.length_le

theorem breaks_single {byte : UInt8} (stuck : ¬ Begins [byte]) (rest : List UInt8) :
    Breaks [byte] rest := by
  have through : ∀ {longer : List UInt8}, longer <+: [byte] ++ rest → longer ≠ [] →
      [byte] <+: longer := by
    intro longer front filled
    apply List.prefix_of_prefix_length_le (List.prefix_append [byte] rest) front
    exact List.length_pos_iff.2 filled
  refine ⟨?_, List.cons_ne_nil byte [], Or.inr rfl, ?_⟩
  · intro decoded front
    exact stuck ⟨decoded, through front String.utf8EncodeChar_ne_nil⟩
  · intro longer front begun
    by_cases filled : longer = []
    · rw [filled]
      exact Nat.zero_le _
    · exact absurd (begun.of_prefix (through front filled)) stuck

/-- What the first reading of some bytes is. -/
inductive Opens : List UInt8 → List Reading → Prop
  | character (decoded : Char) (rest : List UInt8) :
      Opens (bytesOf decoded ++ rest) (.character decoded :: readings rest)
  | broken {run rest : List UInt8} :
      Breaks run rest → Opens (run ++ rest) (.broken :: readings rest)

/-- The machine ends an unfinished character, or breaks it off where its run breaks off. -/
theorem opens_readingsAfter {unfinished : Unfinished} {run : List UInt8}
    (after : unfinished.After run) (filled : run ≠ []) (bytes : List UInt8) :
    Opens (run ++ bytes) (readingsAfter (some unfinished) bytes) := by
  induction bytes generalizing unfinished run with
  | nil => exact Opens.broken (breaks_of_end filled after.begins after.noCharacter)
  | cons byte others inductionHypothesis =>
    rw [readingsAfter]
    rcases after.readByte_cases byte with
      ⟨decoded, whole, step⟩ | ⟨stuck, step⟩ | ⟨later, afterLater, step⟩
    · have parts : run ++ byte :: others = bytesOf decoded ++ others := by
        rw [whole, List.append_assoc]
        rfl
      rw [step, parts]
      exact Opens.character decoded others
    · rw [step]
      exact Opens.broken (breaks_of_not_begins filled after.begins after.noCharacter stuck)
    · have parts : run ++ byte :: others = run ++ [byte] ++ others := by
        rw [List.append_assoc]
        rfl
      rw [step, parts]
      exact inductionHypothesis afterLater (by simp)

theorem opens_readings {bytes : List UInt8} (filled : bytes ≠ []) :
    Opens bytes (readings bytes) := by
  cases bytes with
  | nil => exact absurd rfl filled
  | cons byte others =>
    rw [readings, readingsAfter, readByte]
    rcases readFirst_cases byte with ⟨decoded, whole, step⟩ | ⟨stuck, step⟩ | ⟨later, after, step⟩
    · rw [step]
      have opens := Opens.character decoded others
      rw [whole] at opens
      exact opens
    · rw [step]
      exact Opens.broken (breaks_single stuck others)
    · rw [step]
      exact opens_readingsAfter after (List.cons_ne_nil byte []) others

/-- The machine reads what the bytes show. -/
theorem shows_readings (bytes : List UInt8) : Shows bytes (readings bytes) := by
  generalize size : bytes.length = length
  induction length using Nat.strongRecOn generalizing bytes with
  | ind length inductionHypothesis =>
    by_cases filled : bytes = []
    · rw [filled]
      exact Shows.nothing
    · have opens := opens_readings filled
      generalize readings bytes = shown at opens
      cases opens with
      | character decoded rest =>
        have positive : 0 < (bytesOf decoded).length :=
          List.length_pos_iff.2 String.utf8EncodeChar_ne_nil
        rw [List.length_append] at size
        exact Shows.character decoded (inductionHypothesis rest.length (by omega) rest rfl)
      | @broken run rest breaks =>
        have positive : 0 < run.length := List.length_pos_iff.2 breaks.filled
        rw [List.length_append] at size
        exact Shows.broken breaks (inductionHypothesis rest.length (by omega) rest rfl)

theorem mapM_character?_eq_some_iff {shown : List Reading} {text : Text} :
    shown.mapM Reading.character? = some text ↔ shown = text.map .character := by
  induction shown generalizing text with
  | nil => cases text <;> simp
  | cons reading others inductionHypothesis =>
    cases reading with
    | broken => cases text <;> simp [Reading.character?]
    | character decoded =>
      cases text with
      | nil => simp [Reading.character?, Option.bind_eq_some_iff]
      | cons head tail =>
        simp only [List.mapM_cons, Reading.character?, Option.bind_eq_bind, Option.bind_some,
          Option.bind_eq_some_iff, inductionHypothesis, Option.pure_def, Option.some.injEq,
          List.cons.injEq, List.map_cons, Reading.character.injEq]
        constructor
        · rintro ⟨later, rfl, rfl, rfl⟩
          exact ⟨rfl, rfl⟩
        · rintro ⟨rfl, rfl⟩
          exact ⟨tail, rfl, rfl, rfl⟩

/-- The bytes of a text show the text. -/
theorem shows_encode (text : Text) : Shows (encode text) (text.map .character) := by
  induction text with
  | nil => exact Shows.nothing
  | cons head tail inductionHypothesis => exact Shows.character head inductionHypothesis

theorem readings_encode (text : Text) : readings (encode text) = text.map .character :=
  (shows_readings (encode text)).unique (shows_encode text)

/-- Bytes without a broken run are those of a text. -/
theorem eq_encode_of_shows {bytes : List UInt8} {text : Text}
    (shown : Shows bytes (text.map .character)) : bytes = encode text := by
  induction text generalizing bytes with
  | nil => 
    cases shown
    rfl
  | cons head tail inductionHypothesis =>
    cases shown with
    | character _ later =>
      rw [inductionHypothesis later]
      rfl

/-- The strict decoder accepts the bytes of texts, and nothing else. -/
theorem decode?_eq_some_iff {bytes : List UInt8} {text : Text} :
    decode? bytes = some text ↔ bytes = encode text := by
  rw [decode?, mapM_character?_eq_some_iff]
  constructor
  · intro same
    apply eq_encode_of_shows
    rw [← same]
    exact shows_readings bytes
  · rintro rfl
    exact readings_encode text

theorem decodeLossy_encode (text : Text) : decodeLossy (encode text) = text := by
  rw [decodeLossy, readings_encode, List.map_map]
  exact List.map_id text

theorem eq_map_of_broken_notMem {shown : List Reading} (whole : .broken ∉ shown) :
    ∃ text : Text, shown = text.map .character := by
  induction shown with
  | nil => exact ⟨[], rfl⟩
  | cons reading others inductionHypothesis =>
    rw [List.mem_cons, not_or] at whole
    obtain ⟨text, rfl⟩ := inductionHypothesis whole.2
    cases reading with
    | broken => exact absurd rfl whole.1
    | character decoded => exact ⟨decoded :: text, rfl⟩

/-- Bytes that are no text show a broken run. -/
theorem broken_mem_readings {bytes : List UInt8} (noText : ∀ text, bytes ≠ encode text) :
    .broken ∈ readings bytes := by
  by_contra whole
  obtain ⟨text, same⟩ := eq_map_of_broken_notMem whole
  apply noText text
  apply eq_encode_of_shows
  rw [← same]
  exact shows_readings bytes

end SourceCatalog.Text
