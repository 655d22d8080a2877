import SourceCatalog.Json.Quoted
import SourceCatalog.Json.StringReader
import SourceCatalog.Proofs.Json.Grammar
import SourceCatalog.Proofs.Text.Codes

/-!
# Strings by the grammar

The reader of a string accepts exactly the strings of the grammar, and finds what they spell. A
text leaves it no choice, so a text spells at most one string.
-/

namespace SourceCatalog.Json

variable {text rest : Text}

theorem isSpace_iff {tested : Char} : isSpace tested = true ↔
    tested = ' ' ∨ tested = '\n' ∨ tested = '\t' ∨ tested = '\r' := by
  simp only [isSpace, Bool.or_eq_true, beq_iff_eq, or_assoc]

theorem spaces_skipSpace (text : Text) : Spaces text (skipSpace text) := by
  induction text with
  | nil => exact Spaces.none []
  | cons head tail inductionHypothesis =>
    rw [skipSpace] at inductionHypothesis ⊢
    by_cases blank : isSpace head = true
    · rw [List.dropWhile_cons_of_pos blank]
      exact Spaces.more (isSpace_iff.1 blank) inductionHypothesis
    · rw [List.dropWhile_cons_of_neg blank]
      exact Spaces.none (head :: tail)

theorem Spaces.skipSpace_eq (spaces : Spaces text rest) : skipSpace text = skipSpace rest := by
  induction spaces with
  | none => rfl
  | more blank _ inductionHypothesis =>
    rw [← inductionHypothesis, skipSpace, skipSpace,
      List.dropWhile_cons_of_pos (isSpace_iff.2 blank)]

theorem skipSpace_cons_of_visible {head : Char} (visible : isSpace head = false) :
    skipSpace (head :: rest) = head :: rest :=
  List.dropWhile_cons_of_neg (by simp [visible])

/-- All blanks are left out, and nothing else. -/
theorem skipSpace_eq_cons_iff {head : Char} (visible : isSpace head = false) :
    skipSpace text = head :: rest ↔ Spaces text (head :: rest) := by
  constructor
  · intro skipped
    rw [← skipped]
    exact spaces_skipSpace text
  · intro spaces
    rw [spaces.skipSpace_eq, skipSpace_cons_of_visible visible]

theorem skipSpace_eq_nil_iff : skipSpace text = [] ↔ Spaces text [] := by
  constructor
  · intro skipped
    rw [← skipped]
    exact spaces_skipSpace text
  · intro spaces
    rw [spaces.skipSpace_eq]
    rfl

theorem HexDigit.lt {digit : Char} {value : Nat} (read : HexDigit digit value) : value < 16 := by
  cases read <;> omega

theorem eq_ofNat_add {digit : Char} {low : Nat} (atLeast : low ≤ digit.toNat) :
    Char.ofNat (low + (digit.toNat - low)) = digit := by
  rw [Nat.add_sub_cancel' atLeast, Char.ofNat_toNat]

theorem hexDigit_of_hexValue? {digit : Char} {value : Nat}
    (found : Text.hexValue? digit = some value) : HexDigit digit value := by
  rw [Text.hexValue?] at found
  split at found
  · next bounds =>
    have low : 0x30 ≤ digit.toNat := bounds.1
    have high : digit.toNat ≤ 0x39 := bounds.2
    have read := @HexDigit.decimal (digit.toNat - 0x30) (by omega)
    rw [eq_ofNat_add low] at read
    cases found
    exact read
  · split at found
    · next bounds =>
      have low : 0x61 ≤ digit.toNat := bounds.1
      have high : digit.toNat ≤ 0x66 := bounds.2
      have read := @HexDigit.lower (digit.toNat - 0x61) (by omega)
      rw [eq_ofNat_add low, Nat.add_comm] at read
      cases found
      exact read
    · split at found
      · next bounds =>
        have low : 0x41 ≤ digit.toNat := bounds.1
        have high : digit.toNat ≤ 0x46 := bounds.2
        have read := @HexDigit.upper (digit.toNat - 0x41) (by omega)
        rw [eq_ofNat_add low, Nat.add_comm] at read
        cases found
        exact read
      · cases found

theorem HexDigit.hexValue?_eq {digit : Char} {value : Nat} (read : HexDigit digit value) :
    Text.hexValue? digit = some value := by
  cases read with
  | decimal small =>
    have all : ∀ value < 10, Text.hexValue? (Char.ofNat (0x30 + value)) = some value := by
      decide
    exact all _ small
  | lower small =>
    have all : ∀ value < 6, Text.hexValue? (Char.ofNat (0x61 + value)) = some (10 + value) := by
      decide
    exact all _ small
  | upper small =>
    have all : ∀ value < 6, Text.hexValue? (Char.ofNat (0x41 + value)) = some (10 + value) := by
      decide
    exact all _ small

theorem digitValue?_eq_some_iff {digit : Char} {value : Nat} :
    Text.digitValue? 16 digit = some value ↔ HexDigit digit value := by
  rw [Text.digitValue?, Option.filter_eq_some_iff]
  constructor
  · rintro ⟨found, _⟩
    exact hexDigit_of_hexValue? found
  · intro read
    exact ⟨read.hexValue?_eq, decide_eq_true read.lt⟩

theorem numeral?_eq_some_iff {first second third fourth : Char} {code : Nat} :
    Text.numeral? 16 [first, second, third, fourth] = some code ↔
      ∃ high upper lower low, HexDigit first high ∧ HexDigit second upper ∧
        HexDigit third lower ∧ HexDigit fourth low ∧
        Text.ofDigits 16 [high, upper, lower, low] = code := by
  simp only [Text.numeral?, List.isEmpty_cons, List.mapM_cons, List.mapM_nil, Bool.false_eq_true,
    if_false, Option.map_eq_some_iff, Option.bind_eq_bind, Option.bind_eq_some_iff,
    Option.pure_def, Option.some.injEq, digitValue?_eq_some_iff]
  constructor
  · rintro ⟨_, ⟨high, isHigh, _, ⟨upper, isUpper, _, ⟨lower, isLower, _, ⟨low, isLow, _, rfl, rfl⟩,
      rfl⟩, rfl⟩, rfl⟩, rfl⟩
    exact ⟨high, upper, lower, low, isHigh, isUpper, isLower, isLow, rfl⟩
  · rintro ⟨high, upper, lower, low, isHigh, isUpper, isLower, isLow, rfl⟩
    exact ⟨_, ⟨high, isHigh, _, ⟨upper, isUpper, _, ⟨lower, isLower, _, ⟨low, isLow, _, rfl, rfl⟩,
      rfl⟩, rfl⟩, rfl⟩, rfl⟩

theorem ofDigits_four (high upper lower low : Nat) :
    Text.ofDigits 16 [high, upper, lower, low] =
      high * 0x1000 + upper * 0x100 + lower * 0x10 + low := by
  simp only [Text.ofDigits, List.foldl_cons, List.foldl_nil]
  omega

/-- Four characters of a text are taken for digits. -/
theorem exists_four_of_length (enough : (text.take 4).length = 4) :
    ∃ first second third fourth after,
      text = first :: second :: third :: fourth :: after := by
  rcases text with _ | ⟨first, _ | ⟨second, _ | ⟨third, _ | ⟨fourth, after⟩⟩⟩⟩
  · cases enough
  · cases enough
  · cases enough
  · cases enough
  · exact ⟨first, second, third, fourth, after, rfl⟩

theorem fourDigits?_eq_some_iff {code : Nat} :
    fourDigits? text = some (code, rest) ↔ CodeUnit text code rest := by
  constructor
  · intro found
    rw [fourDigits?] at found
    split at found
    · next enough =>
      obtain ⟨first, second, third, fourth, after, rfl⟩ := exists_four_of_length enough
      obtain ⟨number, written, equality⟩ := Option.map_eq_some_iff.1 found
      obtain ⟨high, upper, lower, low, isHigh, isUpper, isLower, isLow, rfl⟩ :=
        numeral?_eq_some_iff.1 written
      cases equality
      rw [ofDigits_four]
      exact CodeUnit.digits isHigh isUpper isLower isLow
    · cases found
  · intro unit
    cases unit with
    | digits isHigh isUpper isLower isLow =>
      have written := numeral?_eq_some_iff.2
        ⟨_, _, _, _, isHigh, isUpper, isLower, isLow, ofDigits_four _ _ _ _⟩
      exact congrArg (Option.map fun code => (code, rest)) written

theorem readUnit_eq_ok_iff {code : Nat} :
    readUnit text = .ok (code, rest) ↔ CodeUnit text code rest := by
  rw [← fourDigits?_eq_some_iff, readUnit]
  constructor
  · intro read
    split at read
    · next found =>
      cases read
      exact found
    · split at read <;> cases read
  · intro found
    rw [found]

/-- Four digits write no code beyond sixteen bits. -/
theorem CodeUnit.lt {code : Nat} (unit : CodeUnit text code rest) : code < 0x10000 := by
  cases unit with
  | digits isHigh isUpper isLower isLow =>
    have := isHigh.lt
    have := isUpper.lt
    have := isLower.lt
    have := isLow.lt
    omega

theorem isLeading_iff {code : Nat} : isLeading code = true ↔ 0xD800 ≤ code ∧ code < 0xDC00 := by
  simp [isLeading]

theorem isTrailing_iff {code : Nat} : isTrailing code = true ↔ 0xDC00 ≤ code ∧ code < 0xE000 := by
  simp [isTrailing]

/-- A pair of surrogates stands for a code beyond sixteen bits. -/
theorem toNat_paired {leading trailing : Nat} (isLeading : isLeading leading = true)
    (isTrailing : isTrailing trailing = true) :
    (paired leading trailing).toNat =
      0x10000 + (leading - 0xD800) * 0x400 + (trailing - 0xDC00) := by
  have leadingBounds := isLeading_iff.1 isLeading
  have trailingBounds := isTrailing_iff.1 isTrailing
  apply Text.toNat_ofNat_of_valid
  right
  constructor <;> omega

theorem spelled_of_codeUnit {code : Nat} (unit : CodeUnit text code rest)
    (noLeading : ¬isLeading code = true) (noTrailing : ¬isTrailing code = true) :
    Spelled ('\\' :: 'u' :: text) (Char.ofNat code) rest := by
  have small := unit.lt
  rw [isLeading_iff] at noLeading
  rw [isTrailing_iff] at noTrailing
  have sameCode : (Char.ofNat code).toNat = code := by
    apply Text.toNat_ofNat_of_valid
    have apart : code < 0xD800 ∨ 0xDFFF < code := by omega
    exact apart.imp_right fun above => ⟨above, by omega⟩
  apply Spelled.code
  rw [sameCode]
  exact unit

/-- Two escapes that make one pair spell one character. -/
theorem spelled_of_surrogates {middle : Text} {leading trailing : Nat}
    (leads : isLeading leading = true) (trails : isTrailing trailing = true)
    (first : CodeUnit text leading ('\\' :: 'u' :: middle))
    (second : CodeUnit middle trailing rest) :
    Spelled ('\\' :: 'u' :: text) (paired leading trailing) rest := by
  have leadingBounds := isLeading_iff.1 leads
  have trailingBounds := isTrailing_iff.1 trails
  have sameCode := toNat_paired leads trails
  have high : 0xD800 + ((paired leading trailing).toNat - 0x10000) / 0x400 = leading := by
    rw [sameCode]
    omega
  have low : 0xDC00 + ((paired leading trailing).toNat - 0x10000) % 0x400 = trailing := by
    rw [sameCode]
    omega
  have beyond : 0x10000 ≤ (paired leading trailing).toNat := by
    rw [sameCode]
    omega
  rw [← high] at first
  rw [← low] at second
  exact Spelled.surrogates beyond first second

theorem spelled_of_readCode {meant : Char} (read : readCode text = .ok (meant, rest)) :
    Spelled ('\\' :: 'u' :: text) meant rest := by
  rw [readCode] at read
  split at read
  · cases read
  · next code after first =>
    have unit := readUnit_eq_ok_iff.1 first
    split at read
    · cases read
    · next noTrailing =>
      split at read
      · next noLeading =>
        simp only [Except.ok.injEq, Prod.mk.injEq] at read
        obtain ⟨rfl, rfl⟩ := read
        exact spelled_of_codeUnit unit (by simpa using noLeading) noTrailing
      · next leads =>
        split at read
        · split at read
          · cases read
          · next trailing last inner =>
            split at read
            · next trails =>
              simp only [Except.ok.injEq, Prod.mk.injEq] at read
              obtain ⟨rfl, rfl⟩ := read
              exact spelled_of_surrogates (by simpa using leads) trails unit
                (readUnit_eq_ok_iff.1 inner)
            · cases read
        · split at read <;> cases read
        · cases read
        · cases read

theorem readCode_of_code {meant : Char} (unit : CodeUnit text meant.toNat rest) :
    readCode text = .ok (meant, rest) := by
  have bounds := Text.toNat_bounds meant
  have noTrailing : isTrailing meant.toNat = false := by
    rw [← Bool.not_eq_true, isTrailing_iff]
    omega
  have noLeading : isLeading meant.toNat = false := by
    rw [← Bool.not_eq_true, isLeading_iff]
    omega
  rw [readCode, readUnit_eq_ok_iff.2 unit]
  dsimp only
  rw [noTrailing, noLeading, Char.ofNat_toNat]
  rfl

/-- The reader puts a pair together. -/
theorem readCode_of_surrogates {meant : Char} {middle : Text} (beyond : 0x10000 ≤ meant.toNat)
    (first : CodeUnit text (0xD800 + (meant.toNat - 0x10000) / 0x400) ('\\' :: 'u' :: middle))
    (second : CodeUnit middle (0xDC00 + (meant.toNat - 0x10000) % 0x400) rest) :
    readCode text = .ok (meant, rest) := by
  have bounds := Text.toNat_bounds meant
  generalize high : 0xD800 + (meant.toNat - 0x10000) / 0x400 = leading at first
  generalize low : 0xDC00 + (meant.toNat - 0x10000) % 0x400 = trailing at second
  have noTrailing : isTrailing leading = false := by
    rw [← Bool.not_eq_true, isTrailing_iff]
    omega
  have leads : isLeading leading = true := by
    rw [isLeading_iff]
    omega
  have trails : isTrailing trailing = true := by
    rw [isTrailing_iff]
    omega
  have meant_eq : paired leading trailing = meant := by
    rw [← Char.toNat_inj, toNat_paired leads trails]
    omega
  rw [readCode, readUnit_eq_ok_iff.2 first]
  dsimp only
  rw [noTrailing, leads]
  simp only [Bool.false_eq_true, if_false, Bool.not_true]
  rw [readUnit_eq_ok_iff.2 second]
  dsimp only
  rw [if_pos trails, meant_eq]

theorem mem_of_lookup {escapes : List (Char × Char)} {letter meant : Char}
    (found : escapes.lookup letter = some meant) : (letter, meant) ∈ escapes := by
  obtain ⟨before, after, split, _⟩ := List.lookup_eq_some_iff.1 found
  rw [split]
  exact List.mem_append_right before List.mem_cons_self

theorem spelled_of_shortEscape {letter meant : Char} (member : (letter, meant) ∈ shortEscapes) :
    Spelled ('\\' :: letter :: rest) meant rest := by
  simp only [shortEscapes, List.mem_cons, Prod.mk.injEq, List.not_mem_nil, or_false] at member
  rcases member with ⟨rfl, rfl⟩ | ⟨rfl, rfl⟩ | ⟨rfl, rfl⟩ | ⟨rfl, rfl⟩ | ⟨rfl, rfl⟩ |
    ⟨rfl, rfl⟩ | ⟨rfl, rfl⟩ | ⟨rfl, rfl⟩
  · exact Spelled.quote
  · exact Spelled.backslash
  · exact Spelled.slash
  · exact Spelled.backspace
  · exact Spelled.formFeed
  · exact Spelled.lineFeed
  · exact Spelled.carriageReturn
  · exact Spelled.tab

theorem spelled_of_readEscape {meant : Char} (read : readEscape text = .ok (meant, rest)) :
    Spelled ('\\' :: text) meant rest := by
  rw [readEscape.eq_def] at read
  split at read
  · cases read
  · next head tail =>
    split at read
    · next isCode =>
      rw [isCode]
      exact spelled_of_readCode read
    · split at read
      · next meant found =>
        cases read
        exact spelled_of_shortEscape (mem_of_lookup found)
      · cases read

/-- The reader finds the character that is spelled, and no other. -/
theorem readCharacter_eq_some_iff {meant : Char} :
    readCharacter text = .ok (some meant, rest) ↔ Spelled text meant rest := by
  constructor
  · intro read
    rw [readCharacter.eq_def] at read
    split at read
    · cases read
    · cases read
    · next tail =>
      cases escape : readEscape tail with
      | error refusal =>
        rw [escape] at read
        cases read
      | ok result =>
        rw [escape] at read
        cases read
        exact spelled_of_readEscape escape
    · next head tail noQuote noBackslash =>
      split at read
      · cases read
      · next visible =>
        cases read
        exact Spelled.plain (Nat.le_of_not_lt visible) noQuote noBackslash
  · intro spelled
    cases spelled with
    | plain visible noQuote noBackslash =>
      rw [readCharacter, if_neg (Nat.not_lt.2 visible)]
      · exact noQuote
      · exact noBackslash
    | code unit =>
      rw [readCharacter, readEscape, if_pos rfl, readCode_of_code unit]
      rfl
    | surrogates beyond first second =>
      rw [readCharacter, readEscape, if_pos rfl, readCode_of_surrogates beyond first second]
      rfl
    | _ => rfl

theorem readCharacter_eq_none_iff :
    readCharacter text = .ok (none, rest) ↔ text = '"' :: rest := by
  constructor
  · intro read
    rw [readCharacter.eq_def] at read
    split at read
    · cases read
    · cases read
      rfl
    · next tail =>
      cases escape : readEscape tail with
      | error refusal =>
        rw [escape] at read
        cases read
      | ok result =>
        rw [escape] at read
        cases read
    · split at read <;> cases read
  · rintro rfl
    rfl

theorem content_of_readString {content : Text} (read : readString text = .ok (content, rest)) :
    Content text content rest := by
  fun_induction readString text generalizing content with
  | case1 => cases read
  | case2 text after last =>
    cases read
    rw [readCharacter_eq_none_iff.1 last]
    exact Content.ending
  | case3 => cases read
  | case4 text first middle character others after tail inductionHypothesis =>
    cases read
    exact Content.more (readCharacter_eq_some_iff.1 character) (inductionHypothesis tail)

theorem Content.readString_eq {content : Text} (spelled : Content text content rest) :
    readString text = .ok (content, rest) := by
  induction spelled with
  | ending =>
    rw [readString]
    rfl
  | more character _ inductionHypothesis =>
    have here := readCharacter_eq_some_iff.2 character
    rw [readString]
    split
    · next failed => cases here.symm.trans failed
    · next last => cases here.symm.trans last
    · next found =>
      cases here.symm.trans found
      rw [inductionHypothesis]

/-- The reader finds the content up to the first quote that closes it. -/
theorem readString_eq_ok_iff {content : Text} :
    readString text = .ok (content, rest) ↔ Content text content rest :=
  ⟨content_of_readString, Content.readString_eq⟩

/-- A text spells at most one string. -/
theorem Content.unique {content other left : Text} (first : Content text content rest)
    (second : Content text other left) : content = other ∧ rest = left := by
  have same := first.readString_eq.symm.trans second.readString_eq
  cases same
  exact ⟨rfl, rfl⟩

/-! ## Writing -/

theorem hexDigit_digitChar {value : Nat} (small : value < 16) :
    HexDigit (Nat.digitChar value) value := by
  by_cases below : value < 10
  · have same : ∀ value < 10, Char.ofNat (0x30 + value) = Nat.digitChar value := by
      decide
    rw [← same value below]
    exact HexDigit.decimal below
  · have same : ∀ value < 6, Char.ofNat (0x61 + value) = Nat.digitChar (10 + value) := by
      decide
    obtain ⟨above, rfl⟩ := Nat.exists_eq_add_of_le (Nat.le_of_not_lt below)
    rw [← same above (by omega)]
    exact HexDigit.lower (by omega)

theorem codeUnit_twoDigits {code : Nat} (small : code < 0x100) (rest : Text) :
    CodeUnit ('0' :: '0' :: (twoDigits code ++ rest)) code rest := by
  have zero : HexDigit '0' 0 := @hexDigit_digitChar 0 (by decide)
  have upper : HexDigit (Nat.digitChar (code / 16)) (code / 16) := hexDigit_digitChar (by omega)
  have lower : HexDigit (Nat.digitChar (code % 16)) (code % 16) := hexDigit_digitChar (by omega)
  have written := @CodeUnit.digits _ _ _ _ _ _ _ _ rest zero zero upper lower
  have value_eq : 0 * 0x1000 + 0 * 0x100 + code / 16 * 0x10 + code % 16 = code := by
    omega
  rw [value_eq] at written
  exact written

/-- Whatever a character needs, its written form spells it. -/
theorem spelled_escaped (meant : Char) (rest : Text) :
    Spelled (escaped meant ++ rest) meant rest := by
  rw [escaped.eq_def]
  split
  · next same => exact same ▸ Spelled.quote
  rename_i noQuote
  split
  · next same => exact same ▸ Spelled.backslash
  rename_i noBackslash
  split
  · next same => exact same ▸ Spelled.backspace
  split
  · next same => exact same ▸ Spelled.formFeed
  split
  · next same => exact same ▸ Spelled.lineFeed
  split
  · next same => exact same ▸ Spelled.carriageReturn
  split
  · next same => exact same ▸ Spelled.tab
  split
  · next control => exact Spelled.code (codeUnit_twoDigits (by omega) rest)
  · next visible => exact Spelled.plain (Nat.le_of_not_lt visible) noQuote noBackslash

theorem content_escaped (content rest : Text) :
    Content (content.flatMap escaped ++ '"' :: rest) content rest := by
  induction content with
  | nil => exact Content.ending
  | cons first others inductionHypothesis =>
    rw [List.flatMap_cons, List.append_assoc]
    exact Content.more (spelled_escaped first _) inductionHypothesis

theorem quoted_append (content rest : Text) :
    quoted content ++ rest = '"' :: (content.flatMap escaped ++ '"' :: rest) := by
  rw [quoted, List.append_assoc, List.append_assoc]
  rfl

end SourceCatalog.Json
