import Mathlib.Data.List.Induction
import SourceCatalog.Proofs.Json.Strings
import SourceCatalog.Proofs.Text.Codes
import SourceCatalog.Proofs.Toml.Blanks
import SourceCatalog.Toml.StringReader

/-!
# TOML strings by the grammar

A reader of strings accepts exactly the strings of the grammar, and finds what they spell. Main
statement: this holds of strings of every kind, and so a text spells at most one string.
-/

namespace SourceCatalog.Toml

open Json (HexDigit digitValue?_eq_some_iff mem_of_lookup)

variable {text rest content : Text} {piece : Piece}

theorem Code.exists_values {digits : Text} {code : Nat} (written : Code digits code) :
    ∃ values, digits.mapM (Text.digitValue? 16) = some values ∧
      Text.ofDigits 16 values = code := by
  induction written with
  | none => exact ⟨[], rfl, rfl⟩
  | @more digits number value digit _ isDigit inductionHypothesis =>
    obtain ⟨values, read, rfl⟩ := inductionHypothesis
    refine ⟨values ++ [value], ?_, ?_⟩
    · rw [List.mapM_append, read, List.mapM_cons, digitValue?_eq_some_iff.2 isDigit]
      rfl
    · rw [Text.ofDigits, List.foldl_append]
      rfl

theorem code_of_values {digits : Text} {values : List Nat}
    (read : digits.mapM (Text.digitValue? 16) = some values) :
    Code digits (Text.ofDigits 16 values) := by
  induction digits using List.reverseRecOn generalizing values with
  | nil =>
    cases read
    exact .none
  | append_singleton digits digit inductionHypothesis =>
    rw [List.mapM_append] at read
    obtain ⟨front, readFront, read⟩ := Option.bind_eq_some_iff.1 read
    obtain ⟨last, readLast, together⟩ := Option.bind_eq_some_iff.1 read
    obtain ⟨value, isDigit, single⟩ := Option.bind_eq_some_iff.1 readLast
    cases together
    cases single
    rw [Text.ofDigits, List.foldl_append]
    exact .more (inductionHypothesis readFront) (digitValue?_eq_some_iff.1 isDigit)

theorem numeral?_eq_some_iff {digits : Text} {code : Nat} :
    Text.numeral? 16 digits = some code ↔ digits ≠ [] ∧ Code digits code := by
  rw [Text.numeral?]
  by_cases nothing : digits = []
  · simp [nothing]
  · rw [if_neg (mt List.isEmpty_iff.1 nothing), Option.map_eq_some_iff]
    constructor
    · rintro ⟨values, read, rfl⟩
      exact ⟨nothing, code_of_values read⟩
    · rintro ⟨_, written⟩
      exact written.exists_values

/-- So many digits are read, and their number must be that of a character. -/
theorem readCode_eq_some_iff {count : Nat} (filled : count ≠ 0) :
    readCode count text = some (piece, rest) ↔
      ∃ digits meant, digits.length = count ∧ Code digits meant.toNat ∧ text = digits ++ rest ∧
        piece = .inner [meant] := by
  constructor
  · intro read
    rw [readCode.eq_def] at read
    split at read
    · next code isNumeral =>
      split at read
      · next fits =>
        obtain ⟨_, written⟩ := numeral?_eq_some_iff.1 isNumeral
        cases read
        refine ⟨text.take count, Char.ofNat code, List.length_take_of_le fits.1, ?_,
          (List.take_append_drop count text).symm, rfl⟩
        rwa [Text.toNat_ofNat_of_valid fits.2]
      · cases read
    · cases read
  · rintro ⟨digits, meant, rfl, written, rfl, rfl⟩
    have notEmpty : digits ≠ [] := fun none => filled (by rw [none, List.length_nil])
    have fits : digits.length ≤ (digits ++ rest).length ∧ meant.toNat.isValidChar :=
      ⟨by rw [List.length_append]; exact Nat.le_add_right _ _, meant.valid⟩
    rw [readCode, List.take_left, numeral?_eq_some_iff.2 ⟨notEmpty, written⟩]
    dsimp only
    rw [if_pos fits, List.drop_left, Char.ofNat_toNat]

theorem escape_of_shortEscape {letter meant : Char} (member : (letter, meant) ∈ shortEscapes) :
    Escape (letter :: rest) meant rest := by
  simp only [shortEscapes, List.mem_cons, Prod.mk.injEq, List.not_mem_nil, or_false] at member
  rcases member with ⟨rfl, rfl⟩ | ⟨rfl, rfl⟩ | ⟨rfl, rfl⟩ | ⟨rfl, rfl⟩ | ⟨rfl, rfl⟩ |
    ⟨rfl, rfl⟩ | ⟨rfl, rfl⟩
  · exact .backspace
  · exact .tab
  · exact .lineFeed
  · exact .formFeed
  · exact .carriageReturn
  · exact .quote
  · exact .backslash

theorem readEscape_eq_some_iff :
    readEscape text = some (piece, rest) ↔
      ∃ meant, Escape text meant rest ∧ piece = .inner [meant] := by
  constructor
  · intro read
    rw [readEscape.eq_def] at read
    split at read
    · cases read
    · next head tail =>
      split at read
      · next short =>
        obtain ⟨digits, meant, four, written, rfl, rfl⟩ :=
          (readCode_eq_some_iff (by decide)).1 read
        rw [short]
        exact ⟨meant, .short four written, rfl⟩
      · split at read
        · next long =>
          obtain ⟨digits, meant, eight, written, rfl, rfl⟩ :=
            (readCode_eq_some_iff (by decide)).1 read
          rw [long]
          exact ⟨meant, .long eight written, rfl⟩
        · obtain ⟨meant, found, same⟩ := Option.map_eq_some_iff.1 read
          cases same
          exact ⟨meant, escape_of_shortEscape (mem_of_lookup found), rfl⟩
  · rintro ⟨meant, escape, rfl⟩
    cases escape with
    | short four written =>
      exact (readCode_eq_some_iff (by decide)).2 ⟨_, meant, four, written, rfl, rfl⟩
    | long eight written =>
      exact (readCode_eq_some_iff (by decide)).2 ⟨_, meant, eight, written, rfl, rfl⟩
    | _ => rfl

/-- A reader of pieces finds the parts of a string, and what closes it. -/
structure Reads (readPiece : Text → Read Piece) (part closing : Text → Text → Text → Prop) :
    Prop where
  nothing : readPiece [] = none
  inner {text content rest : Text} :
    readPiece text = some (.inner content, rest) ↔ part text content rest
  last {text content rest : Text} :
    readPiece text = some (.last content, rest) ↔ closing text content rest

/-- To read is to find parts and what closes them, and all of these. -/
theorem Reads.of_cases {readPiece : Text → Read Piece} {part closing : Text → Text → Text → Prop}
    (nothing : readPiece [] = none)
    (found : ∀ {text rest : Text} {piece : Piece}, readPiece text = some (piece, rest) →
      (∃ content, part text content rest ∧ piece = .inner content) ∨
        ∃ content, closing text content rest ∧ piece = .last content)
    (parts : ∀ {text content rest : Text}, part text content rest →
      readPiece text = some (.inner content, rest))
    (closings : ∀ {text content rest : Text}, closing text content rest →
      readPiece text = some (.last content, rest)) :
    Reads readPiece part closing where
  nothing := nothing
  inner := by
    refine ⟨fun read => ?_, parts⟩
    rcases found read with ⟨content, part, same⟩ | ⟨content, _, same⟩
    · cases same
      exact part
    · cases same
  last := by
    refine ⟨fun read => ?_, closings⟩
    rcases found read with ⟨content, _, same⟩ | ⟨content, closing, same⟩
    · cases same
    · cases same
      exact closing

/-- A reader of strings on one line goes by the first character. -/
structure LineReader (readPiece : Text → Read Piece) (quote : Char) (escapes : Bool) : Prop where
  nothing : readPiece [] = none
  closes : ∀ tail, readPiece (quote :: tail) = some (.last [], tail)
  escaped : escapes = true → ∀ tail, readPiece ('\\' :: tail) = readEscape tail
  plain : ∀ head tail, head ≠ quote → (escapes = true → head ≠ '\\') →
    readPiece (head :: tail) = if isPlain head then some (.inner [head], tail) else none

namespace LineReader

variable {readPiece : Text → Read Piece} {quote : Char} {escapes : Bool}

theorem found (reader : LineReader readPiece quote escapes)
    (read : readPiece text = some (piece, rest)) :
    (∃ content, LinePart quote escapes text content rest ∧ piece = .inner content) ∨
      ∃ content, LineEnd quote text content rest ∧ piece = .last content := by
  cases text with
  | nil => cases reader.nothing.symm.trans read
  | cons head tail =>
    by_cases isQuote : head = quote
    · subst isQuote
      rw [reader.closes] at read
      cases read
      exact .inr ⟨[], .closing, rfl⟩
    · by_cases isEscape : escapes = true ∧ head = '\\'
      · obtain ⟨known, rfl⟩ := isEscape
        rw [reader.escaped known] at read
        obtain ⟨meant, escape, rfl⟩ := readEscape_eq_some_iff.1 read
        exact .inl ⟨[meant], .escape known escape, rfl⟩
      · have noEscape : escapes = true → head ≠ '\\' := fun known same => isEscape ⟨known, same⟩
        rw [reader.plain head tail isQuote noEscape] at read
        split at read
        · next visible =>
          cases read
          exact .inl ⟨[head], .plain (isPlain_iff.1 visible) isQuote noEscape, rfl⟩
        · cases read

theorem read_part (reader : LineReader readPiece quote escapes)
    (part : LinePart quote escapes text content rest) :
    readPiece text = some (.inner content, rest) := by
  cases part with
  | plain visible noQuote noEscape =>
    rw [reader.plain _ _ noQuote noEscape, if_pos (isPlain_iff.2 visible)]
  | escape known escape =>
    rw [reader.escaped known]
    exact readEscape_eq_some_iff.2 ⟨_, escape, rfl⟩

theorem reads (reader : LineReader readPiece quote escapes) :
    Reads readPiece (LinePart quote escapes) (LineEnd quote) :=
  .of_cases reader.nothing reader.found reader.read_part fun closing => by
    cases closing
    exact reader.closes _

end LineReader

theorem reads_basicPiece : Reads readBasicPiece (LinePart '"' true) (LineEnd '"') := by
  refine LineReader.reads ⟨rfl, fun _ => rfl, fun _ _ => rfl, fun head tail noQuote noEscape => ?_⟩
  rw [readBasicPiece]
  · exact noQuote
  · exact noEscape rfl

theorem reads_literalPiece : Reads readLiteralPiece (LinePart '\'' false) (LineEnd '\'') := by
  refine LineReader.reads ⟨rfl, fun _ => rfl, nofun, fun head tail noQuote _ => ?_⟩
  rw [readLiteralPiece]
  exact noQuote

section Quotes

variable {quote : Char} {after : Text}

/-- A text begins with a run of quotes, which ends where another character comes. -/
theorem exists_run (quote : Char) (text : Text) :
    ∃ count after, text = List.replicate count quote ++ after ∧ after.head? ≠ some quote := by
  induction text with
  | nil => exact ⟨0, [], rfl, nofun⟩
  | cons head tail inductionHypothesis =>
    by_cases same : head = quote
    · obtain ⟨count, after, rfl, apart⟩ := inductionHypothesis
      exact ⟨count + 1, after, by rw [same, List.replicate_succ, List.cons_append], apart⟩
    · exact ⟨0, head :: tail, rfl, fun found => same (Option.some.inj found)⟩

theorem takeWhile_run (apart : after.head? ≠ some quote) (count : Nat) :
    (List.replicate count quote ++ after).takeWhile (· == quote) = List.replicate count quote := by
  have stops : after.takeWhile (· == quote) = [] := by
    cases after with
    | nil => rfl
    | cons head tail =>
      exact List.takeWhile_cons_of_neg fun found => apart (congrArg some (eq_of_beq found))
  rw [List.takeWhile_append_of_pos, stops, List.append_nil]
  intro head member
  exact beq_iff_eq.2 (List.eq_of_mem_replicate member)

/-- A run of one or two quotes belongs to the string. -/
theorem readQuotes_few {count : Nat} (apart : after.head? ≠ some quote) (few : count < 3) :
    readQuotes quote (List.replicate count quote ++ after) =
      some (.inner (List.replicate count quote), after) := by
  have run : ((List.replicate count quote ++ after).takeWhile (· == quote)).length = count := by
    rw [takeWhile_run apart, List.length_replicate]
  rw [readQuotes, run, if_pos few, List.take_left' List.length_replicate,
    List.drop_left' List.length_replicate]

/-- From three quotes on the string is closed, and two of them may still belong to it. -/
theorem readQuotes_many {count more : Nat} (apart : after.head? ≠ some quote) (few : count ≤ 2)
    (all : count = 2 ∨ more = 0) :
    readQuotes quote (List.replicate (count + 3) quote ++ (List.replicate more quote ++ after)) =
      some (.last (List.replicate count quote), List.replicate more quote ++ after) := by
  have together : List.replicate (count + 3) quote ++ (List.replicate more quote ++ after) =
      List.replicate (count + 3 + more) quote ++ after := by
    rw [← List.append_assoc, List.replicate_append_replicate]
  have run : ((List.replicate (count + 3) quote ++
      (List.replicate more quote ++ after)).takeWhile (· == quote)).length = count + 3 + more := by
    rw [together, takeWhile_run apart, List.length_replicate]
  have kept : min (count + 3 + more - 3) 2 = count := by omega
  have passed : min (count + 3 + more) 5 = count + 3 := by omega
  have front : List.replicate (count + 3) quote = List.replicate count quote ++
      List.replicate 3 quote := List.replicate_append_replicate.symm
  rw [readQuotes, run, if_neg (by omega), kept, passed, List.drop_left' List.length_replicate,
    front, List.append_assoc, List.take_left' List.length_replicate]

/-- One or two quotes belong to the string, more of them close it. -/
theorem readQuotes_cases {tail : Text} (read : readQuotes quote (quote :: tail) = some (piece, rest)) :
    (∃ count, (count = 1 ∨ count = 2) ∧ rest.head? ≠ some quote ∧
        quote :: tail = List.replicate count quote ++ rest ∧
        piece = .inner (List.replicate count quote)) ∨
      ∃ count, count ≤ 2 ∧ (count = 2 ∨ rest.head? ≠ some quote) ∧
        quote :: tail = List.replicate (count + 3) quote ++ rest ∧
        piece = .last (List.replicate count quote) := by
  obtain ⟨count, after, whole, apart⟩ := exists_run quote (quote :: tail)
  have filled : count ≠ 0 := by
    rintro rfl
    rw [List.replicate_zero, List.nil_append] at whole
    exact apart (congrArg List.head? whole.symm)
  rw [whole] at read
  by_cases few : count < 3
  · rw [readQuotes_few apart few] at read
    cases read
    exact .inl ⟨count, by omega, apart, whole, rfl⟩
  · obtain ⟨kept, more, rfl, atMost, all⟩ :
        ∃ kept more, count = kept + 3 + more ∧ kept ≤ 2 ∧ (kept = 2 ∨ more = 0) :=
      ⟨min (count - 3) 2, count - 3 - min (count - 3) 2, by omega, by omega, by omega⟩
    rw [← List.replicate_append_replicate, List.append_assoc] at read whole
    rw [readQuotes_many apart atMost all] at read
    cases read
    refine .inr ⟨kept, atMost, all.imp_right fun none => ?_, whole, rfl⟩
    rw [none, List.replicate_zero, List.nil_append]
    exact apart

end Quotes

theorem readLinePiece_eq_some_iff :
    readLinePiece text = some (piece, rest) ↔
      (Break text rest ∧ piece = .inner ['\n']) ∨
        ∃ head, Visible head ∧ text = head :: rest ∧ piece = .inner [head] := by
  constructor
  · intro read
    rw [readLinePiece.eq_def] at read
    split at read
    · next breaks =>
      cases read
      exact .inl ⟨newline?_eq_some_iff.1 breaks, rfl⟩
    · split at read
      · cases read
      · next head tail =>
        split at read
        · next visible =>
          cases read
          exact .inr ⟨_, isPlain_iff.1 visible, rfl, rfl⟩
        · cases read
  · rintro (⟨breaks, rfl⟩ | ⟨head, visible, rfl, rfl⟩)
    · rw [readLinePiece.eq_def, newline?_eq_some_iff.2 breaks]
    · have isOpen : newline? (head :: rest) = none := by
        rw [newline?_eq_none_iff]
        rintro behind ⟨⟩
        · rcases visible with same | ⟨above, _⟩
          · cases same
          · exact absurd above (by decide)
        · rcases visible with same | ⟨above, _⟩
          · cases same
          · exact absurd above (by decide)
      rw [readLinePiece.eq_def, isOpen]
      dsimp only
      rw [if_pos (isPlain_iff.2 visible)]

theorem readLineEscape_eq_some_iff :
    readLineEscape text = some (piece, rest) ↔
      (∃ before behind, Gaps text before ∧ Break before behind ∧ Blanks behind rest ∧ Solid rest ∧
          piece = .inner []) ∨
        ∃ meant, Escape text meant rest ∧ piece = .inner [meant] := by
  constructor
  · intro read
    rw [readLineEscape] at read
    split at read
    · next behind breaks =>
      obtain ⟨before, gaps, breaks⟩ := blankLine?_eq_some_iff.1 breaks
      cases read
      obtain ⟨blanks, solid⟩ := skipBlankLines_eq_iff.1 rfl
      exact .inl ⟨before, behind, gaps, breaks, blanks, solid, rfl⟩
    · exact .inr (readEscape_eq_some_iff.1 read)
  · rintro (⟨before, behind, gaps, breaks, blanks, solid, rfl⟩ | ⟨meant, escape, rfl⟩)
    · have found : newline? (skipGap text) = some behind :=
        blankLine?_eq_some_iff.2 ⟨before, gaps, breaks⟩
      rw [readLineEscape, found]
      dsimp only
      rw [skipBlankLines_eq_iff.2 ⟨blanks, solid⟩]
    · have isOpen : newline? (skipGap text) = none := by
        cases escape <;> rfl
      rw [readLineEscape, isOpen]
      exact readEscape_eq_some_iff.2 ⟨meant, escape, rfl⟩

/-- A reader of strings on several lines goes by the first character. -/
structure LinesReader (readPiece : Text → Read Piece) (quote : Char) (escapes : Bool) : Prop where
  quotes : ∀ tail, readPiece (quote :: tail) = readQuotes quote (quote :: tail)
  escaped : escapes = true → ∀ tail, readPiece ('\\' :: tail) = readLineEscape tail
  other : ∀ text, text.head? ≠ some quote → (escapes = true → text.head? ≠ some '\\') →
    readPiece text = readLinePiece text

namespace LinesReader

variable {readPiece : Text → Read Piece} {quote : Char} {escapes : Bool}

theorem found (reader : LinesReader readPiece quote escapes)
    (read : readPiece text = some (piece, rest)) :
    (∃ content, LinesPart quote escapes text content rest ∧ piece = .inner content) ∨
      ∃ content, LinesEnd quote text content rest ∧ piece = .last content := by
  by_cases isQuote : text.head? = some quote
  · obtain ⟨tail, rfl⟩ := List.head?_eq_some_iff.1 isQuote
    rw [reader.quotes] at read
    rcases readQuotes_cases read with ⟨count, few, apart, whole, rfl⟩ | ⟨count, few, all, whole, rfl⟩
    · rw [whole]
      exact .inl ⟨_, .quotes few apart, rfl⟩
    · rw [whole]
      exact .inr ⟨_, .closing few all, rfl⟩
  · by_cases isEscape : escapes = true ∧ text.head? = some '\\'
    · obtain ⟨known, isEscape⟩ := isEscape
      obtain ⟨tail, rfl⟩ := List.head?_eq_some_iff.1 isEscape
      rw [reader.escaped known] at read
      rcases readLineEscape_eq_some_iff.1 read with
        ⟨before, behind, gaps, breaks, blanks, solid, rfl⟩ | ⟨meant, escape, rfl⟩
      · exact .inl ⟨[], .joined known solid gaps breaks blanks, rfl⟩
      · exact .inl ⟨[meant], .part (.escape known escape), rfl⟩
    · have noEscape : escapes = true → text.head? ≠ some '\\' := fun known same =>
        isEscape ⟨known, same⟩
      rw [reader.other text isQuote noEscape] at read
      rcases readLinePiece_eq_some_iff.1 read with ⟨breaks, rfl⟩ | ⟨head, visible, rfl, rfl⟩
      · exact .inl ⟨['\n'], .newline breaks, rfl⟩
      · have noQuote : head ≠ quote := fun same => isQuote (congrArg some same)
        have noBackslash : escapes = true → head ≠ '\\' := fun known same =>
          noEscape known (congrArg some same)
        exact .inl ⟨[head], .part (.plain visible noQuote noBackslash), rfl⟩

theorem read_quotes (reader : LinesReader readPiece quote escapes) {count : Nat}
    (filled : 0 < count) (rest : Text) :
    readPiece (List.replicate count quote ++ rest) =
      readQuotes quote (List.replicate count quote ++ rest) := by
  obtain ⟨fewer, rfl⟩ := Nat.exists_eq_succ_of_ne_zero (Nat.ne_of_gt filled)
  exact reader.quotes _

theorem read_linePart (reader : LinesReader readPiece quote escapes)
    (part : LinePart quote escapes text content rest) :
    readPiece text = some (.inner content, rest) := by
  cases part with
  | plain visible noQuote noEscape =>
    have apart : (_ :: rest).head? ≠ some quote := fun same => noQuote (Option.some.inj same)
    rw [reader.other _ apart fun known same => noEscape known (Option.some.inj same)]
    exact readLinePiece_eq_some_iff.2 (.inr ⟨_, visible, rfl, rfl⟩)
  | escape known escape =>
    rw [reader.escaped known]
    exact readLineEscape_eq_some_iff.2 (.inr ⟨_, escape, rfl⟩)

theorem read_part (reader : LinesReader readPiece quote escapes) (kind : Quote quote escapes)
    (part : LinesPart quote escapes text content rest) :
    readPiece text = some (.inner content, rest) := by
  cases part with
  | part part => exact reader.read_linePart part
  | newline breaks =>
    have noQuote : text.head? ≠ some quote := by
      cases breaks <;> cases kind <;> simp
    have noEscape : escapes = true → text.head? ≠ some '\\' := by
      intro _
      cases breaks <;> simp
    rw [reader.other text noQuote noEscape]
    exact readLinePiece_eq_some_iff.2 (.inl ⟨breaks, rfl⟩)
  | quotes few apart =>
    rw [reader.read_quotes (by omega)]
    exact readQuotes_few apart (by omega)
  | joined known solid gaps breaks blanks =>
    rw [reader.escaped known]
    exact readLineEscape_eq_some_iff.2 (.inl ⟨_, _, gaps, breaks, blanks, solid, rfl⟩)

theorem read_end (reader : LinesReader readPiece quote escapes)
    (closing : LinesEnd quote text content rest) : readPiece text = some (.last content, rest) := by
  obtain ⟨few, all⟩ := closing
  rw [reader.read_quotes (by omega)]
  obtain ⟨more, after, rfl, apart⟩ := exists_run quote rest
  refine readQuotes_many apart few (all.imp_right fun isApart => ?_)
  cases more with
  | zero => rfl
  | succ more => exact absurd rfl isApart

theorem reads (reader : LinesReader readPiece quote escapes) (kind : Quote quote escapes) :
    Reads readPiece (LinesPart quote escapes) (LinesEnd quote) :=
  .of_cases (reader.other [] nofun fun _ => nofun) reader.found (reader.read_part kind)
    reader.read_end

end LinesReader

theorem reads_basicLines : Reads readBasicLines (LinesPart '"' true) (LinesEnd '"') := by
  refine LinesReader.reads ⟨fun _ => rfl, fun _ _ => rfl, fun text noQuote noEscape => ?_⟩ .basic
  rw [readBasicLines]
  · rintro tail rfl
    exact noQuote rfl
  · rintro tail rfl
    exact noEscape rfl rfl

theorem reads_literalLines : Reads readLiteralLines (LinesPart '\'' false) (LinesEnd '\'') := by
  refine LinesReader.reads ⟨fun _ => rfl, nofun, fun text noQuote _ => ?_⟩ .literal
  rw [readLiteralLines]
  rintro tail rfl
  exact noQuote rfl

/-! ## Whole strings -/

theorem Escape.length_lt {meant : Char} (escape : Escape text meant rest) :
    rest.length < text.length := by
  cases escape <;> simp only [List.length_cons, List.length_append] <;> omega

theorem LinePart.length_lt {quote : Char} {escapes : Bool}
    (part : LinePart quote escapes text content rest) : rest.length < text.length := by
  cases part with
  | plain => exact Nat.lt_succ_self _
  | escape _ escape => exact Nat.lt_succ_of_lt escape.length_lt

theorem LinesPart.length_lt {quote : Char} {escapes : Bool}
    (part : LinesPart quote escapes text content rest) : rest.length < text.length := by
  cases part with
  | part part => exact part.length_lt
  | newline breaks => exact breaks.length_lt
  | quotes few _ =>
    rw [List.length_append, List.length_replicate]
    omega
  | joined _ _ gaps breaks blanks =>
    have := gaps.suffix.length_le
    have := breaks.length_lt
    have := blanks.suffix.length_le
    rw [List.length_cons]
    omega

namespace Reads

variable {readPiece : Text → Read Piece} {part closing : Text → Text → Text → Prop}

theorem spelled_of_readPieces (reads : Reads readPiece part closing) {pieces : Nat}
    (read : readPieces readPiece pieces text = some (content, rest)) :
    Spelled part closing text content rest := by
  induction pieces generalizing text content with
  | zero => cases read
  | succ pieces inductionHypothesis =>
    rw [readPieces] at read
    split at read
    · cases read
    · next last =>
      cases read
      exact .last (reads.last.1 last)
    · next inner =>
      obtain ⟨⟨others, after⟩, behind, same⟩ := Option.map_eq_some_iff.1 read
      cases same
      exact .more (reads.inner.1 inner) (inductionHypothesis behind)

theorem exists_succ (reads : Reads readPiece part closing) {pieces : Nat}
    (read : readPiece text = some (piece, rest)) (enough : text.length ≤ pieces) :
    ∃ fewer, pieces = fewer + 1 := by
  cases text with
  | nil => cases reads.nothing.symm.trans read
  | cons head tail => exact Nat.exists_eq_add_one_of_ne_zero (by rintro rfl; cases enough)

/-- Parts take a character each, so no more of them are read than there are characters. -/
theorem readPieces_eq (reads : Reads readPiece part closing)
    (shorter : ∀ {text content rest : Text}, part text content rest → rest.length < text.length)
    (spelled : Spelled part closing text content rest) {pieces : Nat}
    (enough : text.length ≤ pieces) :
    readPieces readPiece pieces text = some (content, rest) := by
  induction spelled generalizing pieces with
  | last closing =>
    have read := reads.last.2 closing
    obtain ⟨fewer, rfl⟩ := reads.exists_succ read enough
    rw [readPieces, read]
  | more part _ inductionHypothesis =>
    have read := reads.inner.2 part
    obtain ⟨fewer, rfl⟩ := reads.exists_succ read enough
    have := shorter part
    rw [readPieces, read]
    dsimp only
    rw [inductionHypothesis (by omega)]
    rfl

theorem readAll_eq_some_iff (reads : Reads readPiece part closing)
    (shorter : ∀ {text content rest : Text}, part text content rest → rest.length < text.length) :
    readAll readPiece text = some (content, rest) ↔ Spelled part closing text content rest :=
  ⟨reads.spelled_of_readPieces, fun spelled => reads.readPieces_eq shorter spelled (Nat.le_refl _)⟩

end Reads

/-- The reader finds what a string on one line spells, and nothing else. -/
theorem readLineString_eq_some_iff :
    readLineString text = some (content, rest) ↔ IsLineString text content rest := by
  constructor
  · intro read
    rw [readLineString.eq_def] at read
    split at read
    · exact .quoted .basic ((reads_basicPiece.readAll_eq_some_iff LinePart.length_lt).1 read)
    · exact .quoted .literal ((reads_literalPiece.readAll_eq_some_iff LinePart.length_lt).1 read)
    · cases read
  · rintro ⟨kind, spelled⟩
    cases kind with
    | basic => exact (reads_basicPiece.readAll_eq_some_iff LinePart.length_lt).2 spelled
    | literal => exact (reads_literalPiece.readAll_eq_some_iff LinePart.length_lt).2 spelled

theorem opened_iff {body : Text} : Opened text body ↔ skipNewline text = body := by
  constructor
  · intro opened
    cases opened with
    | newline breaks => rw [skipNewline, newline?_eq_some_iff.2 breaks, Option.getD_some]
    | same isOpen => rw [skipNewline, newline?_eq_none_iff.2 isOpen, Option.getD_none]
  · rintro rfl
    rw [skipNewline]
    cases found : newline? text with
    | none => exact .same (newline?_eq_none_iff.1 found)
    | some rest => exact .newline (newline?_eq_some_iff.1 found)

theorem readString_of_single (single : ∀ quote, ¬ [quote, quote, quote] <+: text) :
    readString text = readLineString text := by
  rw [readString.eq_def]
  split
  · next tail => exact absurd ⟨tail, rfl⟩ (single '"')
  · next tail => exact absurd ⟨tail, rfl⟩ (single '\'')
  · rfl

/-- The reader finds what a string of the grammar spells, and nothing else. -/
theorem readString_eq_some_iff :
    readString text = some (content, rest) ↔ IsString text content rest := by
  constructor
  · intro read
    rw [readString.eq_def] at read
    split at read
    · exact .lines .basic (opened_iff.2 rfl)
        ((reads_basicLines.readAll_eq_some_iff LinesPart.length_lt).1 read)
    · exact .lines .literal (opened_iff.2 rfl)
        ((reads_literalLines.readAll_eq_some_iff LinesPart.length_lt).1 read)
    · next noBasic noLiteral =>
      have isString := readLineString_eq_some_iff.1 read
      refine .line ?_ isString
      rintro quote ⟨tail, rfl⟩
      obtain ⟨kind, _⟩ := isString
      cases kind with
      | basic => exact noBasic tail rfl
      | literal => exact noLiteral tail rfl
  · intro isString
    cases isString with
    | line single isString =>
      rw [readString_of_single single]
      exact readLineString_eq_some_iff.2 isString
    | lines kind opened spelled =>
      rw [← opened_iff.1 opened] at spelled
      cases kind with
      | basic => exact (reads_basicLines.readAll_eq_some_iff LinesPart.length_lt).2 spelled
      | literal => exact (reads_literalLines.readAll_eq_some_iff LinesPart.length_lt).2 spelled

/-- A text spells at most one string. -/
theorem IsString.unique {other left : Text} (first : IsString text content rest)
    (second : IsString text other left) : content = other ∧ rest = left := by
  have same := (readString_eq_some_iff.2 first).symm.trans (readString_eq_some_iff.2 second)
  cases same
  exact ⟨rfl, rfl⟩

end SourceCatalog.Toml
