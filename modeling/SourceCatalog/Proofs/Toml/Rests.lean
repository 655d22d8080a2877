import SourceCatalog.Proofs.Toml.Strings
import SourceCatalog.Toml.Statement

/-!
# What the readers of TOML leave

A reader leaves an end of the text that it is given. So a number of characters left is a place in
the document, and the readers behind go on from there.
-/

namespace SourceCatalog.Toml

variable {text rest : Text}

/-- Whatever the reader finds, it leaves an end of the text. -/
def Leaves {α : Type} (read : Text → Read α) : Prop :=
  ∀ ⦃text value rest⦄, read text = some (value, rest) → rest <:+ text

theorem Escape.suffix {meant : Char} (escape : Escape text meant rest) : rest <:+ text := by
  cases escape with
  | short _ _ => exact (List.suffix_append _ rest).trans (List.suffix_cons _ _)
  | long _ _ => exact (List.suffix_append _ rest).trans (List.suffix_cons _ _)
  | _ => exact List.suffix_cons _ rest

section Parts

variable {quote : Char} {escapes : Bool} {content : Text}

theorem LinePart.suffix (part : LinePart quote escapes text content rest) : rest <:+ text := by
  cases part with
  | plain => exact List.suffix_cons _ rest
  | escape _ escape => exact escape.suffix.trans (List.suffix_cons _ _)

theorem LinesPart.suffix (part : LinesPart quote escapes text content rest) : rest <:+ text := by
  cases part with
  | part part => exact part.suffix
  | newline breaks => exact breaks.suffix
  | quotes _ _ => exact List.suffix_append _ rest
  | joined _ _ gaps breaks blanks =>
    exact blanks.suffix.trans (breaks.suffix.trans (gaps.suffix.trans (List.suffix_cons _ _)))

theorem Spelled.suffix {part closing : Text → Text → Text → Prop}
    (parts : ∀ {text content rest : Text}, part text content rest → rest <:+ text)
    (closings : ∀ {text content rest : Text}, closing text content rest → rest <:+ text)
    (spelled : Spelled part closing text content rest) : rest <:+ text := by
  induction spelled with
  | last closing => exact closings closing
  | more part _ inductionHypothesis => exact inductionHypothesis.trans (parts part)

theorem IsLineString.suffix (isString : IsLineString text content rest) : rest <:+ text := by
  obtain ⟨_, spelled⟩ := isString
  have inside := spelled.suffix LinePart.suffix fun closing => by
    cases closing
    exact List.suffix_cons _ _
  exact inside.trans (List.suffix_cons _ _)

theorem Opened.suffix {body : Text} (opened : Opened text body) : body <:+ text := by
  cases opened with
  | newline breaks => exact breaks.suffix
  | same => exact List.suffix_refl _

theorem IsString.suffix (isString : IsString text content rest) : rest <:+ text := by
  cases isString with
  | line _ isString => exact isString.suffix
  | lines _ opened spelled =>
    have inside := spelled.suffix LinesPart.suffix fun closing => by
      cases closing
      exact List.suffix_append _ _
    exact (inside.trans opened.suffix).trans (List.suffix_append [_, _, _] _)

theorem IsName.suffix {name : Text} (isName : IsName text name rest) : rest <:+ text := by
  cases isName with
  | bare _ _ _ => exact List.suffix_append _ rest
  | quoted isString => exact isString.suffix

end Parts

theorem skipGap_suffix (text : Text) : skipGap text <:+ text :=
  List.dropWhile_suffix isGap

theorem skipComment_suffix (text : Text) : skipComment text <:+ text := by
  rw [skipComment.eq_def]
  split
  · exact (List.dropWhile_suffix isPlain).trans (List.suffix_cons _ _)
  · exact List.suffix_refl _

theorem suffix_of_finishLine? (finishes : finishLine? text = some rest) : rest <:+ text := by
  rw [finishLine?] at finishes
  split at finishes
  · cases finishes
    exact List.nil_suffix
  · have breaks := newline?_eq_some_iff.1 finishes
    exact breaks.suffix.trans ((skipComment_suffix _).trans (skipGap_suffix text))

/-- However often a step is taken, an end is left. -/
theorem repeated_suffix {step : Text → Option Text}
    (leaves : ∀ {text rest}, step text = some rest → rest <:+ text) (times : Nat) (text : Text) :
    repeated step times text <:+ text := by
  induction times generalizing text with
  | zero => exact List.suffix_refl _
  | succ times inductionHypothesis =>
    rw [repeated]
    split
    · next rest found => exact (inductionHypothesis rest).trans (leaves found)
    · exact List.suffix_refl _

theorem skipLines_suffix (text : Text) : skipLines text <:+ text := by
  refine (skipGap_suffix _).trans (repeated_suffix (fun found => ?_) text.length text)
  have breaks := newline?_eq_some_iff.1 found
  exact breaks.suffix.trans ((skipComment_suffix _).trans (skipGap_suffix _))

theorem leaves_readLineString : Leaves readLineString := fun _ _ _ read =>
  (readLineString_eq_some_iff.1 read).suffix

theorem leaves_readName : Leaves readName := by
  intro text name rest read
  rw [readName] at read
  split at read
  · exact leaves_readLineString read
  · dsimp only at read
    split at read
    · cases read
    · cases read
      exact List.dropWhile_suffix isBareKey

theorem leaves_readParts (parts : Nat) : Leaves (readParts parts) := by
  induction parts with
  | zero => nofun
  | succ parts inductionHypothesis =>
    intro text path rest read
    rw [readParts] at read
    dsimp only at read
    split at read
    · cases read
    · next name after isName =>
      have behind := (leaves_readName isName).trans (skipGap_suffix text)
      have gone := (skipGap_suffix after).trans behind
      split at read
      · next further isDotted =>
        obtain ⟨⟨path, last⟩, readOn, same⟩ := Option.map_eq_some_iff.1 read
        cases same
        rw [isDotted] at gone
        exact (inductionHypothesis readOn).trans ((List.suffix_cons _ _).trans gone)
      · cases read
        exact gone

theorem leaves_readPath : Leaves readPath :=
  leaves_readParts (nestingLimit - 1)

theorem leaves_readBare : Leaves readBare := by
  intro text value rest read
  rw [readBare] at read
  have word : text.dropWhile isBare <:+ text := List.dropWhile_suffix isBare
  split at read
  · next more isDate =>
    rw [isDate] at word
    split at read
    · cases read
      exact (List.dropWhile_suffix isBare).trans ((List.suffix_cons _ _).trans word)
    · obtain ⟨_, _, same⟩ := Option.map_eq_some_iff.1 read
      cases same
      exact List.dropWhile_suffix isBare
  · obtain ⟨_, _, same⟩ := Option.map_eq_some_iff.1 read
    cases same
    exact word

theorem leaves_readFlat : Leaves readFlat := by
  intro text value rest read
  rw [readFlat] at read
  split at read
  · obtain ⟨⟨content, after⟩, isString, same⟩ := Option.map_eq_some_iff.1 read
    cases same
    exact (readString_eq_some_iff.1 isString).suffix
  · exact leaves_readBare read

section Nested

variable {read : Text → Read Value}

theorem suffix_of_afterElements? (leaves : Leaves read) {elements : Nat}
    (found : afterElements? read elements text = some rest) : rest <:+ text := by
  induction elements generalizing text with
  | zero => cases found
  | succ elements inductionHypothesis =>
    have start := skipLines_suffix text
    rw [afterElements?] at found
    split at found
    · next closed =>
      cases found
      rw [closed] at start
      exact (List.suffix_cons _ _).trans start
    · split at found
      · cases found
      · next value after isValue =>
        have behind := ((skipLines_suffix after).trans (leaves isValue)).trans start
        split at found
        · next closed =>
          cases found
          rw [closed] at behind
          exact (List.suffix_cons _ _).trans behind
        · next further continues =>
          rw [continues] at behind
          exact (inductionHypothesis found).trans ((List.suffix_cons _ _).trans behind)
        · cases found

/-- The pairs of an inline table leave an end of the text if their values do. -/
theorem leaves_readPairs (leaves : Leaves read) (pairs : Nat) : Leaves (readPairs read pairs) := by
  induction pairs with
  | zero => nofun
  | succ pairs inductionHypothesis =>
    intro text keys rest found
    rw [readPairs] at found
    split at found
    · next path afterSign isPath =>
      have sign := (List.suffix_cons '=' afterSign).trans (leaves_readPath isPath)
      split at found
      · cases found
      · next value after isValue =>
        have behind := ((skipGap_suffix after).trans (leaves isValue)).trans
          ((skipGap_suffix afterSign).trans sign)
        split at found
        · next closed =>
          cases found
          rw [closed] at behind
          exact (List.suffix_cons _ _).trans behind
        · next further continues =>
          obtain ⟨⟨others, last⟩, readOn, same⟩ := Option.map_eq_some_iff.1 found
          cases same
          rw [continues] at behind
          exact (inductionHypothesis readOn).trans ((List.suffix_cons _ _).trans behind)
        · cases found
    · cases found

theorem suffix_of_afterPairs? (leaves : Leaves read) (found : afterPairs? read text = some rest) :
    rest <:+ text := by
  have start := skipGap_suffix text
  rw [afterPairs?] at found
  split at found
  · next closed =>
    cases found
    rw [closed] at start
    exact (List.suffix_cons _ _).trans start
  · split at found
    · next keys after isPairs =>
      split at found
      · cases found
        exact (leaves_readPairs leaves _ isPairs).trans start
      · cases found
    · cases found

theorem leaves_readNested (leaves : Leaves read) : Leaves (readNested read) := by
  intro text value rest found
  rw [readNested.eq_def] at found
  split at found
  · obtain ⟨after, elements, same⟩ := Option.map_eq_some_iff.1 found
    cases same
    exact (suffix_of_afterElements? leaves elements).trans (List.suffix_cons _ _)
  · obtain ⟨after, pairs, same⟩ := Option.map_eq_some_iff.1 found
    cases same
    exact (suffix_of_afterPairs? leaves pairs).trans (List.suffix_cons _ _)
  · exact leaves_readFlat found

end Nested

/-- Values leave an end of the text, however deep they are nested. -/
theorem leaves_readLevels (levels : Nat) : Leaves (readLevels levels) := by
  induction levels with
  | zero => exact leaves_readFlat
  | succ levels inductionHypothesis => exact leaves_readNested inductionHypothesis

theorem leaves_readValue : Leaves readValue :=
  leaves_readLevels (nestingLimit - 1)

theorem leaves_readAssigned (path : KeyPath) : Leaves (readAssigned path) := by
  intro text statement rest read
  rw [readAssigned.eq_def] at read
  split at read
  · next tail =>
    obtain ⟨⟨value, after⟩, isValue, same⟩ := Option.map_eq_some_iff.1 read
    cases same
    exact ((leaves_readValue isValue).trans (skipGap_suffix tail)).trans (List.suffix_cons _ _)
  · cases read

theorem leaves_readStatement : Leaves readStatement := by
  intro text statement rest read
  rw [readStatement.eq_def] at read
  split at read
  · split at read
    · next isPath =>
      cases read
      exact ((List.suffix_append [_, _] _).trans (leaves_readPath isPath)).trans
        (List.suffix_append [_, _] _)
    · cases read
  · split at read
    · next isPath =>
      cases read
      exact ((List.suffix_cons _ _).trans (leaves_readPath isPath)).trans (List.suffix_cons _ _)
    · cases read
  · split at read
    · next path after isPath =>
      exact (leaves_readAssigned path read).trans (leaves_readPath isPath)
    · cases read

theorem leaves_readLine : Leaves readLine := by
  intro text statements rest read
  rw [readLine] at read
  split at read
  · next finishes =>
    cases read
    exact suffix_of_finishLine? finishes
  · split at read
    · cases read
    · next statement after isStatement =>
      obtain ⟨last, finishes, same⟩ := Option.map_eq_some_iff.1 read
      cases same
      exact ((suffix_of_finishLine? finishes).trans (leaves_readStatement isStatement)).trans
        (skipGap_suffix text)

theorem skipMark_suffix (document : Text) : skipMark document <:+ document := by
  rw [skipMark.eq_def]
  split
  · split
    · exact List.suffix_cons _ _
    · exact List.suffix_refl _
  · exact List.suffix_refl _

end SourceCatalog.Toml
