import SourceCatalog.Keyword.Document
import SourceCatalog.Proofs.Keyword.BodyBounds
import SourceCatalog.Proofs.Keyword.Segments
import SourceCatalog.Proofs.Source.CommentedLine

/-!
# Regular enumerations

In a regular source each line of the enumeration holds at most one variant, and what stands in
comments is of no account. Main statement: the records of a regular source are exactly its
variants in their order, whatever its comments, line ends and margins are.
-/

namespace SourceCatalog.Keyword

open Source (Comment Line LineEnd Margin Plain withoutBlankRuns withoutComments)
open Text (Blank Solid isBlank)

def isLetter (tested : Char) : Bool :=
  tested.isAlphanum || tested == '_'

/-- The codes of letters lie between those of the zero and of the small z. -/
theorem code_of_isLetter {tested : Char} (letter : isLetter tested = true) :
    48 ≤ tested.toNat ∧ tested.toNat ≤ 122 := by
  have within (first last : Char)
      (bounds : (decide (tested.val ≥ first.val) && decide (tested.val ≤ last.val)) = true) :
      first.toNat ≤ tested.toNat ∧ tested.toNat ≤ last.toNat := by
    obtain ⟨lower, upper⟩ := Bool.and_eq_true_iff.1 bounds
    exact ⟨UInt32.le_iff_toNat_le.1 (of_decide_eq_true lower),
      UInt32.le_iff_toNat_le.1 (of_decide_eq_true upper)⟩
  rcases Bool.or_eq_true_iff.1 letter with alphanumeric | underscore
  · rcases Bool.or_eq_true_iff.1
      (show (tested.isAlpha || tested.isDigit) = true from alphanumeric) with letter | digit
    · rcases Bool.or_eq_true_iff.1 (show (tested.isUpper || tested.isLower) = true from letter)
        with upper | lower
      · have bounds : tested.val ≥ 'A'.val ∧ tested.val ≤ 'Z'.val := of_decide_eq_true upper
        have above : 65 ≤ tested.toNat := UInt32.le_iff_toNat_le.1 bounds.1
        have below : tested.toNat ≤ 90 := UInt32.le_iff_toNat_le.1 bounds.2
        omega
      · have bounds : 97 ≤ tested.toNat ∧ tested.toNat ≤ 122 := within 'a' 'z' lower
        omega
    · have bounds : 48 ≤ tested.toNat ∧ tested.toNat ≤ 57 := within '0' '9' digit
      omega
  · rw [beq_iff_eq.1 underscore]
    decide

/-- A character whose code lies outside of the codes of letters is no letter. -/
theorem ne_of_isLetter {tested other : Char} (letter : isLetter tested = true)
    (outside : other.toNat < 48 ∨ 122 < other.toNat) : tested ≠ other := by
  rintro rfl
  have := code_of_isLetter letter
  omega

theorem isBlank_of_isLetter {tested : Char} (letter : isLetter tested = true) :
    isBlank tested = false := by
  have code := code_of_isLetter letter
  simp only [isBlank, Bool.or_eq_false_iff, Bool.and_eq_false_iff, decide_eq_false_iff_not,
    beq_eq_false_iff_ne]
  omega

structure Identifier where
  text : Text
  filled : text ≠ []
  letters : ∀ tested ∈ text, isLetter tested = true

namespace Identifier

def ofText (text : Text) (filled : text ≠ []) (letters : text.all isLetter = true) :
    Identifier :=
  ⟨text, filled, List.all_eq_true.1 letters⟩

theorem solid (name : Identifier) : Solid name.text :=
  fun tested member => isBlank_of_isLetter (name.letters tested member)

theorem notMem (name : Identifier) {other : Char}
    (outside : other.toNat < 48 ∨ 122 < other.toNat) : other ∉ name.text :=
  fun member => ne_of_isLetter (name.letters other member) outside rfl

end Identifier

abbrev Spaces := { text : Text // Margin text }

structure Variant where
  name : Identifier
  gap : Spaces
  comma : Option Spaces

def Variant.text (variant : Variant) : Text :=
  variant.name.text ++ variant.gap.val ++
    (variant.comma.map fun margin => ',' :: margin.val).getD []

/-- A line of the enumeration: perhaps a variant, and perhaps a comment behind it. -/
structure Item where
  indent : Spaces
  variant : Option Variant
  comment : Option Comment
  ending : LineEnd

namespace Item

def code (item : Item) : Text :=
  item.indent.val ++ (item.variant.map Variant.text).getD []

def name? (item : Item) : Option Text :=
  item.variant.map (·.name.text)

end Item

theorem notMem_of_margin {margin : Text} (isMargin : Margin margin) {other : Char}
    (different : other ≠ ' ' ∧ other ≠ '\t') : other ∉ margin := by
  intro member
  rcases isMargin other member with space | tab
  · exact different.1 space
  · exact different.2 tab

theorem blank_of_margin {margin : Text} (isMargin : Margin margin) : Blank margin := by
  intro tested member
  rcases isMargin tested member with rfl | rfl <;> decide

/-- The code of an item is made of letters, spaces, tabs and commas. -/
theorem notMem_code (item : Item) {other : Char} (outside : other.toNat < 48 ∨ 122 < other.toNat)
    (different : other ≠ ' ' ∧ other ≠ '\t') (noComma : other ≠ ',') : other ∉ item.code := by
  obtain ⟨indent, variant, comment, ending⟩ := item
  have notIndent := notMem_of_margin indent.2 different
  cases variant with
  | none => simpa [Item.code] using notIndent
  | some variant =>
    obtain ⟨name, gap, comma⟩ := variant
    have notName := name.notMem outside
    have notGap := notMem_of_margin gap.2 different
    cases comma with
    | none => simp [Item.code, Variant.text, notIndent, notName, notGap]
    | some margin =>
      have notMargin := notMem_of_margin margin.2 different
      simp [Item.code, Variant.text, notIndent, notName, notGap, notMargin, noComma]

def Item.line (item : Item) : Line where
  code := item.code
  plain :=
    ⟨notMem_code item (by decide) (by decide) (by decide),
      notMem_code item (by decide) (by decide) (by decide),
      notMem_code item (by decide) (by decide) (by decide)⟩
  comment := item.comment
  ending := item.ending

/-- Whether a comma stands behind the variant of a line, before its comment or after it. -/
def Item.closed (item : Item) : Bool :=
  item.variant.any (·.comma.isSome) || item.line.keepsComma

/-- A source with an enumeration. Of its variants only the last one may lack its comma. -/
structure Enumeration where
  before : List Line
  /-- What stands in front of the enumeration on its first line. -/
  opening : Text
  plain : Plain opening
  margin : Spaces
  comment : Option Comment
  ending : LineEnd
  items : List Item
  closed : items.Pairwise fun item later =>
    later.variant = none ∨ item.variant = none ∨ item.closed = true
  indent : Spaces
  after : Text

namespace Enumeration

def preface (source : Enumeration) : Text :=
  source.before.flatMap Line.text ++ source.opening

theorem notMem_firstCode (source : Enumeration) {other : Char} (notOpening : other ∉ source.opening)
    (notMarker : other ∉ marker) (different : other ≠ ' ' ∧ other ≠ '\t') :
    other ∉ source.opening ++ marker ++ source.margin.val := by
  simp only [List.mem_append, not_or]
  exact ⟨⟨notOpening, notMarker⟩, notMem_of_margin source.margin.2 different⟩

def firstLine (source : Enumeration) : Line where
  code := source.opening ++ marker ++ source.margin.val
  plain :=
    ⟨source.notMem_firstCode source.plain.noSlash (by decide) (by decide),
      source.notMem_firstCode source.plain.noFeed (by decide) (by decide),
      source.notMem_firstCode source.plain.noReturn (by decide) (by decide)⟩
  comment := source.comment
  ending := source.ending

def lines (source : Enumeration) : List Line :=
  source.before ++ source.firstLine :: source.items.map Item.line

def text (source : Enumeration) : Text :=
  source.lines.flatMap Line.text ++ source.indent.val ++ '}' :: source.after

def records (source : Enumeration) : List Record :=
  (source.items.filterMap Item.name?).map Record.ofName

end Enumeration

/-! ## Reading the lines -/

theorem blank_ending (ending : LineEnd) : Blank ending.text := by
  cases ending <;> decide

theorem blank_of_sublist_margin {shorter margin : Text} (sublist : shorter.Sublist margin)
    (isMargin : Margin margin) : Blank shorter :=
  (blank_of_margin isMargin).of_sublist sublist

/-- Reading a name leaves it open. -/
theorem Identifier.reads (name : Identifier) : Reads [] name.text [] name.text :=
  Reads.word name.solid (name.notMem (by decide)) (name.notMem (by decide))

theorem Identifier.getLast?_ne (name : Identifier) (before : Text) :
    (before ++ name.text).getLast? ≠ some ' ' := by
  rw [List.getLast?_append]
  intro last
  rcases Option.or_eq_some_iff.1 last with inName | ⟨missing, _⟩
  · exact name.notMem (by decide) (List.mem_of_getLast? inName)
  · exact name.filled (List.getLast?_eq_none_iff.1 missing)

/-- A comma closes the open word; without it the word stays open. -/
theorem reads_kept (comma : Bool) (ending : LineEnd) (word : Text) :
    Reads word (Source.commaText comma ++ ending.text) (if comma then shown word else [])
      (if comma then [] else word) := by
  have ends (word : Text) : Reads word ending.text [] word := .blank word (blank_ending ending)
  cases comma with
  | true =>
    have closes := (Reads.comma word).append (ends [])
    rwa [List.append_nil] at closes
  | false => exact ends word

namespace Item

/-- The word that is open behind a line. -/
def leaves (item : Item) (word : Text) : Text :=
  if item.closed then [] else item.name?.getD word

/-- The code of a line gives its name, unless the name is still open at the end of the code. -/
theorem exists_reads_code (item : Item) {word : Text} (free : word = [] ∨ item.variant = none) :
    ∃ names, Reads word (Line.codeLeft item.comment item.code) names
        (if item.variant.any (·.comma.isSome) then [] else item.name?.getD word) ∧
      names ++ shown (if item.variant.any (·.comma.isSome) then [] else item.name?.getD word) =
        shown word ++ item.name?.toList := by
  obtain ⟨indent, variant, comment, ending⟩ := item
  cases variant with
  | none =>
    obtain ⟨left, sublist, isLeft⟩ := @Line.exists_codeLeft comment [] (by simp) indent.val
    have reads : Reads word left [] word :=
      .blank word (blank_of_sublist_margin sublist indent.2)
    rw [List.nil_append, List.nil_append] at isLeft
    refine ⟨[], ?_, by simp [name?]⟩
    simpa [code, name?, isLeft] using reads
  | some variant =>
    obtain ⟨name, gap, comma⟩ := variant
    have open_ : word = [] := free.resolve_right (by simp)
    subst open_
    have start : Reads [] (indent.val ++ name.text) [] name.text := by
      have lead : Reads [] indent.val [] [] := .blank [] (blank_of_margin indent.2)
      exact lead.append name.reads
    cases comma with
    | none =>
      obtain ⟨left, sublist, isLeft⟩ :=
        Line.exists_codeLeft comment (name.getLast?_ne indent.val) gap.val
      have reads := start.append (.blank name.text (blank_of_sublist_margin sublist gap.2))
      refine ⟨[], ?_, by simp [name?, shown, name.filled]⟩
      simpa [code, Variant.text, name?, ← List.append_assoc, isLeft] using reads
    | some margin =>
      have comma : Reads [] (indent.val ++ name.text ++ gap.val ++ [',']) (shown name.text) [] := by
        have withGap := start.append (.blank name.text (blank_of_margin gap.2))
        exact withGap.append (.comma name.text)
      obtain ⟨left, sublist, isLeft⟩ := @Line.exists_codeLeft comment
        (indent.val ++ name.text ++ gap.val ++ [',']) (by simp) margin.val
      have reads := comma.append (.blank [] (blank_of_sublist_margin sublist margin.2))
      refine ⟨shown name.text, ?_, by simp [name?, shown, name.filled]⟩
      rw [← isLeft] at reads
      simpa [code, Variant.text, name?] using reads

/-- A line gives its name, unless the name is still open at the end of the line. -/
theorem exists_reads_line (item : Item) {word : Text} (free : word = [] ∨ item.variant = none) :
    ∃ names, Reads word item.line.bare names (item.leaves word) ∧
      names ++ shown (item.leaves word) = shown word ++ item.name?.toList := by
  obtain ⟨names, reads, closed⟩ := item.exists_reads_code free
  by_cases inCode : item.variant.any (·.comma.isSome) = true
  · have leaves : item.leaves word = [] := by simp [Item.leaves, Item.closed, inCode]
    rw [if_pos inCode] at reads closed
    have kept := reads_kept item.line.keepsComma item.ending []
    rw [ite_self, show shown [] = [] from rfl, ite_self] at kept
    refine ⟨names, ?_, by rw [leaves, closed]⟩
    have whole := reads.append kept
    rw [List.append_nil, ← List.append_assoc] at whole
    rw [leaves]
    exact whole
  · rw [if_neg inCode] at reads closed
    have kept := reads_kept item.line.keepsComma item.ending (item.name?.getD word)
    have leaves : item.leaves word =
        if item.line.keepsComma then [] else item.name?.getD word := by
      simp [Item.leaves, Item.closed, inCode]
    have whole := reads.append kept
    rw [← leaves, ← List.append_assoc] at whole
    refine ⟨_, whole, ?_⟩
    rw [← closed, leaves]
    by_cases comma : item.line.keepsComma = true
    · simp [comma, shown]
    · simp [comma]

/-- The lines of an enumeration give its names, but for one that is open at their end. -/
theorem exists_reads_lines (items : List Item) {word : Text}
    (closed : items.Pairwise fun item later =>
      later.variant = none ∨ item.variant = none ∨ item.closed = true)
    (free : word = [] ∨ ∀ item ∈ items, item.variant = none) :
    ∃ names last, Reads word (items.flatMap fun item => item.line.bare) names last ∧
      names ++ shown last = shown word ++ items.filterMap name? := by
  induction items generalizing word with
  | nil => exact ⟨[], word, .blank word (by decide), by simp⟩
  | cons item items inductionHypothesis =>
    obtain ⟨others, closedLater⟩ := List.pairwise_cons.1 closed
    have itemFree : word = [] ∨ item.variant = none :=
      free.imp_right fun none => none item List.mem_cons_self
    obtain ⟨names, reads, given⟩ := item.exists_reads_line itemFree
    -- a name can only be left open where no variant follows
    have free' : item.leaves word = [] ∨ ∀ later ∈ items, later.variant = none := by
      by_cases isClosed : item.closed = true
      · exact Or.inl (by rw [Item.leaves, if_pos isClosed])
      · cases variant : item.variant with
        | none =>
          have same : item.leaves word = word := by
            rw [Item.leaves, if_neg isClosed, name?, variant]
            rfl
          rw [same]
          exact free.imp_right fun none later member =>
            none later (List.mem_cons_of_mem item member)
        | some variant =>
          refine Or.inr fun later member => ?_
          rcases others later member with noVariant | noVariant | isClosed'
          · exact noVariant
          · simp [variant] at noVariant
          · exact absurd isClosed' isClosed
    obtain ⟨names', last, reads', given'⟩ := inductionHypothesis closedLater free'
    refine ⟨names ++ names', last, reads.append reads', ?_⟩
    rw [List.append_assoc, given', ← List.append_assoc, given, List.append_assoc,
      List.filterMap_cons]
    cases item.name? <;> rfl

end Item

/-- The first brace behind the first mark ends the body. -/
theorem enumBody_append {before body : Text} (fresh : ¬ marker <:+: before) (noBrace : '}' ∉ body)
    (rest : Text) : enumBody (before ++ marker ++ (body ++ '}' :: rest)) = .ok body :=
  enumBody_append_of_ends fresh noBrace (Or.inr ⟨rest, rfl⟩)

theorem withoutBlankRuns_append_marker (before after : Text) :
    withoutBlankRuns (before ++ marker ++ after) =
      withoutBlankRuns before ++ marker ++ withoutBlankRuns after := by
  have brace : marker.getLast? = some '{' := by decide
  have ends : ∀ last, marker.getLast? = some last → isBlank last = false := by
    intro last isLast
    cases brace.symm.trans isLast
    decide
  have stays : withoutBlankRuns (marker ++ after) = marker ++ withoutBlankRuns after :=
    Source.withoutBlankRuns_append_of_spaced (by decide) ends after
  obtain ⟨tail, starts⟩ : ∃ tail, marker = 'e' :: tail := ⟨_, rfl⟩
  have solid : isBlank 'e' = false := by decide
  rw [starts, List.cons_append, Source.withoutBlankRuns_cons_of_solid solid] at stays
  rw [starts, List.append_assoc, List.cons_append, Source.withoutBlankRuns_append_cons solid,
    stays, List.append_assoc]

namespace Enumeration

theorem withoutComments_preface (source : Enumeration) :
    withoutComments source.preface = source.before.flatMap Line.bare ++ source.opening := by
  have opening : withoutComments (source.opening ++ []) = source.opening ++ withoutComments [] :=
    Source.withoutComments_append source.plain.noSlash fun _ tail same => by cases same
  rw [List.append_nil, Source.withoutComments_nil, List.append_nil] at opening
  rw [preface, Source.withoutComments_lines, opening]

/-- The first line ends with the marker and blanks, but for a comma behind its comment. -/
theorem exists_bare_firstLine (source : Enumeration) :
    ∃ rest, source.firstLine.bare = source.opening ++ marker ++ rest ∧ Reads [] rest [] [] := by
  have solid : (source.opening ++ marker).getLast? ≠ some ' ' := by
    have last : marker.getLast? = some '{' := by decide
    rw [List.getLast?_append, last, Option.some_or]
    decide
  obtain ⟨left, sublist, isLeft⟩ := Line.exists_codeLeft source.comment solid source.margin.val
  have margin : Reads [] left [] [] :=
    .blank [] (blank_of_sublist_margin sublist source.margin.2)
  have kept := reads_kept source.firstLine.keepsComma source.ending []
  rw [ite_self, show shown [] = [] from rfl, ite_self] at kept
  refine ⟨left ++ (Source.commaText source.firstLine.keepsComma ++ source.ending.text), ?_,
    margin.append kept⟩
  rw [← List.append_assoc, ← List.append_assoc, ← isLeft]
  rfl

/-- Without its comments a regular source is its preface, the marker and the body. -/
theorem exists_withoutComments_text (source : Enumeration) :
    ∃ body names last,
      withoutComments source.text = withoutComments source.preface ++ marker ++
        (body ++ '}' :: withoutComments source.after) ∧
      Reads [] body names last ∧ names ++ shown last = source.items.filterMap Item.name? := by
  obtain ⟨rest, firstLine, readsRest⟩ := source.exists_bare_firstLine
  obtain ⟨names, last, readsItems, given⟩ :=
    Item.exists_reads_lines source.items source.closed (Or.inl rfl)
  have indent : Reads last source.indent.val [] last :=
    .blank last (blank_of_margin source.indent.2)
  refine ⟨rest ++ ((source.items.flatMap fun item => item.line.bare) ++ source.indent.val),
    names, last, ?_, ?_, given⟩
  · have noSlash : '/' ∉ source.indent.val ++ ['}'] := by
      have notIndent : '/' ∉ source.indent.val := notMem_of_margin source.indent.2 (by decide)
      simp [notIndent]
    have closing : withoutComments (source.indent.val ++ ['}'] ++ source.after) =
        source.indent.val ++ ['}'] ++ withoutComments source.after :=
      Source.withoutComments_append noSlash fun spaced => absurd spaced (by simp)
    rw [text, List.append_assoc, Source.withoutComments_lines, lines, List.flatMap_append,
      List.flatMap_cons, List.flatMap_map, firstLine, withoutComments_preface]
    simp only [List.append_assoc, List.cons_append, List.nil_append] at closing ⊢
    rw [closing]
  · have whole := readsRest.append (readsItems.append indent)
    rwa [List.nil_append, List.append_nil] at whole

end Enumeration

/-- The records of a regular source are those of its variants, in their order, and the document
is written from them. Only the text in front of the enumeration must not hold the marker once
its comments and its runs of blanks are gone. -/
theorem document_enumeration (source : Enumeration) (format : Format)
    (fresh : ¬ marker <:+: Source.normalize source.preface) :
    ∃ written, format.render source.records = .ok written ∧
      document source.text format = .ok (source.records, written) := by
  obtain ⟨body, names, last, parts, reads, given⟩ := source.exists_withoutComments_text
  have solid : isBlank '}' = false := by decide
  have normal : Source.normalize source.text = Source.normalize source.preface ++ marker ++
      (withoutBlankRuns body ++ '}' :: withoutBlankRuns (withoutComments source.after)) := by
    rw [Source.normalize, parts, withoutBlankRuns_append_marker,
      Source.withoutBlankRuns_append_cons solid]
    rfl
  have noBrace : '}' ∉ withoutBlankRuns body := fun member =>
    reads.brace_notMem ((Source.withoutBlankRuns_sublist body).subset member)
  have records : extract (Source.normalize source.text) = .ok source.records := by
    rw [extract, normal, enumBody_append fresh noBrace]
    change Except.ok (tokenize (withoutBlankRuns body)) = _
    rw [tokenize_withoutBlankRuns, reads.namesIn_eq, given]
    rfl
  obtain ⟨written, rendered⟩ := format.exists_render source.records
  exact ⟨written, rendered, document_eq_ok_iff.2 ⟨records, rendered⟩⟩

/-- A source whose comments hold the marker, braces, commas and each other's openings. -/
def sample : Enumeration where
  before := [
    { code := []
      plain := ⟨by decide, by decide, by decide⟩
      comment := some (.line " enum KeyWord \x7b Fake \x7d".toList (by decide) (by decide))
      ending := .returnFeed }]
  opening := "pub ".toList
  plain := ⟨by decide, by decide, by decide⟩
  margin := ⟨[' '], by decide⟩
  comment := some (.line " words".toList (by decide) (by decide))
  ending := .feed
  items := [
    { indent := ⟨[' ', ' '], by decide⟩
      variant := some
        ⟨.ofText "If".toList (by decide) (by decide), ⟨[], by decide⟩, some ⟨[' '], by decide⟩⟩
      comment := some
        (.block " one, \x7d \n two // ".toList (by decide +kernel) false [] (by decide))
      ending := .returnFeed },
    { indent := ⟨['\t'], by decide⟩
      variant := some
        ⟨.ofText "SelfKeyword".toList (by decide) (by decide), ⟨[' '], by decide⟩, none⟩
      comment := some (.block " /* https://a ".toList (by decide +kernel) true [] (by decide))
      ending := .feed },
    { indent := ⟨[], by decide⟩, variant := none, comment := none, ending := .feed },
    { indent := ⟨[' '], by decide⟩
      variant := some ⟨.ofText "as_2".toList (by decide) (by decide), ⟨[], by decide⟩, none⟩
      comment := some (.line "last".toList (by decide) (by decide))
      ending := .feed }]
  closed := by decide
  indent := ⟨[], by decide⟩
  after := "\nimpl KeyWord \x7b\x7d /*".toList

/-- Marker, braces and commas in comments do not count. -/
theorem document_enumeration_sample :
    sample.text = ("// enum KeyWord \x7b Fake \x7d\r\npub enum KeyWord \x7b // words\n" ++
      "  If, /* one, \x7d \n two // */\r\n\tSelfKeyword /* /* https://a */,\n\n as_2//last\n" ++
      "\x7d\nimpl KeyWord \x7b\x7d /*").toList ∧
    ¬ marker <:+: Source.normalize sample.preface ∧
    sample.records = [⟨"If".toList, "if".toList⟩, ⟨"SelfKeyword".toList, "self".toList⟩,
      ⟨"as_2".toList, "as_2".toList⟩] ∧
    document sample.text .text = .ok (sample.records, renderText sample.records) := by
  have fresh : ¬ marker <:+: Source.normalize sample.preface := by
    intro occurs
    rw [Source.normalize, sample.withoutComments_preface] at occurs
    have fits := (occurs.sublist.trans (Source.withoutBlankRuns_sublist _)).length_le
    exact absurd fits (by decide)
  obtain ⟨written, rendered, found⟩ := document_enumeration sample .text fresh
  cases rendered
  exact ⟨by decide +kernel, fresh, by decide +kernel, found⟩

end SourceCatalog.Keyword
