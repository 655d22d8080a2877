import SourceCatalog.Proofs.Text.Lines
import SourceCatalog.Readme.Page

/-!
# The lines of a readme

Nothing in a readme is escaped: a name or a description may hold brackets, stars and dashes as
it likes. The link of a bullet still shows where its name ends, since the name holds no slash
and the link holds one. Main statement: a readme has one line for each entry, and its lines
tell the entries.
-/

namespace SourceCatalog.Readme

/-- An entry that stands on a line of its own: its name could be a directory's, and its
description is taken from a fragment. -/
structure Listed (entry : Entry) : Prop where
  noSlash : '/' ∉ entry.name
  noFeed : '\n' ∉ entry.name
  described : ∃ fragment, entry = .ofFragment entry.name fragment

theorem lineFeed_notMem_ofFragment (name : Text) (fragment : Option Text) :
    '\n' ∉ (Entry.ofFragment name fragment).description := by
  have missing : '\n' ∉ Entry.missing := by decide
  unfold Entry.ofFragment
  split
  · next line found =>
    obtain ⟨text, _, second⟩ := Option.bind_eq_some_iff.1 found
    have member : line ∈ Text.lines text := List.mem_of_getElem? second
    split
    · exact missing
    · exact Text.lineFeed_notMem_of_mem_lines member
  · exact missing

@[simp]
theorem name_ofFragment (name : Text) (fragment : Option Text) :
    (Entry.ofFragment name fragment).name = name := by
  unfold Entry.ofFragment Entry.fallback
  split
  · split <;> rfl
  · rfl

/-- An entry that comes of a fragment stands on one line. -/
theorem Listed.ofFragment {name : Text} (noSlash : '/' ∉ name) (noFeed : '\n' ∉ name)
    (fragment : Option Text) : Listed (.ofFragment name fragment) where
  noSlash := by simpa using noSlash
  noFeed := by simpa using noFeed
  described := ⟨fragment, by simp⟩

theorem Listed.lineFeed_notMem {entry : Entry} (listed : Listed entry) :
    '\n' ∉ entry.description := by
  obtain ⟨fragment, same⟩ := listed.described
  rw [same]
  exact lineFeed_notMem_ofFragment entry.name fragment

theorem lineFeed_notMem_heading {name description : Text} (nameFree : '\n' ∉ name)
    (descriptionFree : '\n' ∉ description) : '\n' ∉ heading name description := by
  have capitalFree := Text.lineFeed_notMem_capitalize nameFree
  have opening : '\n' ∉ "# ".toList := by decide
  have dash : '\n' ∉ " - ".toList := by decide
  simp only [heading, List.mem_append, not_or]
  exact ⟨⟨⟨opening, capitalFree⟩, dash⟩, descriptionFree⟩

def linkFront (repository directory : Text) : Text :=
  "](".toList ++ (Text.dropFinal '/' repository ++ "/src/".toList ++ directory ++ ['/'])

theorem bullet_eq (repository directory : Text) (entry : Entry) :
    bullet repository directory entry =
      " - **[".toList ++ (entry.name ++ (linkFront repository directory ++
        (entry.name ++ (")** - ".toList ++ entry.description)))) := by
  unfold bullet entryUrl linkFront
  simp only [List.append_assoc]

theorem lineFeed_notMem_linkFront {repository directory : Text}
    (repositoryFree : '\n' ∉ repository) (directoryFree : '\n' ∉ directory) :
    '\n' ∉ linkFront repository directory := by
  have trimmedFree : '\n' ∉ Text.dropFinal '/' repository := by
    intro member
    have kept : '\n' ∈ repository.reverse :=
      (List.dropWhile_sublist _).subset (List.mem_reverse.1 member)
    exact repositoryFree (List.mem_reverse.1 kept)
  have opening : '\n' ∉ "](".toList := by decide
  have source : '\n' ∉ "/src/".toList := by decide
  have slash : '\n' ∉ ['/'] := by decide
  simp only [linkFront, List.mem_append, not_or]
  exact ⟨opening, ⟨⟨trimmedFree, source⟩, directoryFree⟩, slash⟩

theorem lineFeed_notMem_bullet {repository directory : Text} {entry : Entry}
    (repositoryFree : '\n' ∉ repository) (directoryFree : '\n' ∉ directory)
    (listed : Listed entry) : '\n' ∉ bullet repository directory entry := by
  have linkFree := lineFeed_notMem_linkFront repositoryFree directoryFree
  have opening : '\n' ∉ " - **[".toList := by decide
  have closing : '\n' ∉ ")** - ".toList := by decide
  simp only [bullet_eq, List.mem_append, not_or]
  exact ⟨opening, listed.noFeed, linkFree, listed.noFeed, closing, listed.lineFeed_notMem⟩

/-- The first slash of a bullet stands in its link, wherever the brackets are. -/
theorem bullet_injective {repository directory : Text} {first second : Entry}
    (firstFree : '/' ∉ first.name) (secondFree : '/' ∉ second.name)
    (same : bullet repository directory first = bullet repository directory second) :
    first = second := by
  have slash : '/' ∈ linkFront repository directory := by
    unfold linkFront
    exact List.mem_append_right _ (List.mem_append_right _ (List.mem_singleton.2 rfl))
  obtain ⟨front, back, parts, frontFree⟩ := List.eq_append_cons_of_mem slash
  have cut : ∀ entry : Entry, bullet repository directory entry =
      " - **[".toList ++ ((entry.name ++ front) ++
        '/' :: (back ++ (entry.name ++ (")** - ".toList ++ entry.description)))) := by
    intro entry
    rw [bullet_eq, parts]
    simp only [List.append_assoc, List.cons_append]
  have freeBefore : ∀ name : Text, '/' ∉ name → '/' ∉ name ++ front := by
    intro name nameFree member
    rcases List.mem_append.1 member with inName | inFront
    · exact nameFree inName
    · exact frontFree inFront
  rw [cut first, cut second] at same
  obtain ⟨sameBefore, sameAfter⟩ := Text.append_separator_inj (freeBefore _ firstFree)
    (freeBefore _ secondFree) (List.append_cancel_left same)
  have sameName : first.name = second.name := List.append_cancel_right sameBefore
  rw [sameName] at sameAfter
  have sameDescription : first.description = second.description :=
    List.append_cancel_left (List.append_cancel_left (List.append_cancel_left sameAfter))
  cases first
  cases second
  simp_all

/-- The bullets determine the entries in their order. -/
theorem map_bullet_injective {repository directory : Text} {entries others : List Entry}
    (listed : ∀ entry ∈ entries, Listed entry) (othersListed : ∀ entry ∈ others, Listed entry)
    (same : entries.map (bullet repository directory) = others.map (bullet repository directory)) :
    entries = others := by
  induction entries generalizing others with
  | nil => exact (List.map_eq_nil_iff.1 same.symm).symm
  | cons head tail inductionHypothesis =>
    cases others with
    | nil => cases same
    | cons first rest =>
      obtain ⟨sameBullet, sameRest⟩ := List.cons.inj same
      have sameEntry : head = first := bullet_injective (listed head List.mem_cons_self).noSlash
        (othersListed first List.mem_cons_self).noSlash sameBullet
      have sameTail : tail = rest := inductionHypothesis
        (fun entry member => listed entry (List.mem_cons_of_mem head member))
        (fun entry member => othersListed entry (List.mem_cons_of_mem first member)) sameRest
      rw [sameEntry, sameTail]

theorem pieces_compose {name description repository : Text} {entries : List Entry}
    (nameFree : '\n' ∉ name) (descriptionFree : '\n' ∉ description)
    (repositoryFree : '\n' ∉ repository) (listed : ∀ entry ∈ entries, Listed entry) :
    Text.pieces '\n' (compose name description entries repository) =
      marker :: heading name description :: entries.map (bullet repository name) := by
  have markerFree : '\n' ∉ marker := by decide
  have headingFree := lineFeed_notMem_heading nameFree descriptionFree
  have bulletsFree : ∀ line ∈ entries.map (bullet repository name), '\n' ∉ line := by
    intro line member
    obtain ⟨entry, isEntry, rfl⟩ := List.mem_map.1 member
    exact lineFeed_notMem_bullet repositoryFree nameFree (listed entry isEntry)
  have lines := Text.pieces_append_flatMap headingFree bulletsFree
  rw [List.flatMap_map] at lines
  have whole : compose name description entries repository =
      marker ++ '\n' :: (heading name description ++
        entries.flatMap fun entry => '\n' :: bullet repository name entry) := by
    simp only [compose, List.append_assoc, List.cons_append, List.nil_append]
  rw [whole, Text.pieces_append_cons markerFree, lines]

/-- A readme has a line for the mark, one for the heading and one for each entry, and no other
list of entries gives the same readme. -/
theorem compose_readable {name description repository : Text} {entries : List Entry}
    (nameFree : '\n' ∉ name) (descriptionFree : '\n' ∉ description)
    (repositoryFree : '\n' ∉ repository) (listed : ∀ entry ∈ entries, Listed entry) :
    let readme := compose name description entries repository
    Text.pieces '\n' readme =
        marker :: heading name description :: entries.map (bullet repository name) ∧
      (Text.pieces '\n' readme).length = entries.length + 2 ∧
      ∀ others : List Entry, (∀ entry ∈ others, Listed entry) →
        compose name description others repository = readme → others = entries := by
  intro readme
  have lines := pieces_compose nameFree descriptionFree repositoryFree listed
  refine ⟨lines, ?_, ?_⟩
  · rw [lines]
    simp
  · intro others othersListed same
    have otherLines := pieces_compose nameFree descriptionFree repositoryFree othersListed
    rw [same, lines] at otherLines
    have bullets := (List.cons.inj (List.cons.inj otherLines).2).2
    exact map_bullet_injective othersListed listed bullets.symm

/-- A directory whose two subdirectories, one without a fragment, have marks of a bullet in
their names and descriptions. -/
def bracketEntries : List Entry :=
  [.ofFragment "lexer](a)** - b".toList (some "# Lexer\nSplits [text](b)** - c.\r\n".toList),
    .ofFragment "](ast".toList none]

theorem listed_bracketEntries : ∀ entry ∈ bracketEntries, Listed entry := by
  intro entry member
  rcases List.mem_cons.1 member with rfl | later
  · exact Listed.ofFragment (by decide) (by decide) _
  · rw [List.mem_singleton.1 later]
    exact Listed.ofFragment (by decide) (by decide) none

theorem compose_readable_bracketEntries :
    let readme := compose "parser".toList "Turns text into trees.".toList bracketEntries
      "https://example.com/tree/".toList
    Text.pieces '\n' readme =
        ["<!-- This file was auto generated by Typesharp. -->".toList,
          "# Parser - Turns text into trees.".toList,
          (" - **[lexer](a)** - b](https://example.com/tree/src/parser/lexer](a)** - b)** - " ++
            "Splits [text](b)** - c.").toList,
          (" - **[](ast](https://example.com/tree/src/parser/](ast)** - " ++
            "No description.").toList] ∧
      ∀ others : List Entry, (∀ entry ∈ others, Listed entry) →
        compose "parser".toList "Turns text into trees.".toList others
          "https://example.com/tree/".toList = readme → others = bracketEntries := by
  intro readme
  have nameFree : '\n' ∉ "parser".toList := by decide
  have descriptionFree : '\n' ∉ "Turns text into trees.".toList := by decide
  have repositoryFree : '\n' ∉ "https://example.com/tree/".toList := by decide
  have readable := compose_readable nameFree descriptionFree repositoryFree listed_bracketEntries
  exact ⟨readable.1.trans (by decide +kernel), readable.2.2⟩

end SourceCatalog.Readme
