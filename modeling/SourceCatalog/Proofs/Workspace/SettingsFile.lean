import SourceCatalog.FileTree.Arrange
import SourceCatalog.Proofs.Toml.Assignments
import SourceCatalog.Proofs.Workspace.Looking

/-!
# The settings file

A settings file may give each setting a string, and nothing else. Main statement: a document is
accepted exactly if its items do that, and the first one that does not is reported.
-/

namespace SourceCatalog

namespace Setting

theorem ofKey?_key (setting : Setting) : ofKey? setting.key = some setting := by
  cases setting <;> decide

theorem ofKey?_eq_some_iff {name : Text} {setting : Setting} :
    ofKey? name = some setting ↔ name = setting.key := by
  constructor
  · intro found
    have same : (setting.key == name) = true :=
      List.find?_some (p := fun listed : Setting => listed.key == name) found
    exact (eq_of_beq same).symm
  · rintro rfl
    exact ofKey?_key setting

theorem key_injective {setting other : Setting} (same : setting.key = other.key) :
    setting = other := by
  have found := ofKey?_key setting
  rw [same, ofKey?_key other] at found
  exact (Option.some.inj found).symm

def kept : Setting → Text → Text
  | repositoryUrl => Text.dropFinal '/'
  | _ => id

end Setting

namespace Settings

def value (settings : Settings) : Setting → Text
  | .keywordFile => settings.keywordFile
  | .sourceDirectory => settings.sourceDirectory
  | .descriptionsFile => settings.descriptionsFile
  | .readmeName => settings.readmeName
  | .repositoryUrl => settings.repositoryUrl

end Settings

namespace Overrides

def value? (overrides : Overrides) : Setting → Option Text
  | .keywordFile => overrides.keywordFile
  | .sourceDirectory => overrides.sourceDirectory
  | .descriptionsFile => overrides.descriptionsFile
  | .readmeName => overrides.readmeName
  | .repositoryUrl => overrides.repositoryUrl

theorem value?_empty (setting : Setting) : empty.value? setting = none := by
  cases setting <;> rfl

theorem value?_set (overrides : Overrides) (value : Text) (setting other : Setting) :
    (overrides.set value setting).value? other =
      if other = setting then some value else overrides.value? other := by
  cases setting <;> cases other <;> rfl

/-- Each setting has the value that overrides it, or its own. -/
theorem value_apply (settings : Settings) (overrides : Overrides) (setting : Setting) :
    (settings.apply overrides).value setting =
      ((overrides.value? setting).map setting.kept).getD (settings.value setting) := by
  cases setting <;> simp [Settings.apply, Settings.value, value?, Setting.kept]

def Gives (item : Toml.Item) (setting : Setting) (content : Text) : Prop :=
  item.name = setting.key ∧ item.value = .string content

def Fits (item : Toml.Item) : Prop :=
  ∃ setting content, Gives item setting content

/-- The report of an item that does not fit: its key is no setting's, or its value no string. -/
inductive Wrong (item : Toml.Item) : Text → Prop
  | unknown (unlisted : ∀ setting : Setting, item.name ≠ setting.key) :
      Wrong item (wrongAt item.keyPlace (unknownKey item.name))
  | noString {setting : Setting} {found : Misfit} (listed : item.name = setting.key)
      (other : item.value = .other found) :
      Wrong item (wrongAt item.valuePlace (found.report "a string".toList))

section Items

variable {item : Toml.Item} {items before : List Toml.Item} {setting : Setting}
  {content report : Text}

theorem accept_of_gives (gives : Gives item setting content) (overrides : Overrides) :
    overrides.accept item = .ok (overrides.set content setting) := by
  rw [accept, Setting.ofKey?_eq_some_iff.2 gives.1, gives.2]

/-- An item that does not fit is refused with its report. -/
theorem accept_of_wrong (wrong : Wrong item report) (overrides : Overrides) :
    overrides.accept item = .error report := by
  rw [accept]
  cases wrong with
  | unknown unlisted =>
    have nowhere : Setting.ofKey? item.name = none := by
      rw [Option.eq_none_iff_forall_ne_some]
      exact fun setting found => unlisted setting (Setting.ofKey?_eq_some_iff.1 found)
    rw [nowhere]
  | noString listed other => rw [Setting.ofKey?_eq_some_iff.2 listed, other]

theorem fits_or_wrong (item : Toml.Item) : Fits item ∨ ∃ report, Wrong item report := by
  by_cases listed : ∃ setting : Setting, item.name = setting.key
  · obtain ⟨setting, listed⟩ := listed
    cases value : item.value with
    | string content => exact .inl ⟨setting, content, listed, value⟩
    | other found => exact .inr ⟨_, .noString listed value⟩
  · exact .inr ⟨_, .unknown fun setting same => listed ⟨setting, same⟩⟩

/-- Items that fit are accepted one by one, and each sets one value. -/
theorem foldlM_accept_of_fits (distinct : (items.map Toml.Item.name).Nodup)
    (fits : ∀ item ∈ items, Fits item) (overrides : Overrides) :
    ∃ final, items.foldlM accept overrides = .ok final ∧ ∀ setting value,
      final.value? setting = some value ↔ (∃ item ∈ items, Gives item setting value) ∨
        setting.key ∉ items.map Toml.Item.name ∧ overrides.value? setting = some value := by
  induction items generalizing overrides with
  | nil => exact ⟨overrides, rfl, by simp⟩
  | cons first others inductionHypothesis =>
    rw [List.map_cons, List.nodup_cons] at distinct
    obtain ⟨given, content, gives⟩ := fits first List.mem_cons_self
    obtain ⟨final, ends, values⟩ := inductionHypothesis distinct.2
      (fun item member => fits item (List.mem_cons_of_mem first member))
      (overrides.set content given)
    refine ⟨final, ?_, fun setting value => ?_⟩
    · rw [List.foldlM_cons, accept_of_gives gives]
      exact ends
    · rw [values, value?_set, List.exists_mem_cons_iff, List.map_cons, List.mem_cons, not_or]
      by_cases same : setting = given
      · subst same
        have unnamed : setting.key ∉ others.map Toml.Item.name := gives.1 ▸ distinct.1
        have only : Gives first setting value ↔ content = value := by
          simp [Gives, gives.1, gives.2]
        simp [unnamed, only, gives.1, or_comm]
      · have differ : setting.key ≠ first.name := fun sameKey =>
          same (Setting.key_injective (sameKey.trans gives.1))
        have notFirst : ¬ Gives first setting value := fun found => differ found.1.symm
        simp [same, differ, notFirst]

/-- The first item that does not fit is reported. -/
theorem foldlM_accept_of_wrong (fits : ∀ item ∈ before, Fits item) (wrong : Wrong item report)
    (after : List Toml.Item) (overrides : Overrides) :
    (before ++ item :: after).foldlM accept overrides = .error report := by
  induction before generalizing overrides with
  | nil =>
    rw [List.nil_append, List.foldlM_cons, accept_of_wrong wrong]
    rfl
  | cons first others inductionHypothesis =>
    obtain ⟨setting, content, gives⟩ := fits first List.mem_cons_self
    rw [List.cons_append, List.foldlM_cons, accept_of_gives gives]
    exact inductionHypothesis (fun item member => fits item (List.mem_cons_of_mem first member)) _

/-- The items before the first wrong one fit. -/
theorem exists_first_wrong (misfit : ¬ ∀ item ∈ items, Fits item) :
    ∃ before item after report, items = before ++ item :: after ∧
      (∀ earlier ∈ before, Fits earlier) ∧ Wrong item report := by
  induction items with
  | nil => exact absurd (List.forall_mem_nil _) misfit
  | cons first others inductionHypothesis =>
    rcases fits_or_wrong first with fits | ⟨report, wrong⟩
    · have later : ¬ ∀ item ∈ others, Fits item := fun all =>
        misfit (List.forall_mem_cons.2 ⟨fits, all⟩)
      obtain ⟨before, item, after, report, rfl, allFit, wrong⟩ := inductionHypothesis later
      exact ⟨first :: before, item, after, report, rfl,
        List.forall_mem_cons.2 ⟨fits, allFit⟩, wrong⟩
    · exact ⟨[], first, others, report, rfl, List.forall_mem_nil _, wrong⟩

end Items

end Overrides

section Outcome

variable {run : TreeRun} {root : Path} {content : List UInt8} {document : Text}
  {items : List Toml.Item}

/-- Without a settings file all settings stand. -/
theorem load_of_missing
    (missing : run.tree.read run.working (Settings.filePath root) = .error .notFound) :
    (run.after (Overrides.load root)).1 = .ok none ∧
      (run.after (Settings.load root)).1 = .ok (Settings.standing root) := by
  rw [(Overrides.looks_load root).outcome run, (Settings.looks_load root).outcome run, missing]
  exact ⟨rfl, rfl⟩

theorem load_of_document
    (found : run.tree.read run.working (Settings.filePath root) = .ok content)
    (decoded : Text.decode? content = some document) :
    (run.after (Overrides.load root)).1 =
        ((Overrides.parse document).mapError (.malformed (Settings.filePath root))).map some ∧
      (run.after (Settings.load root)).1 =
        ((Overrides.parse document).mapError (.malformed (Settings.filePath root))).map
          (Settings.standing root).apply := by
  have read : strictFrom (Settings.filePath root) (.ok content) = .ok (some document) :=
    strictFrom_eq_some_iff.2 ⟨content, rfl, decoded⟩
  rw [(Overrides.looks_load root).outcome run, (Settings.looks_load root).outcome run, found,
    Settings.loadFrom, Overrides.loadFrom, read]
  dsimp only [Except.bind, Overrides.ofDocument?]
  cases Overrides.parse document with
  | error reason => exact ⟨rfl, rfl⟩
  | ok overrides => exact ⟨rfl, rfl⟩

namespace Overrides

theorem parse_of_items (isItems : Toml.items? document = some items) :
    parse document = items.foldlM accept empty := by
  rw [parse, isItems]

theorem load_of_fits
    (found : run.tree.read run.working (Settings.filePath root) = .ok content)
    (decoded : Text.decode? content = some document)
    (isItems : Toml.items? document = some items) (fits : ∀ item ∈ items, Fits item) :
    ∃ overrides, (run.after (load root)).1 = .ok (some overrides) ∧
      (run.after (Settings.load root)).1 = .ok ((Settings.standing root).apply overrides) ∧
      ∀ setting value, overrides.value? setting = some value ↔
        ∃ item ∈ items, Gives item setting value := by
  obtain ⟨final, ends, values⟩ :=
    foldlM_accept_of_fits (Toml.nodup_names_items isItems) fits empty
  obtain ⟨overridden, loaded⟩ := load_of_document found decoded
  rw [parse_of_items isItems, ends] at overridden loaded
  refine ⟨final, overridden, loaded, fun setting value => ?_⟩
  rw [values, value?_empty]
  simp

/-- Both loaders report the first item that does not fit. -/
theorem load_of_misfit
    (found : run.tree.read run.working (Settings.filePath root) = .ok content)
    (decoded : Text.decode? content = some document)
    (isItems : Toml.items? document = some items) (misfit : ¬ ∀ item ∈ items, Fits item) :
    ∃ before item after report, items = before ++ item :: after ∧
      (∀ earlier ∈ before, Fits earlier) ∧ Wrong item report ∧
      (run.after (load root)).1 = .error (.malformed (Settings.filePath root) report) ∧
      (run.after (Settings.load root)).1 = .error (.malformed (Settings.filePath root) report) := by
  obtain ⟨before, item, after, report, split, fits, wrong⟩ := exists_first_wrong misfit
  have ends := foldlM_accept_of_wrong fits wrong after empty
  obtain ⟨overridden, loaded⟩ := load_of_document found decoded
  rw [parse_of_items isItems, split, ends] at overridden loaded
  exact ⟨before, item, after, report, split, fits, wrong, overridden, loaded⟩

/-- A missing settings file overrides nothing. One that is there overrides what its items give if
all of them fit, and is refused for the first one that does not. The items are the keys of the
root where they stand in the document, and their strings are those that it assigns there. -/
theorem load_fits_or_wrong (run : TreeRun) (root : Path) :
    let path := Settings.filePath root
    let overridden := (run.after (Overrides.load root)).1
    let loaded := (run.after (Settings.load root)).1
    (run.tree.read run.working path = .error .notFound →
        overridden = .ok none ∧ loaded = .ok (Settings.standing root)) ∧
      ∀ content document items, run.tree.read run.working path = .ok content →
        Text.decode? content = some document → Toml.items? document = some items →
        (∃ read, Toml.statements document = some read ∧
            items = (Toml.standing (Toml.mentions read)).map (Toml.Mention.item document) ∧
            ∀ name, name ∈ items.map Toml.Item.name ↔
              name ∈ (Toml.mentions read).map Toml.Mention.name) ∧
          (∀ item ∈ items, ∀ value, item.value = .string value → item.Assigned document value) ∧
          ((∃ overrides, overridden = .ok (some overrides)) ↔ ∀ item ∈ items, Fits item) ∧
          (∀ overrides, overridden = .ok (some overrides) →
            (∀ setting value, overrides.value? setting = some value ↔
              ∃ item ∈ items, Gives item setting value) ∧
            ∃ settings, loaded = .ok settings ∧ settings.root = root ∧
              ∀ setting, settings.value setting =
                ((overrides.value? setting).map setting.kept).getD
                  ((Settings.standing root).value setting)) ∧
          ((¬ ∀ item ∈ items, Fits item) →
            ∃ before item after report, items = before ++ item :: after ∧
              (∀ earlier ∈ before, Fits earlier) ∧ Wrong item report ∧
              overridden = .error (.malformed path report) ∧
              loaded = .error (.malformed path report)) := by
  intro path overridden loaded
  refine ⟨load_of_missing, fun content document items found decoded isItems => ?_⟩
  have accepts : (∃ overrides, overridden = .ok (some overrides)) → ∀ item ∈ items, Fits item := by
    rintro ⟨overrides, accepted⟩
    by_contra misfit
    obtain ⟨_, _, _, _, _, _, _, refused, _⟩ := load_of_misfit found decoded isItems misfit
    cases accepted.symm.trans refused
  refine ⟨?_, fun _ member _ => Toml.assigned_of_items? isItems member,
    ⟨accepts, fun fits => ?_⟩, fun overrides accepted => ?_,
    load_of_misfit found decoded isItems⟩
  · obtain ⟨read, isRead, same⟩ := Toml.items?_eq_some isItems
    refine ⟨read, isRead, same, fun name => ?_⟩
    rw [same, List.map_map]
    exact Toml.mem_names_standing
  · obtain ⟨final, ends, _⟩ := load_of_fits found decoded isItems fits
    exact ⟨final, ends⟩
  · obtain ⟨final, ends, isLoaded, values⟩ :=
      load_of_fits found decoded isItems (accepts ⟨overrides, accepted⟩)
    obtain rfl : overrides = final := by
      have same := accepted.symm.trans ends
      exact Option.some.inj (Except.ok.inj same)
    exact ⟨values, _, isLoaded, rfl, value_apply (Settings.standing root) overrides⟩

end Overrides

end Outcome

/-! ## Two settings files -/

def settingsRun (document : String) : TreeRun :=
  .start (FileTree.empty.arrangeFile [] "/p/scripts/scripts.toml".toList
    (Text.encode document.toList)) []

theorem read_settingsRun (document : String) :
    (settingsRun document).tree.read (settingsRun document).working
        (Settings.filePath "/p".toList) = .ok (Text.encode document.toList) :=
  rfl

/-- Two settings: one string has an escape, the other one begins on the next line. -/
def forkDocument : String :=
  "repository_url = \"https://example.com/\\u0074ree/\"\n'source_dir' = '''\ncompiler''' # src\n"

def forkUrl : Toml.Item :=
  ⟨"repository_url".toList, .string "https://example.com/tree/".toList, ⟨1, 0⟩, ⟨1, 17⟩⟩

def forkSource : Toml.Item :=
  ⟨"source_dir".toList, .string "compiler".toList, ⟨2, 0⟩, ⟨2, 15⟩⟩

theorem items?_forkDocument : Toml.items? forkDocument.toList = some [forkUrl, forkSource] := by
  decide +kernel

/-- The table `a` has a header of its own, which comes after a header that leads through it. -/
def lateHeader : String := "[a.b]\n[c]\n[a]\n"

def headerItem (name : Text) (line : Nat) : Toml.Item :=
  ⟨name, .other .map, ⟨line, 1⟩, ⟨line, 0⟩⟩

theorem items?_lateHeader :
    Toml.items? lateHeader.toList = some [headerItem ['c'] 2, headerItem ['a'] 3] := by
  decide +kernel

namespace Overrides

/-- A missing file, a file that fits, and one that does not. -/
theorem load_fits_or_wrong_settingsRun :
    ((TreeRun.start FileTree.empty []).after (Settings.load "/p".toList)).1 =
        .ok (Settings.standing "/p".toList) ∧
      (∃ settings, ((settingsRun forkDocument).after (Settings.load "/p".toList)).1 =
          .ok settings ∧
        settings.value .sourceDirectory = "compiler".toList ∧
        settings.value .repositoryUrl = "https://example.com/tree".toList) ∧
      ∃ item report, Wrong item report ∧
        ((settingsRun lateHeader).after (Settings.load "/p".toList)).1 =
          .error (.malformed (Settings.filePath "/p".toList) report) := by
  have missing : (TreeRun.start FileTree.empty []).tree.read [] (Settings.filePath "/p".toList) =
      .error .notFound := by decide +kernel
  have decodedFork : Text.decode? (Text.encode forkDocument.toList) = some forkDocument.toList := by
    decide +kernel
  have decodedLate : Text.decode? (Text.encode lateHeader.toList) = some lateHeader.toList := by
    decide +kernel
  refine ⟨((load_fits_or_wrong _ _).1 missing).2, ?_, ?_⟩
  · have ends := (load_fits_or_wrong _ _).2 _ _ _ (read_settingsRun forkDocument) decodedFork
      items?_forkDocument
    obtain ⟨_, _, accepts, values, _⟩ := ends
    have url : Gives forkUrl .repositoryUrl "https://example.com/tree/".toList := ⟨rfl, rfl⟩
    have source : Gives forkSource .sourceDirectory "compiler".toList := ⟨rfl, rfl⟩
    have fits : ∀ item ∈ [forkUrl, forkSource], Fits item := by
      simpa using ⟨⟨_, _, url⟩, ⟨_, _, source⟩⟩
    obtain ⟨overrides, accepted⟩ := accepts.2 fits
    obtain ⟨given, settings, loaded, _, kept⟩ := values overrides accepted
    refine ⟨settings, loaded, ?_, ?_⟩
    · rw [kept, (given _ _).2 ⟨_, by simp, source⟩]
      rfl
    · rw [kept, (given _ _).2 ⟨_, by simp, url⟩]
      decide +kernel
  · obtain ⟨_, _, _, _, refuses⟩ := (load_fits_or_wrong _ _).2 _ _ _
      (read_settingsRun lateHeader) decodedLate items?_lateHeader
    have misfit : ¬ ∀ item ∈ [headerItem ['c'] 2, headerItem ['a'] 3], Fits item := by
      intro fits
      obtain ⟨_, _, _, isString⟩ := fits _ List.mem_cons_self
      cases isString
    obtain ⟨_, item, _, report, _, _, wrong, _, refused⟩ := refuses misfit
    exact ⟨item, report, wrong, refused⟩

/-- The table that is mentioned first is not the one that is reported. -/
theorem load_lateHeader :
    (Toml.statements lateHeader.toList).map
          (fun read => (Toml.mentions read).map (Toml.Mention.item lateHeader.toList)) =
        some [⟨['a'], .other .map, ⟨1, 1⟩, ⟨1, 1⟩⟩, headerItem ['c'] 2, headerItem ['a'] 3] ∧
      Wrong ⟨['a'], .other .map, ⟨1, 1⟩, ⟨1, 1⟩⟩ (wrongAt ⟨1, 1⟩ (unknownKey ['a'])) ∧
      ((settingsRun lateHeader).after (Overrides.load "/p".toList)).1 =
        .error (.malformed (Settings.filePath "/p".toList) (wrongAt ⟨2, 1⟩ (unknownKey ['c']))) ∧
      ((settingsRun lateHeader).after (Overrides.load "/p".toList)).1 ≠
        .error (.malformed (Settings.filePath "/p".toList) (wrongAt ⟨1, 1⟩ (unknownKey ['a']))) := by
  have decoded : Text.decode? (Text.encode lateHeader.toList) = some lateHeader.toList := by
    decide +kernel
  have unlisted : ∀ setting : Setting, ['c'] ≠ setting.key := by
    intro setting
    cases setting <;> decide
  have unlistedFirst : ∀ setting : Setting, ['a'] ≠ setting.key := by
    intro setting
    cases setting <;> decide
  have wrong : Wrong (headerItem ['c'] 2) (wrongAt ⟨2, 1⟩ (unknownKey ['c'])) := .unknown unlisted
  have ends := foldlM_accept_of_wrong (List.forall_mem_nil _) wrong [headerItem ['a'] 3] empty
  obtain ⟨overridden, _⟩ := load_of_document (read_settingsRun lateHeader) decoded
  rw [List.nil_append] at ends
  rw [parse_of_items items?_lateHeader, ends] at overridden
  refine ⟨by decide +kernel, .unknown unlistedFirst, overridden, ?_⟩
  rw [overridden]
  decide +kernel

end Overrides

end SourceCatalog
