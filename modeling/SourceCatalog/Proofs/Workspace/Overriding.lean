import SourceCatalog.Proofs.Text.Cutting
import SourceCatalog.Proofs.Workspace.SettingsFile
import SourceCatalog.Readme.Page

/-!
# Settings overridden again and again

Any number of overrides may be applied one after the other. Main statement: each setting has the
value that was given to it last, whatever the others were given, and a sequence of overrides does
what one does that is merged from them. The repository's address loses its final slashes, which no
link shows.
-/

namespace SourceCatalog

namespace Overrides

def merge (first second : Overrides) : Overrides where
  keywordFile := second.keywordFile.or first.keywordFile
  sourceDirectory := second.sourceDirectory.or first.sourceDirectory
  descriptionsFile := second.descriptionsFile.or first.descriptionsFile
  readmeName := second.readmeName.or first.readmeName
  repositoryUrl := second.repositoryUrl.or first.repositoryUrl

/-- The last overrides of a sequence that have a value for a setting have this one. -/
def LastGives (sequence : List Overrides) (setting : Setting) (value : Text) : Prop :=
  ∃ before overrides after, sequence = before ++ overrides :: after ∧
    overrides.value? setting = some value ∧ ∀ later ∈ after, later.value? setting = none

theorem value?_merge (first second : Overrides) (setting : Setting) :
    (first.merge second).value? setting = (second.value? setting).or (first.value? setting) := by
  cases setting <;> rfl

theorem value?_foldl_merge_of_unset {sequence : List Overrides} {setting : Setting}
    (unset : ∀ overrides ∈ sequence, overrides.value? setting = none) (initial : Overrides) :
    (sequence.foldl merge initial).value? setting = initial.value? setting := by
  induction sequence generalizing initial with
  | nil => rfl
  | cons first others inductionHypothesis =>
    obtain ⟨firstUnset, othersUnset⟩ := List.forall_mem_cons.1 unset
    rw [List.foldl_cons, inductionHypothesis othersUnset, value?_merge, firstUnset, Option.none_or]

theorem value?_foldl_merge_of_lastGives {sequence : List Overrides} {setting : Setting}
    {value : Text} (gives : LastGives sequence setting value) (initial : Overrides) :
    (sequence.foldl merge initial).value? setting = some value := by
  obtain ⟨before, overrides, after, rfl, given, later⟩ := gives
  -- Whatever the overrides before this one have given, it is covered, and nothing covers this one.
  rw [List.foldl_append, List.foldl_cons, value?_foldl_merge_of_unset later, value?_merge, given,
    Option.some_or]

end Overrides

open Overrides (LastGives)

namespace Settings

/-- Overriding twice is overriding once with both. -/
theorem apply_apply (settings : Settings) (first second : Overrides) :
    (settings.apply first).apply second = settings.apply (first.merge second) := by
  simp only [apply, Overrides.merge, Option.map_or, Option.getD_or]

theorem apply_empty (settings : Settings) : settings.apply .empty = settings :=
  rfl

/-- A sequence of overrides does what one does that is merged from them. -/
theorem foldl_apply (settings : Settings) (sequence : List Overrides) (initial : Overrides) :
    sequence.foldl apply (settings.apply initial) =
      settings.apply (sequence.foldl Overrides.merge initial) := by
  induction sequence generalizing initial with
  | nil => rfl
  | cons first others inductionHypothesis =>
    rw [List.foldl_cons, List.foldl_cons, apply_apply, inductionHypothesis]

theorem value_foldl_apply (settings : Settings) (sequence : List Overrides) (setting : Setting) :
    (sequence.foldl apply settings).value setting =
      (((sequence.foldl Overrides.merge .empty).value? setting).map setting.kept).getD
        (settings.value setting) := by
  rw [← Overrides.value_apply, ← foldl_apply, apply_empty]

/-- The last value of a setting is the one that is kept. -/
theorem value_of_lastGives {settings : Settings} {sequence : List Overrides} {setting : Setting}
    {value : Text} (gives : LastGives sequence setting value) :
    (sequence.foldl apply settings).value setting = setting.kept value := by
  rw [value_foldl_apply, Overrides.value?_foldl_merge_of_lastGives gives, Option.map_some,
    Option.getD_some]

theorem kept_of_ne {setting : Setting} (different : setting ≠ .repositoryUrl) (value : Text) :
    setting.kept value = value := by
  cases setting with
  | repositoryUrl => exact absurd rfl different
  | _ => rfl

/-- No overrides bring a final slash into the repository's address. -/
theorem repositoryUrl_apply_open {settings : Settings}
    (isOpen : settings.repositoryUrl.getLast? ≠ some '/') (overrides : Overrides) :
    (settings.apply overrides).repositoryUrl.getLast? ≠ some '/' := by
  unfold apply
  cases overrides.repositoryUrl with
  | none => exact isOpen
  | some url => exact Text.getLast?_dropFinal_ne '/' url

theorem repositoryUrl_foldl_open {settings : Settings}
    (isOpen : settings.repositoryUrl.getLast? ≠ some '/') (sequence : List Overrides) :
    (sequence.foldl apply settings).repositoryUrl.getLast? ≠ some '/' := by
  induction sequence generalizing settings with
  | nil => exact isOpen
  | cons first others inductionHypothesis =>
    exact inductionHypothesis (repositoryUrl_apply_open isOpen first)

end Settings

namespace Readme

/-- Slashes at the end of the address do not show in a link. -/
theorem entryUrl_dropFinal (url directory entry : Text) :
    entryUrl (Text.dropFinal '/' url) directory entry = entryUrl url directory entry := by
  unfold entryUrl
  rw [Text.dropFinal_dropFinal]

theorem compose_dropFinal (name description : Text) (entries : List Entry) (url : Text) :
    compose name description entries (Text.dropFinal '/' url) =
      compose name description entries url := by
  unfold compose bullet
  simp only [entryUrl_dropFinal]

end Readme

namespace Settings

/-- Settings that are overridden in turn have for each setting the value that was given last, or
the standing one. The repository's address is kept without its final slashes, which changes no link
and no readme. -/
theorem value_overridden (root : Path) (sequence : List Overrides) :
    let settings := sequence.foldl apply (standing root)
    settings.root = root ∧
      (∀ setting, (∀ overrides ∈ sequence, overrides.value? setting = none) →
        settings.value setting = (standing root).value setting) ∧
      (∀ setting value, setting ≠ .repositoryUrl → LastGives sequence setting value →
        settings.value setting = value) ∧
      (∀ url, LastGives sequence .repositoryUrl url →
        (∃ count, url = settings.repositoryUrl ++ List.replicate count '/') ∧
        (∀ directory entry, Readme.entryUrl settings.repositoryUrl directory entry =
          Readme.entryUrl url directory entry) ∧
        ∀ name description entries,
          Readme.compose name description entries settings.repositoryUrl =
            Readme.compose name description entries url) ∧
      settings.repositoryUrl.getLast? ≠ some '/' ∧
      ∀ (earlier : Settings) (first second : Overrides),
        (earlier.apply first).apply second = earlier.apply (first.merge second) := by
  intro settings
  have rootKept : settings.root = root := by
    have merged := foldl_apply (standing root) sequence .empty
    rw [apply_empty] at merged
    exact congrArg Settings.root merged
  have standingOpen : (standing root).repositoryUrl.getLast? ≠ some '/' := by
    change (standing []).repositoryUrl.getLast? ≠ some '/'
    decide
  refine ⟨rootKept, ?_, ?_, ?_, repositoryUrl_foldl_open standingOpen sequence, apply_apply⟩
  · intro setting unset
    rw [value_foldl_apply, Overrides.value?_foldl_merge_of_unset unset, Overrides.value?_empty]
    rfl
  · intro setting value different gives
    rw [value_of_lastGives gives, kept_of_ne different]
  · intro url gives
    have kept : settings.repositoryUrl = Text.dropFinal '/' url := value_of_lastGives gives
    rw [kept]
    exact ⟨Text.exists_eq_dropFinal_append '/' url, Readme.entryUrl_dropFinal url,
      fun name description entries => Readme.compose_dropFinal name description entries url⟩

/-- Three overrides: the second one has the last address, the third one the last directory. -/
def threeOverrides : List Overrides :=
  [{ Overrides.empty with
      sourceDirectory := some "lib".toList, repositoryUrl := some "https://example.com/a".toList },
    { Overrides.empty with
      readmeName := some [], repositoryUrl := some "https://example.com/b//".toList },
    { Overrides.empty with sourceDirectory := some "code".toList }]

theorem value_overridden_threeOverrides :
    let settings := threeOverrides.foldl apply (standing ['/'])
    settings.root = ['/'] ∧
      settings.value .keywordFile = "src/compiler/typesharp_ast/keyword.rs".toList ∧
      settings.value .sourceDirectory = "code".toList ∧
      settings.value .readmeName = [] ∧
      (∃ count, "https://example.com/b//".toList =
        settings.repositoryUrl ++ List.replicate count '/') ∧
      settings.repositoryUrl.getLast? ≠ some '/' ∧
      Readme.entryUrl settings.repositoryUrl ['d'] ['e'] =
        Readme.entryUrl "https://example.com/b//".toList ['d'] ['e'] := by
  intro settings
  obtain ⟨rootKept, unset, given, address, isOpen, _⟩ := value_overridden ['/'] threeOverrides
  have directory : LastGives threeOverrides .sourceDirectory "code".toList :=
    ⟨[_, _], _, [], rfl, rfl, List.forall_mem_nil _⟩
  have name : LastGives threeOverrides .readmeName [] :=
    ⟨[_], _, [_], rfl, rfl, by decide⟩
  have url : LastGives threeOverrides .repositoryUrl "https://example.com/b//".toList :=
    ⟨[_], _, [_], rfl, rfl, by decide⟩
  obtain ⟨trimmed, link, _⟩ := address _ url
  exact ⟨rootKept, unset .keywordFile (by decide), given _ _ (by decide) directory,
    given _ _ (by decide) name, trimmed, isOpen, link ['d'] ['e']⟩

end Settings

end SourceCatalog
