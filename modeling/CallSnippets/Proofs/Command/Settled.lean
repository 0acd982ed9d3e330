import CallSnippets.Proofs.Command.Batch
import CallSnippets.Proofs.Settings.Fields

/-!
# What a run goes by

A run of the command for a whole file is told its languages and its directory by the command line, by the
environment or by the file of settings, or by none of them. The command line comes first and the file last.
But settings are loaded before the command line has its say, and all their fields are: a value that is not
valid ends the run, even if the command line would have replaced what it stands for. Only the environment
keeps a value of the file from being looked at.

## Main definitions

* `BatchWords.HasEntries`: The entries that the settings of a run are read from.
* `BatchSettled`: Everything that is known of what a run goes by.

## Theorems

* `BatchWords.HasEntries.loadSettings_eq`: Settings are what the entries come to.
* `runOn_settled`: What runs go by.
-/

namespace CallSnippets

open FileTree

variable {env : Environment} {words words' : List Text} {t t' : FileTree}
  {entries entries' : List (Value × Value)} {v : Value}

/-- The entries that the settings of a run are read from, all of which have texts for keys. -/
structure BatchWords.HasEntries (b : BatchWords words t) (entries : List (Value × Value)) : Prop where
  /-- They are the entries of the file, or there are none. -/
  source : EntriesAt t ((b.outer.value? .config).map Path.ofText) entries
  /-- Their keys are texts. -/
  named : (entries.all fun e => isTextKey e.1) = true

/-- Everything that is known of what a run goes by in an environment, where settings are read from
    entries. -/
structure BatchSettled (b : BatchWords words t) (env : Environment)
    (entries : List (Value × Value)) : Prop where
  /-- The settings load exactly if the values of all fields are valid. -/
  loads : (∃ settings, b.loadSettings env = .ok settings) ↔
    ∀ f v, SettingsField.value? env entries f = some v → f.Accepts v
  /-- What the file says of a field that the environment replaces has no part in this: the settings are the
      same for any other file that says the same of the other fields. -/
  replaced : ∀ (words' : List Text) (t' : FileTree) (b' : BatchWords words' t')
    (entries' : List (Value × Value)), b'.HasEntries entries' →
      (∀ f : SettingsField, f.override? env = none →
        Value.lookup f.name entries' = Value.lookup f.name entries) →
      b'.loadSettings env = b.loadSettings env
  /-- A value that is not valid ends the run with the code 2, and nothing is written. -/
  refused : ∀ f v, SettingsField.value? env entries f = some v → ¬f.Accepts v →
    ∃ issues, runOn env words t = (.refused (.invalidSettings issues), t) ∧
      (runOn env words t).1.exitCode = 2
  /-- So does a list of languages with nothing but blanks and commas in it. -/
  blank : ∀ text, env.get? languagesVariable = some text →
    (∀ c ∈ text, c = CodePoint.char ',' ∨ Text.isBlank c = true) →
    ∃ issues, runOn env words t = (.refused (.invalidSettings issues), t) ∧
      (runOn env words t).1.exitCode = 2
  /-- A run that gets further has its languages from the first of their sources that has some. -/
  languages : ∀ b' : BatchStart env words t,
    LanguagesFrom b'.options.languages env entries b'.languages
  /-- It has its directory from the first of its sources that has one. -/
  output : ∀ b' : BatchStart env words t, OutputFrom b'.options.output? env entries b'.output
  /-- Snippets are made in these languages and written below this directory. -/
  used : ∀ call : BatchCall env words t,
    List.Forall₂ IsItem (pairs call.requests call.languages) call.items ∧
      StoredAll call.options.append call.output t call.items call.stored.1.1 call.stored.1.2
        (runOn env words t).2

/-- Settings are what the entries come to. -/
theorem BatchWords.HasEntries.loadSettings_eq {b : BatchWords words t} (h : b.HasEntries entries)
    (env : Environment) : b.loadSettings env = settingsOf env entries := by
  have hentries : b.settingsEntries t = .ok entries := loadSettingsEntries_eq_ok.mpr h.source
  rw [b.loadSettings_eq, hentries, ok_bind]

/-- What is said before the name of the command is the same for all readings of the words. -/
theorem BatchWords.outer_eq (b b' : BatchWords words t) : b.outer = b'.outer :=
  Except.ok.inj (b.opened.symm.trans b'.opened)

/-- A run that gets further goes by the same entries. -/
theorem BatchWords.HasEntries.start {b : BatchWords words t} (h : b.HasEntries entries)
    (b' : BatchStart env words t) : settingsOf env entries = .ok b'.settings := by
  have hentries : b'.toBatchWords.HasEntries entries := by
    refine ⟨?_, h.named⟩
    rw [b'.toBatchWords.outer_eq b]
    exact h.source
  rw [← hentries.loadSettings_eq, b'.settled]

/-- A value that is not valid ends the run. -/
theorem BatchWords.HasEntries.refused {b : BatchWords words t} (h : b.HasEntries entries)
    {f : SettingsField} (hv : f.value? env entries = some v) (hinvalid : ¬f.Accepts v) :
    ∃ issues, runOn env words t = (.refused (.invalidSettings issues), t) ∧
      (runOn env words t).1.exitCode = 2 := by
  rcases settingsOf_eq_error h.named hv hinvalid with ⟨issues, hissues⟩
  have hrun : runOn env words t = (.refused (.invalidSettings issues), t) := by
    rw [b.run_eq env, h.loadSettings_eq, hissues]
    rfl
  exact ⟨issues, hrun, by rw [hrun]; rfl⟩

/-- What runs go by. -/
theorem runOn_settled (b : BatchWords words t) (env : Environment) (h : b.HasEntries entries) :
    BatchSettled b env entries := by
  constructor
  case loads =>
    rw [h.loadSettings_eq]
    exact exists_settings h.named
  case replaced =>
    intro words' t' b' entries' h' hsame
    rw [h.loadSettings_eq, h'.loadSettings_eq]
    exact settingsOf_congr h.named h'.named hsame
  case refused => exact fun f v hv hinvalid => h.refused hv hinvalid
  case blank =>
    intro text htext hblank
    have hv : SettingsField.languages.value? env entries = some (.list ((languageList text).map .text)) := by
      rw [SettingsField.value?, SettingsField.override?, htext]
      rfl
    exact h.refused hv fun hvalid => accepts_languageList.mp hvalid (languageList_eq_nil.mpr hblank)
  case languages => exact fun b' => languagesFrom_settings (h.start b') b'.options.languages
  case output => exact fun b' => outputFrom_settings (h.start b') b'.options.output?
  case used => exact fun call => ⟨call.forall₂_items, call.storedAll⟩

/-- A file of settings that gives a number for the languages, and names a directory to write below. -/
def overriddenTree : FileTree :=
  filesTree [("c.yaml", "languages: 7\noutput_dir: docs\n"), ("d.yaml", "requests: []\n")]

/-- A run that goes by the file. -/
def overriddenWords : List Text :=
  ["--config", "c.yaml", "batch", "d.yaml"]

/-- An environment that lists languages, with an empty place between two of them. -/
def overridingEnvironment : Environment :=
  [(languagesVariable, " js ,, JavaScript")]

/-- The call that the run is. -/
def overriddenCall : { call : BatchCall overridingEnvironment overriddenWords overriddenTree //
    call.languages = [Text.ofString "js", Text.ofString "JavaScript"] ∧
    call.output = Path.ofText "docs" ∧
    ∃ entries ∈ (call.settingsEntries overriddenTree).toOption,
      (entries.all fun e => isTextKey e.1) = true ∧
        ∃ v ∈ Value.lookup "languages" entries, v.items?.isNone = true } :=
  ⟨(batchCall? overridingEnvironment overriddenWords overriddenTree).get (by decide +kernel),
    by decide +kernel⟩

/-- The number does no harm where the environment lists languages, and the directory is that of the file. -/
theorem runOn_settled_overridden : ∃ entries, overriddenCall.val.HasEntries entries ∧
    (∃ v, Value.lookup "languages" entries = some v ∧ ¬SettingsField.languages.Accepts v) ∧
    BatchSettled overriddenCall.val.toBatchWords overridingEnvironment entries ∧
    overriddenCall.val.languages = ["js", "JavaScript"] ∧
    overriddenCall.val.output = Path.ofText "docs" := by
  rcases overriddenCall with ⟨call, hlanguages, houtput, entries, hentries, hnamed, v, hv, hitems⟩
  have hhas : call.toBatchWords.HasEntries entries :=
    ⟨loadSettingsEntries_eq_ok.mp (eq_ok_of_toOption hentries), hnamed⟩
  refine ⟨entries, hhas, ⟨v, hv, ?_⟩, runOn_settled call.toBatchWords overridingEnvironment hhas,
    hlanguages, houtput⟩
  rintro ⟨items, _, hsome, _⟩
  rw [hsome] at hitems
  cases hitems

end CallSnippets
