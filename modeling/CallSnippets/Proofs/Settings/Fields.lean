import CallSnippets.Proofs.Request.Fields
import CallSnippets.Proofs.Settings.Loaded
import CallSnippets.Proofs.Text.Upper
import Mathlib.Data.List.TakeWhile

/-!
# Fields of settings and their sources

Each field of settings is read from one value: what the environment says of it, or else the entry of the
file. Whether settings load depends on these values alone, one by one. So what the file says of a field that
the environment has the last word on is not looked at, be it valid or not, and nothing else makes up for a
value that is looked at and is not valid.

The environment lists languages in a text. There is at least one in it unless it has nothing but blanks and
commas; then the field is not valid, and this does not fall back on the file.

## Main definitions

* `SettingsField`: The fields.
* `SettingsField.override?`, `SettingsField.value?`: What the environment says, and the value of a field.
* `SettingsField.Accepts`: A value is valid for a field.
* `LanguagesFrom`, `OutputFrom`: The sources of the languages and of the directory to write below.

## Theorems

* `lookup_withEnvironment`: A field is read from its value.
* `exists_settings`: Settings load exactly if all values are valid.
* `settingsOf_congr`: Settings go by the values alone.
* `languageList_eq_nil`: Lists in which there is no language.
* `languagesFrom_settings`, `outputFrom_settings`: The sources of settings that load.
-/

namespace CallSnippets

/-- The fields of settings. -/
inductive SettingsField where
  | languages
  | outputDirectory
  | workers
  | check
  deriving DecidableEq, Repr

namespace SettingsField

/-- The name that a field has in a file. -/
def name : SettingsField → Text
  | languages => "languages"
  | outputDirectory => "output_dir"
  | workers => "max_workers"
  | check => "check"

/-- What the environment says of a field, if it says something. -/
def override? (env : Environment) : SettingsField → Option Value
  | languages => (env.get? languagesVariable).map fun t => .list ((languageList t).map .text)
  | outputDirectory => (env.get? outputVariable).map .text
  | workers => none
  | check => none

/-- The value of a field: what the environment says of it, else the entry of the file. -/
def value? (env : Environment) (entries : List (Value × Value)) (f : SettingsField) : Option Value :=
  (f.override? env).or (Value.lookup f.name entries)

/-- A value is valid for a field: texts, of which there is at least one; a text; a whole number from one on;
    and what stands for a truth value. -/
def Accepts : SettingsField → Value → Prop
  | languages, v => ∃ items languages, v.items? = some items ∧ items ≠ [] ∧
      List.Forall₂ (fun item language => readText item = .ok language) items languages
  | outputDirectory, v => ∃ t, v = .text t
  | workers, v => ∃ n, readWhole v = .ok n ∧ 1 ≤ n
  | check, v => ∃ b, readTruth v = .ok b

end SettingsField

variable {env : Environment} {entries entries' : List (Value × Value)} {settings : Settings} {v : Value}
  {t : Text} {languages : List Text} {p : Path} {n : Int}

/-! ## Values -/

theorem readLanguages_eq_ok : readLanguages v = .ok languages ↔ ∃ items, v.items? = some items ∧
    items ≠ [] ∧ List.Forall₂ (fun item language => readText item = .ok language) items languages := by
  rw [readLanguages]
  split
  · rename_i hnone
    simp only [Reading.fail, hnone, reduceCtorEq, false_and, exists_false]
  · rename_i hnil
    simp only [Reading.fail, hnil, Option.some.injEq, exists_eq_left', ne_eq, not_true_eq_false, false_and,
      reduceCtorEq]
  · rename_i items hne hitems
    have hsome : items ≠ [] := hne
    simp only [Reading.items_eq_ok, hitems, Option.some.injEq, exists_eq_left', hsome, ne_eq,
      not_false_eq_true, true_and]

theorem readPath_eq_ok : readPath v = .ok p ↔ ∃ t, v = .text t ∧ Path.ofText t = p := by
  cases v <;> simp [readPath, Reading.fail]

theorem readWorkers_eq_ok : readWorkers v = .ok n ↔ readWhole v = .ok n ∧ 1 ≤ n := by
  rw [readWorkers, bind_eq_ok]
  constructor
  · rintro ⟨m, hm, hread⟩
    split at hread
    · cases hread
    · rename_i hsmall
      cases hread
      exact ⟨hm, Int.not_lt.mp hsmall⟩
  · rintro ⟨hn, hsize⟩
    exact ⟨n, hn, if_neg (Int.not_lt.mpr hsize)⟩

theorem accepts_languages :
    SettingsField.languages.Accepts v ↔ ∃ languages, readLanguages v = .ok languages := by
  simp only [SettingsField.Accepts, readLanguages_eq_ok]
  exact exists_comm

theorem accepts_outputDirectory :
    SettingsField.outputDirectory.Accepts v ↔ ∃ p, readPath v = .ok p := by
  simp only [SettingsField.Accepts, readPath_eq_ok]
  exact ⟨fun ⟨t, ht⟩ => ⟨_, t, ht, rfl⟩, fun ⟨_, t, ht, _⟩ => ⟨t, ht⟩⟩

theorem accepts_workers : SettingsField.workers.Accepts v ↔ ∃ n, readWorkers v = .ok n := by
  simp only [SettingsField.Accepts, readWorkers_eq_ok]

/-- A field can be read if its entry is valid, should it have one. -/
theorem exists_field {α : Type} {f : SettingsField} {read : Value → Reading α} (otherwise : α)
    (haccepts : ∀ v, f.Accepts v ↔ ∃ a, read v = .ok a) :
    (∃ a, Reading.optional f.name otherwise read entries = .ok a) ↔
      ∀ v, Value.lookup f.name entries = some v → f.Accepts v := by
  rw [Reading.optional]
  cases Value.lookup f.name entries with
  | none => simp only [Except.ok.injEq, exists_eq', reduceCtorEq, false_imp_iff, implies_true]
  | some v => simp only [Reading.under_eq_ok, Option.some.injEq, forall_eq', haccepts]

/-- What is found after the environment had its say on a field. -/
theorem lookup_override (name key : Text) (value : Option Value) (entries : List (Value × Value)) :
    Value.lookup name (override key value entries) =
      if name = key then value.or (Value.lookup name entries) else Value.lookup name entries := by
  cases value with
  | none => rw [override, Option.none_or, ite_self]
  | some v => rw [override, lookup_insertEntry, Option.some_or]

/-- A field is read from its value. -/
theorem lookup_withEnvironment (f : SettingsField) :
    Value.lookup f.name (withEnvironment env entries) = f.value? env entries := by
  rw [withEnvironment, lookup_override, lookup_override]
  cases f <;> rfl

/-- A field that could be read was read from its value, or has the value that it has without one. -/
theorem value?_cases {α : Type} {f : SettingsField} {otherwise a : α} {read : Value → Reading α}
    (h : Reading.optional f.name otherwise read (withEnvironment env entries) = .ok a) :
    f.value? env entries = none ∧ otherwise = a ∨ ∃ v, f.value? env entries = some v ∧ read v = .ok a := by
  rw [← lookup_withEnvironment]
  exact Reading.optional_eq_ok.mp h

/-- Settings can be read if each of their fields can. -/
theorem exists_readSettings : (∃ settings, readSettings entries = .ok settings) ↔
    ∀ f v, Value.lookup (SettingsField.name f) entries = some v → f.Accepts v := by
  simp only [readSettings_iff]
  constructor
  · rintro ⟨settings, hvalid⟩ f
    cases f with
    | languages => exact (exists_field _ fun _ => accepts_languages).mp ⟨_, hvalid.languages⟩
    | outputDirectory =>
        exact (exists_field _ fun _ => accepts_outputDirectory).mp ⟨_, hvalid.outputDirectory⟩
    | workers => exact (exists_field _ fun _ => accepts_workers).mp ⟨_, hvalid.workers⟩
    | check => exact (exists_field _ fun _ => Iff.rfl).mp ⟨_, hvalid.check⟩
  · -- The fields are read one by one, each from its own entry.
    intro h
    rcases (exists_field [Text.ofString "javascript"] fun _ => accepts_languages).mpr (h .languages) with
      ⟨languages, hlanguages⟩
    rcases (exists_field (Path.ofText "snippets") fun _ => accepts_outputDirectory).mpr
      (h .outputDirectory) with ⟨p, houtput⟩
    rcases (exists_field 4 fun _ => accepts_workers).mpr (h .workers) with ⟨n, hworkers⟩
    rcases (exists_field false fun _ => Iff.rfl).mpr (h .check) with ⟨b, hcheck⟩
    exact ⟨⟨languages, p, n, b⟩, hlanguages, houtput, hworkers, hcheck⟩

theorem readSettings_congr
    (h : ∀ f, Value.lookup (SettingsField.name f) entries = Value.lookup f.name entries') :
    readSettings entries = readSettings entries' := by
  have hlanguages : Value.lookup "languages" entries = Value.lookup "languages" entries' := h .languages
  have houtput : Value.lookup "output_dir" entries = Value.lookup "output_dir" entries' :=
    h .outputDirectory
  have hworkers : Value.lookup "max_workers" entries = Value.lookup "max_workers" entries' := h .workers
  have hcheck : Value.lookup "check" entries = Value.lookup "check" entries' := h .check
  rw [readSettings, readSettings, Reading.optional_congr hlanguages, Reading.optional_congr houtput,
    Reading.optional_congr hworkers, Reading.optional_congr hcheck]

/-! ## Settings -/

section

variable (hnamed : (entries.all fun e => isTextKey e.1) = true)

include hnamed

/-- Settings load exactly if the values of all fields are valid. -/
theorem exists_settings : (∃ settings, settingsOf env entries = .ok settings) ↔
    ∀ f v, SettingsField.value? env entries f = some v → f.Accepts v := by
  simp only [settingsOf_eq, hnamed, if_true, mapError_eq_ok, exists_readSettings, lookup_withEnvironment]

/-- A value that is not valid is told. -/
theorem settingsOf_eq_error {f : SettingsField} (hv : f.value? env entries = some v) (h : ¬f.Accepts v) :
    ∃ issues, settingsOf env entries = .error (.refusal (.invalidSettings issues)) := by
  cases hread : readSettings (withEnvironment env entries) with
  | ok settings =>
      have hload : settingsOf env entries = .ok settings := by
        rw [settingsOf_eq, if_pos hnamed, hread, mapError_ok]
      exact absurd ((exists_settings hnamed).mp ⟨settings, hload⟩ f v hv) h
  | error issues => exact ⟨issues, by rw [settingsOf_eq, if_pos hnamed, hread, mapError_error]⟩

/-- Settings go by the values alone, so what the environment replaces has no part in them. -/
theorem settingsOf_congr (hnamed' : (entries'.all fun e => isTextKey e.1) = true)
    (h : ∀ f : SettingsField, f.override? env = none →
      Value.lookup f.name entries' = Value.lookup f.name entries) :
    settingsOf env entries' = settingsOf env entries := by
  have hvalues : ∀ f : SettingsField, Value.lookup f.name (withEnvironment env entries') =
      Value.lookup f.name (withEnvironment env entries) := by
    intro f
    rw [lookup_withEnvironment, lookup_withEnvironment, SettingsField.value?, SettingsField.value?]
    cases hoverride : f.override? env with
    | some v => rfl
    | none => rw [h f hoverride]
  rw [settingsOf_eq, settingsOf_eq, if_pos hnamed, if_pos hnamed', readSettings_congr hvalues]

end

/-! ## Lists of languages -/

theorem trim_eq_nil_iff : Text.trim t = [] ↔ ∀ c ∈ t, Text.isBlank c = true := by
  rw [Text.trim, Text.trimEnd, List.reverse_eq_nil_iff, List.dropWhile_eq_nil_iff]
  simp only [List.mem_reverse]
  constructor
  · intro h
    -- The first character that is left of the start would not be blank, so none is left.
    have hstart : Text.trimStart t = [] := by
      cases hrest : Text.trimStart t with
      | nil => rfl
      | cons c rest =>
          have hc := h c (by rw [hrest]; exact List.mem_cons_self ..)
          rw [Text.head?_trimStart (by rw [hrest]; rfl)] at hc
          cases hc
    exact List.dropWhile_eq_nil_iff.mp hstart
  · exact fun h c hc => h c ((List.dropWhile_sublist _).subset hc)

/-- There is no language in a text of blanks and commas, and there is one in any other. -/
theorem languageList_eq_nil :
    languageList t = [] ↔ ∀ c ∈ t, c = CodePoint.char ',' ∨ Text.isBlank c = true := by
  have hempty : languageList t = [] ↔ ∀ piece ∈ Text.splitOn ',' t, ∀ c ∈ piece, Text.isBlank c = true := by
    simp only [languageList, List.filter_eq_nil_iff, List.mem_map, forall_exists_index, and_imp,
      forall_apply_eq_imp_iff₂, Bool.not_eq_true', Bool.not_eq_false, List.isEmpty_iff, trim_eq_nil_iff]
  rw [hempty]
  constructor
  · intro h c hc
    by_cases hcomma : c = CodePoint.char ','
    · exact .inl hcomma
    · rcases (mem_splitOn hcomma).mp hc with ⟨piece, hpiece, hmem⟩
      exact .inr (h piece hpiece c hmem)
  · intro h piece hpiece c hmem
    have hcomma : c ≠ CodePoint.char ',' := by
      rintro rfl
      exact not_mem_of_mem_splitOn hpiece hmem
    exact (h c ((mem_splitOn hcomma).mpr ⟨piece, hpiece, hmem⟩)).resolve_left hcomma

/-- A list from the environment is valid if there is a language in it. -/
theorem accepts_languageList : SettingsField.languages.Accepts (.list ((languageList t).map .text)) ↔
    languageList t ≠ [] := by
  constructor
  · rintro ⟨items, languages, hitems, hne, _⟩ hnil
    rw [hnil] at hitems
    exact hne (Option.some.inj hitems).symm
  · exact fun h => ⟨_, languageList t, rfl, fun hnil => h (List.map_eq_nil_iff.mp hnil),
      Reading.items_eq_ok.mp (Reading.items_text _)⟩

/-! ## Sources -/

/-- Where the languages come from, given those that the command line names: from there, from the
    environment, or from the file; and JavaScript is the language if none of them says so. -/
inductive LanguagesFrom (named : List Text) (env : Environment) (entries : List (Value × Value)) :
    List Text → Prop where
  /-- The command line names languages. -/
  | named (h : named ≠ []) : LanguagesFrom named env entries named
  /-- The environment lists them. -/
  | environment {t : Text} (hnamed : named = []) (h : env.get? languagesVariable = some t) :
      LanguagesFrom named env entries (languageList t)
  /-- The file has an entry for them. -/
  | file {v : Value} {items : List Value} {languages : List Text} (hnamed : named = [])
      (henv : env.get? languagesVariable = none) (h : Value.lookup "languages" entries = some v)
      (hitems : v.items? = some items)
      (hread : List.Forall₂ (fun item language => readText item = .ok language) items languages) :
      LanguagesFrom named env entries languages
  /-- Nothing is said of them. -/
  | otherwise (hnamed : named = []) (henv : env.get? languagesVariable = none)
      (h : Value.lookup "languages" entries = none) : LanguagesFrom named env entries ["javascript"]

/-- Where the directory to write below comes from, given the one that the command line names. -/
inductive OutputFrom (named : Option Path) (env : Environment) (entries : List (Value × Value)) :
    Path → Prop where
  /-- The command line names it. -/
  | named {p : Path} (h : named = some p) : OutputFrom named env entries p
  /-- The environment does. -/
  | environment {t : Text} (hnamed : named = none) (h : env.get? outputVariable = some t) :
      OutputFrom named env entries (Path.ofText t)
  /-- The file has an entry for it. -/
  | file {t : Text} (hnamed : named = none) (henv : env.get? outputVariable = none)
      (h : Value.lookup "output_dir" entries = some (.text t)) : OutputFrom named env entries (Path.ofText t)
  /-- Nothing is said of it. -/
  | otherwise (hnamed : named = none) (henv : env.get? outputVariable = none)
      (h : Value.lookup "output_dir" entries = none) : OutputFrom named env entries (Path.ofText "snippets")

section

variable (hsettings : settingsOf env entries = .ok settings)

include hsettings

theorem settingsValid_of_settingsOf : SettingsValid (withEnvironment env entries) settings := by
  rw [settingsOf_eq] at hsettings
  split at hsettings
  · exact readSettings_iff.mp (mapError_eq_ok.mp hsettings)
  · cases hsettings

/-- The languages of settings that load come from their sources. -/
theorem languagesFrom_settings (named : List Text) :
    LanguagesFrom named env entries (if named.isEmpty then settings.languages else named) := by
  cases named with
  | cons language rest => exact .named (List.cons_ne_nil _ _)
  | nil =>
      have hread := value?_cases (f := .languages) (settingsValid_of_settingsOf hsettings).languages
      rw [SettingsField.value?, SettingsField.override?] at hread
      cases henv : env.get? languagesVariable with
      | some t =>
          rw [henv] at hread
          rcases hread with ⟨hnone, _⟩ | ⟨v, hv, hlanguages⟩
          · cases hnone
          · cases hv
            rcases readLanguages_eq_ok.mp hlanguages with ⟨items, hitems, _, hall⟩
            cases hitems
            -- The list is read back as it was written, so these are the languages of the environment.
            rw [Except.ok.inj ((Reading.items_eq_ok.mpr hall).symm.trans (Reading.items_text _))]
            exact .environment rfl henv
      | none =>
          rw [henv, Option.map_none, Option.none_or] at hread
          rcases hread with ⟨hnone, hdefault⟩ | ⟨v, hv, hlanguages⟩
          · rw [← hdefault]
            exact .otherwise rfl henv hnone
          · rcases readLanguages_eq_ok.mp hlanguages with ⟨items, hitems, _, hall⟩
            exact .file rfl henv hv hitems hall

/-- So does the directory to write below. -/
theorem outputFrom_settings (named : Option Path) :
    OutputFrom named env entries (named.getD settings.outputDirectory) := by
  cases named with
  | some p => exact .named rfl
  | none =>
      have hread :=
        value?_cases (f := .outputDirectory) (settingsValid_of_settingsOf hsettings).outputDirectory
      rw [SettingsField.value?, SettingsField.override?] at hread
      cases henv : env.get? outputVariable with
      | some t =>
          rw [henv] at hread
          rcases hread with ⟨hnone, _⟩ | ⟨v, hv, hpath⟩
          · cases hnone
          · cases hv
            rw [Option.getD_none, ← Except.ok.inj hpath]
            exact .environment rfl henv
      | none =>
          rw [henv, Option.map_none, Option.none_or] at hread
          rcases hread with ⟨hnone, hdefault⟩ | ⟨v, hv, hpath⟩
          · rw [Option.getD_none, ← hdefault]
            exact .otherwise rfl henv hnone
          · rcases readPath_eq_ok.mp hpath with ⟨t, rfl, hsame⟩
            rw [Option.getD_none, ← hsame]
            exact .file rfl henv hv

end

end CallSnippets
