import CallSnippets.Proofs.Files.Document
import CallSnippets.Proofs.Files.Tree
import CallSnippets.Proofs.Refusal.Classes
import CallSnippets.Proofs.Settings.Source
import CallSnippets.Request.Source

/-!
# What files of settings come to

A file of settings comes to settings, to a refusal or to a fault. The document in it either counts as none,
and then all settings have the values of their own, or it is a mapping. What counts as none is more than an
empty file: zero, false, an empty text and an empty list do as well.

Once there are entries, the environment has its say, and the fields are read. But settings are told apart by
their names, so an entry whose key is no text ends in a fault, whatever the other entries say.

## Main definitions

* `EntriesAt`: The entries that settings are read from.
* `SettingsValid`: Every field of settings is read from entries.
* `SettingsAt`: What loading settings comes to.

## Theorems

* `loadSettingsEntries_eq_ok`, `loadSettingsEntries_eq_error`: When there are entries, and why there are none.
* `settingsOf_eq`: What entries come to.
* `loadSettings_iff`: Loading settings goes by the rules.
* `loadSettings_keyed`: Settings that are neither loaded nor refused.
-/

namespace CallSnippets

open FileTree

/-- The entries that settings are read from, before the environment has its say. -/
inductive EntriesAt (t : FileTree) : Option Path → List (Value × Value) → Prop where
  /-- No file is named. -/
  | unnamed : EntriesAt t none []
  /-- The document in the file counts as none. -/
  | void {p : Path} {v : Value} (hdocument : DocumentAt t p (.ok v)) (h : v.isVoid = true) :
      EntriesAt t (some p) []
  /-- The document in the file is a mapping. -/
  | mapping {p : Path} {v : Value} {entries : List (Value × Value)}
      (hdocument : DocumentAt t p (.ok v)) (hcounts : v.isVoid = false)
      (h : v.entries? = some entries) : EntriesAt t (some p) entries

/-- Every field of settings is read from its entry, or has the value of its own if there is none. -/
structure SettingsValid (entries : List (Value × Value)) (settings : Settings) : Prop where
  languages : Reading.optional "languages" [Text.ofString "javascript"] readLanguages entries =
    .ok settings.languages
  outputDirectory : Reading.optional "output_dir" (Path.ofText "snippets") readPath entries =
    .ok settings.outputDirectory
  workers : Reading.optional "max_workers" 4 readWorkers entries = .ok settings.workers
  check : Reading.optional "check" false readTruth entries = .ok settings.check

/-- What loading settings comes to, in an environment and with or without a file. -/
inductive SettingsAt (env : Environment) (t : FileTree) (source : Option Path) :
    Except Trouble Settings → Prop where
  /-- The keys are texts and the fields are valid. -/
  | loaded {entries : List (Value × Value)} {settings : Settings} (hentries : EntriesAt t source entries)
      (hnamed : (entries.all fun e => isTextKey e.1) = true)
      (h : SettingsValid (withEnvironment env entries) settings) :
      SettingsAt env t source (.ok settings)
  /-- The keys are texts, but some field is not valid. -/
  | invalid {entries : List (Value × Value)} {issues : List Issue}
      (hentries : EntriesAt t source entries)
      (hnamed : (entries.all fun e => isTextKey e.1) = true)
      (h : readSettings (withEnvironment env entries) = .error issues) :
      SettingsAt env t source (.error (.refusal (.invalidSettings issues)))
  /-- Some key is no text. -/
  | keyed {entries : List (Value × Value)} (hentries : EntriesAt t source entries)
      (h : (entries.all fun e => isTextKey e.1) = false) :
      SettingsAt env t source (.error (.fault unnamedSetting))
  /-- The document is something else than a mapping, and it counts. -/
  | notMapping {p : Path} {v : Value} (hsource : source = some p) (hdocument : DocumentAt t p (.ok v))
      (hcounts : v.isVoid = false) (h : v.entries? = none) :
      SettingsAt env t source (.error (.refusal (.settingsNotMapping p.text)))
  /-- There is no document. -/
  | failed {p : Path} {failure : DocumentFailure} (hsource : source = some p)
      (h : DocumentAt t p (.error failure)) :
      SettingsAt env t source (.error (settingsTrouble p.text failure))

variable {env : Environment} {t : FileTree} {source : Option Path} {v : Value}
  {entries : List (Value × Value)} {settings : Settings}

/-! ## Entries -/

theorem settingsEntries_eq_ok {path : Text} : settingsEntries path v = .ok entries ↔
    v.isVoid = true ∧ entries = [] ∨ v.isVoid = false ∧ v.entries? = some entries := by
  rw [settingsEntries]
  cases v.isVoid with
  | true =>
      simp only [if_true, Except.ok.injEq, true_and, Bool.true_eq_false, false_and, or_false]
      exact eq_comm
  | false =>
      simp only [Bool.false_eq_true, if_false, false_and, true_and, false_or]
      cases v.entries? with
      | some known => simp only [Except.ok.injEq, Option.some.injEq]
      | none => simp only [reduceCtorEq]

theorem settingsEntries_eq_error {path : Text} {e : Trouble} : settingsEntries path v = .error e ↔
    v.isVoid = false ∧ v.entries? = none ∧ .refusal (.settingsNotMapping path) = e := by
  rw [settingsEntries]
  cases v.isVoid with
  | true => simp only [if_true, reduceCtorEq, Bool.true_eq_false, false_and]
  | false =>
      simp only [Bool.false_eq_true, if_false, true_and]
      cases v.entries? with
      | some known => simp only [reduceCtorEq, false_and]
      | none => simp only [Except.error.injEq, true_and]

/-- The entries in a file are those of the document that is read from it. -/
theorem loadSettingsEntries_some (p : Path) (t : FileTree) :
    ((loadSettingsEntries (some p) : StateM FileTree _) t).1 =
      (((readDocument p : StateM FileTree _) t).1.mapError (settingsTrouble p.text) >>=
        settingsEntries p.text) := rfl

/-- There are entries exactly if the file gives them. -/
theorem loadSettingsEntries_eq_ok :
    ((loadSettingsEntries source : StateM FileTree _) t).1 = .ok entries ↔
      EntriesAt t source entries := by
  cases source with
  | none =>
      constructor
      · intro h
        cases h
        exact .unnamed
      · intro h
        cases h
        rfl
  | some p =>
      rw [loadSettingsEntries_some, bind_eq_ok]
      simp only [mapError_eq_ok, readDocument_iff, settingsEntries_eq_ok]
      constructor
      · rintro ⟨v, hdocument, ⟨hvoid, rfl⟩ | ⟨hcounts, hmap⟩⟩
        · exact .void hdocument hvoid
        · exact .mapping hdocument hcounts hmap
      · intro h
        cases h with
        | @void _ v hdocument hvoid => exact ⟨v, hdocument, .inl ⟨hvoid, rfl⟩⟩
        | @mapping _ v _ hdocument hcounts hmap => exact ⟨v, hdocument, .inr ⟨hcounts, hmap⟩⟩

/-- There are none exactly if there is no document, or one that counts and is no mapping. -/
theorem loadSettingsEntries_eq_error {e : Trouble} :
    ((loadSettingsEntries source : StateM FileTree _) t).1 = .error e ↔ ∃ p, source = some p ∧
      ((∃ failure, DocumentAt t p (.error failure) ∧ settingsTrouble p.text failure = e) ∨
        ∃ v, DocumentAt t p (.ok v) ∧ v.isVoid = false ∧ v.entries? = none ∧
          .refusal (.settingsNotMapping p.text) = e) := by
  cases source with
  | none =>
      simp only [reduceCtorEq, false_and, exists_false, iff_false]
      exact fun h => (by cases h)
  | some p =>
      rw [loadSettingsEntries_some, bind_eq_error]
      simp only [mapError_eq_ok, mapError_eq_error, readDocument_iff, settingsEntries_eq_error,
        Option.some.injEq, exists_eq_left']

theorem all_override (name : Text) (value : Option Value) (entries : List (Value × Value)) :
    (override name value entries).all (fun e => isTextKey e.1) =
      entries.all fun e => isTextKey e.1 := by
  cases value with
  | none => rfl
  | some v => exact all_insertEntry name v entries

/-- What the environment says is said under names. -/
theorem all_withEnvironment (env : Environment) (entries : List (Value × Value)) :
    (withEnvironment env entries).all (fun e => isTextKey e.1) =
      entries.all fun e => isTextKey e.1 := by
  rw [withEnvironment, all_override, all_override]

theorem readSettings_iff : readSettings entries = .ok settings ↔ SettingsValid entries settings := by
  rw [readSettings_eq_ok]
  constructor
  · rintro ⟨hlanguages, houtput, hworkers, hcheck⟩
    exact ⟨hlanguages, houtput, hworkers, hcheck⟩
  · rintro ⟨hlanguages, houtput, hworkers, hcheck⟩
    exact ⟨hlanguages, houtput, hworkers, hcheck⟩

/-- Entries are read with what the environment says, if all of them have names. -/
theorem settingsOf_eq (env : Environment) (entries : List (Value × Value)) :
    settingsOf env entries =
      if (entries.all fun e => isTextKey e.1) = true then
        (readSettings (withEnvironment env entries)).mapError fun issues =>
          .refusal (.invalidSettings issues)
      else .error (.fault unnamedSetting) := by
  -- The environment adds names only, so it does not matter whether keys are looked at before or after it.
  simp only [settingsOf, all_withEnvironment]

/-! ## Settings -/

/-- Entries come to settings by the rules. -/
theorem EntriesAt.settingsAt (h : EntriesAt t source entries) :
    SettingsAt env t source (settingsOf env entries) := by
  rw [settingsOf_eq]
  cases hnamed : entries.all fun e => isTextKey e.1 with
  | false => exact .keyed h hnamed
  | true =>
      rw [if_pos rfl]
      cases hread : readSettings (withEnvironment env entries) with
      | ok settings => exact .loaded h hnamed (readSettings_iff.mp hread)
      | error issues => exact .invalid h hnamed hread

/-- Loading settings goes by the rules, and what is refused is refused as settings. -/
theorem loadSettings_iff (env : Environment) (t : FileTree) (source : Option Path) :
    (∀ x, ((loadSettings env source : StateM FileTree _) t).1 = x ↔ SettingsAt env t source x) ∧
      ∀ r, SettingsAt env t source (.error (.refusal r)) → r.cls = .settings := by
  have hload : ((loadSettings env source : StateM FileTree _) t).1 =
      (((loadSettingsEntries source : StateM FileTree _) t).1 >>= settingsOf env) := rfl
  have hrules (x : Except Trouble Settings) (h : SettingsAt env t source x) :
      ((loadSettings env source : StateM FileTree _) t).1 = x := by
    rw [hload]
    cases h with
    | loaded hentries hnamed hvalid =>
        rw [loadSettingsEntries_eq_ok.mpr hentries, ok_bind, settingsOf_eq, if_pos hnamed,
          readSettings_iff.mpr hvalid, mapError_ok]
    | invalid hentries hnamed hread =>
        rw [loadSettingsEntries_eq_ok.mpr hentries, ok_bind, settingsOf_eq, if_pos hnamed, hread,
          mapError_error]
    | keyed hentries hkey =>
        rw [loadSettingsEntries_eq_ok.mpr hentries, ok_bind, settingsOf_eq, hkey,
          if_neg Bool.false_ne_true]
    | @notMapping p v hsource hdocument hcounts hmap =>
        have hentries := loadSettingsEntries_eq_error.mpr
          ⟨p, hsource, .inr ⟨v, hdocument, hcounts, hmap, rfl⟩⟩
        rw [hentries, error_bind]
    | @failed p failure hsource hdocument =>
        have hentries := loadSettingsEntries_eq_error.mpr ⟨p, hsource, .inl ⟨failure, hdocument, rfl⟩⟩
        rw [hentries, error_bind]
  refine ⟨fun x => ⟨?_, hrules x⟩, fun r h => ?_⟩
  · -- The rules cover whatever loading comes to, whether there are entries or not.
    rintro rfl
    rw [hload]
    cases hentries : ((loadSettingsEntries source : StateM FileTree _) t).1 with
    | ok entries => exact (loadSettingsEntries_eq_ok.mp hentries).settingsAt
    | error e =>
        rcases loadSettingsEntries_eq_error.mp hentries with ⟨p, hsource, hfailed | hother⟩
        · rcases hfailed with ⟨failure, hdocument, rfl⟩
          exact .failed hsource hdocument
        · rcases hother with ⟨v, hdocument, hcounts, hmap, rfl⟩
          exact .notMapping hsource hdocument hcounts hmap
  · exact refusesAs_loadSettings env source t r (hrules _ h)

/-! ## Files that are loaded or not answered against expectation -/

/-- A file of settings with a key that is a number. -/
def keyedTree : FileTree :=
  filesTree [("c.yaml", "1: x\n")]

/-- A file of settings that holds an empty list. -/
def listedTree : FileTree :=
  filesTree [("c.yaml", "[]\n")]

/-- A file of settings with a byte that is not UTF-8. -/
def brokenTree : FileTree :=
  ⟨[([Text.ofString "c.yaml"], .file ⟨#[0xff]⟩)], []⟩

/-- The document in the second file, and what loading each of the files comes to. -/
def listedDocument : { v : Value //
    ((readDocument (Path.ofText "c.yaml") : StateM FileTree _) listedTree).1 = .ok v ∧
    v.list?.isSome = true ∧ v.entries?.isNone = true ∧
    errorOf? ((loadSettings [] (some (Path.ofText "c.yaml")) : StateM FileTree _) keyedTree).1 =
      some (.fault unnamedSetting) ∧
    ((loadSettings [] (some (Path.ofText "c.yaml")) : StateM FileTree _) listedTree).1.toOption.isSome ∧
    errorOf? ((loadSettings [] (some (Path.ofText "c.yaml")) : StateM FileTree _) brokenTree).1 =
      some (.fault .undecodable) } :=
  ⟨((readDocument (Path.ofText "c.yaml") : StateM FileTree _) listedTree).1.toOption.get
    (by decide +kernel), eq_ok_of_toOption (Option.some_get _).symm, by decide +kernel⟩

/-- A mapping with a number for a key is neither loaded nor refused, and neither are bytes that are not
    UTF-8. A list is loaded. -/
theorem loadSettings_keyed :
    ((loadSettings [] (some (Path.ofText "c.yaml")) : StateM FileTree _) keyedTree).1 =
      .error (.fault unnamedSetting) ∧
    ((loadSettings [] (some (Path.ofText "c.yaml")) : StateM FileTree _) brokenTree).1 =
      .error (.fault .undecodable) ∧
    (∃ v, ((readDocument (Path.ofText "c.yaml") : StateM FileTree _) listedTree).1 = .ok v ∧
      v.list?.isSome ∧ v.entries? = none) ∧
    ∃ settings, ((loadSettings [] (some (Path.ofText "c.yaml")) : StateM FileTree _) listedTree).1 =
      .ok settings := by
  rcases listedDocument with ⟨v, hread, hlist, hmap, hkeyed, hlisted, hbroken⟩
  rcases Option.isSome_iff_exists.mp hlisted with ⟨settings, hsettings⟩
  exact ⟨errorOf?_eq_some.mp hkeyed, errorOf?_eq_some.mp hbroken,
    ⟨v, hread, hlist, Option.isNone_iff_eq_none.mp hmap⟩, settings, eq_ok_of_toOption hsettings⟩

end CallSnippets
