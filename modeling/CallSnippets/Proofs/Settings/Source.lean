import CallSnippets.Proofs.Files.Path
import CallSnippets.Proofs.Steps
import CallSnippets.Settings.Source

/-!
# Settings that load

Settings are read field by field, and each field is either the value of its entry or one of its own. So
what holds of everything that the reader of a field makes, and of the value that the field has if it is
not given, holds of the field in all settings that load.

A field is found by its name, so what is said of other fields has no part in it, nor has the order of the
entries. If the entries of a file say in addition that snippets are checked, the settings are the same
but for that.

## Main definitions

* `SaysChecked`: Entries say what other ones say, and that snippets are checked.

## Theorems

* `Reading.and_eq_ok`, `Reading.optional_eq_ok`: When parts and fields are read.
* `Reading.required_congr`, `Reading.optional_congr`: A field goes by its own entry alone.
* `readSettings_eq_ok`: Settings are read if each of their fields is.
* `isProper_outputDirectory`: The directory to write below is a path made of names.
* `lookup_insertEntry`: What is found after something is written.
* `saysChecked_insertEntry`: Entries say so once the mention is written among them.
* `SaysChecked.settingsOf`: The settings are the same but for the checks.
-/

namespace CallSnippets

namespace Reading

variable {α β : Type}

theorem and_eq_ok {f : Reading (α → β)} {x : Reading α} {b : β} :
    Reading.and f x = .ok b ↔ ∃ g a, f = .ok g ∧ x = .ok a ∧ g a = b := by
  cases f with
  | error issues =>
      cases x <;> simp only [Reading.and, reduceCtorEq, false_and, exists_false]
  | ok g =>
      cases x with
      | error issues => simp only [Reading.and, reduceCtorEq, false_and, and_false, exists_false]
      | ok a => simp only [Reading.and, Except.ok.injEq, exists_and_left, exists_eq_left']

theorem under_eq_ok {step : Step} {x : Reading α} {a : α} : x.under step = .ok a ↔ x = .ok a := by
  cases x with
  | error issues => simp only [under, reduceCtorEq]
  | ok b => simp only [under]

/-- A field is read from its entry, or has the value that it has without one. -/
theorem optional_eq_ok {name : Text} {otherwise a : α} {read : Value → Reading α}
    {entries : List (Value × Value)} : optional name otherwise read entries = .ok a ↔
      Value.lookup name entries = none ∧ otherwise = a ∨
        ∃ v, Value.lookup name entries = some v ∧ read v = .ok a := by
  rw [optional]
  cases Value.lookup name entries with
  | none => simp only [Except.ok.injEq, true_and, reduceCtorEq, false_and, exists_false, or_false]
  | some v => simp only [under_eq_ok, reduceCtorEq, false_and, false_or, Option.some.injEq, exists_eq_left']

/-- A field goes by its own entry alone. -/
theorem required_congr {name : Text} {read : Value → Reading α} {a b : List (Value × Value)}
    (h : Value.lookup name a = Value.lookup name b) : required name read a = required name read b := by
  rw [required, required, h]

theorem optional_congr {name : Text} {otherwise : α} {read : Value → Reading α}
    {a b : List (Value × Value)} (h : Value.lookup name a = Value.lookup name b) :
    optional name otherwise read a = optional name otherwise read b := by
  rw [optional, optional, h]

end Reading

/-! ## Fields -/

/-- Settings are read if each of their fields is. -/
theorem readSettings_eq_ok {entries : List (Value × Value)} {settings : Settings} :
    readSettings entries = .ok settings ↔
      Reading.optional "languages" [Text.ofString "javascript"] readLanguages entries =
        .ok settings.languages ∧
      Reading.optional "output_dir" (Path.ofText "snippets") readPath entries =
        .ok settings.outputDirectory ∧
      Reading.optional "max_workers" 4 readWorkers entries = .ok settings.workers ∧
      Reading.optional "check" false readTruth entries = .ok settings.check := by
  rw [readSettings]
  constructor
  · intro h
    rcases Reading.and_eq_ok.mp h with ⟨withWorkers, check, hthree, hcheck, rfl⟩
    rcases Reading.and_eq_ok.mp hthree with ⟨withOutput, workers, htwo, hworkers, rfl⟩
    rcases Reading.and_eq_ok.mp htwo with ⟨withLanguages, output, hone, houtput, rfl⟩
    rcases Reading.and_eq_ok.mp hone with ⟨make, languages, hmake, hlanguages, rfl⟩
    cases hmake
    exact ⟨hlanguages, houtput, hworkers, hcheck⟩
  · rintro ⟨hlanguages, houtput, hworkers, hcheck⟩
    rw [hlanguages, houtput, hworkers, hcheck]
    rfl

theorem isProper_readPath {v : Value} {p : Path} (h : readPath v = .ok p) : p.IsProper := by
  rw [readPath.eq_def] at h
  split at h
  · cases h
    exact Path.isProper_ofText _
  · cases h

theorem isProper_readSettings {entries : List (Value × Value)} {settings : Settings}
    (h : readSettings entries = .ok settings) : settings.outputDirectory.IsProper := by
  rcases Reading.optional_eq_ok.mp (readSettings_eq_ok.mp h).2.1 with ⟨_, hdefault⟩ | ⟨v, _, hv⟩
  · rw [← hdefault]
    exact Path.isProper_ofText _
  · exact isProper_readPath hv

/-- The directory to write below is a path made of names. -/
theorem isProper_outputDirectory {env : Environment} {x : Except Trouble (List (Value × Value))}
    {settings : Settings} (h : (x >>= settingsOf env) = .ok settings) :
    settings.outputDirectory.IsProper := by
  rcases bind_eq_ok.mp h with ⟨entries, _, hsettings⟩
  rw [settingsOf] at hsettings
  split at hsettings
  · exact isProper_readSettings (mapError_eq_ok.mp hsettings)
  · cases hsettings

/-! ## Entries -/

/-- A key is the same as a text only if it is that text. -/
theorem sameKey_text {k : Value} {name : Text} :
    Value.sameKey k (.text name) = true ↔ k = .text name := by
  cases k with
  | text s => simp only [Value.sameKey, Value.keyNumber?, beq_iff_eq, Value.text.injEq]
  | float x =>
      simp only [Value.sameKey, Value.keyNumber?, reduceCtorEq, iff_false]
      cases x.toInt? <;> exact Bool.false_ne_true
  | _ => simp only [Value.sameKey, Value.keyNumber?, reduceCtorEq, Bool.false_eq_true]

theorem lookup_cons (name : Text) (e : Value × Value) (entries : List (Value × Value)) :
    Value.lookup name (e :: entries) =
      if Value.sameKey e.1 (.text name) then some e.2 else Value.lookup name entries := by
  rw [Value.lookup, List.find?_cons]
  cases Value.sameKey e.1 (.text name) <;> rfl

/-- What is written under a name is found under it, and all else is as before. -/
theorem lookup_insertEntry (name key : Text) (v : Value) (entries : List (Value × Value)) :
    Value.lookup name (Value.insertEntry (.text key) v entries) =
      if name = key then some v else Value.lookup name entries := by
  have htext (value : Value) (rest : List (Value × Value)) :
      Value.lookup name ((.text key, value) :: rest) =
        if name = key then some value else Value.lookup name rest := by
    rw [lookup_cons]
    by_cases hname : name = key
    · rw [if_pos hname, if_pos (sameKey_text.mpr (congrArg Value.text hname.symm))]
    · rw [if_neg hname, if_neg fun h => hname (Value.text.inj (sameKey_text.mp h)).symm]
  induction entries with
  | nil => exact htext v []
  | cons e rest ih =>
      rcases e with ⟨k, old⟩
      rw [Value.insertEntry]
      split
      · rename_i hkey
        rw [sameKey_text.mp hkey, htext, htext]
        split <;> rfl
      · rename_i hkey
        rw [lookup_cons, lookup_cons, ih]
        by_cases hname : name = key
        · rw [hname, if_neg hkey, if_neg hkey]
        · rw [if_neg hname, if_neg hname]

theorem all_insertEntry (key : Text) (v : Value) (entries : List (Value × Value)) :
    (Value.insertEntry (.text key) v entries).all (fun e => isTextKey e.1) =
      entries.all fun e => isTextKey e.1 := by
  induction entries with
  | nil => rfl
  | cons e rest ih =>
      rcases e with ⟨k, old⟩
      rw [Value.insertEntry]
      split
      · rfl
      · rw [List.all_cons, List.all_cons, ih]

/-! ## Settings that have snippets checked -/

/-- Entries say what other ones say, and that snippets are checked. -/
structure SaysChecked (entries entries' : List (Value × Value)) : Prop where
  /-- Their keys are texts. -/
  named : (entries'.all fun e => isTextKey e.1) = true
  /-- All else is the same. -/
  same : ∀ name : Text, name ≠ "check" → Value.lookup name entries' = Value.lookup name entries
  /-- Snippets are checked. -/
  checked : Value.lookup "check" entries' = some (.bool true)

/-- It is enough to write the mention, whatever the entries said before. -/
theorem saysChecked_insertEntry {entries : List (Value × Value)}
    (h : (entries.all fun e => isTextKey e.1) = true) :
    SaysChecked entries (Value.insertEntry (.text "check") (.bool true) entries) := by
  constructor
  case named => rw [all_insertEntry, h]
  case same => exact fun name hname => by rw [lookup_insertEntry, if_neg hname]
  case checked => rw [lookup_insertEntry, if_pos rfl]

theorem SaysChecked.override {entries entries' : List (Value × Value)} (h : SaysChecked entries entries')
    {name : Text} (hname : name ≠ "check") (value : Option Value) :
    SaysChecked (override name value entries) (override name value entries') := by
  cases value with
  | none => exact h
  | some v =>
      constructor
      case named => rw [CallSnippets.override, all_insertEntry, h.named]
      case same =>
        intro other hother
        rw [CallSnippets.override, CallSnippets.override, lookup_insertEntry, lookup_insertEntry,
          h.same other hother]
      case checked => rw [CallSnippets.override, lookup_insertEntry, if_neg (Ne.symm hname), h.checked]

/-- The settings are the same but for the checks. -/
theorem SaysChecked.readSettings {entries entries' : List (Value × Value)} {settings : Settings}
    (h : SaysChecked entries entries') (hread : readSettings entries = .ok settings) :
    readSettings entries' = .ok { settings with check := true } := by
  rcases readSettings_eq_ok.mp hread with ⟨hlanguages, houtput, hworkers, _⟩
  refine readSettings_eq_ok.mpr ⟨?_, ?_, ?_, ?_⟩
  · rw [Reading.optional_congr (h.same _ (by decide)), hlanguages]
  · rw [Reading.optional_congr (h.same _ (by decide)), houtput]
  · rw [Reading.optional_congr (h.same _ (by decide)), hworkers]
  · rw [Reading.optional, h.checked]
    rfl

/-- So they are where the environment has the last word. -/
theorem SaysChecked.settingsOf {env : Environment} {entries entries' : List (Value × Value)}
    {settings : Settings} (h : SaysChecked entries entries')
    (hsettings : settingsOf env entries = .ok settings) :
    settingsOf env entries' = .ok { settings with check := true } := by
  have hboth : SaysChecked (withEnvironment env entries) (withEnvironment env entries') :=
    (h.override (by decide) _).override (by decide) _
  rw [CallSnippets.settingsOf] at hsettings ⊢
  split at hsettings
  · rw [if_pos hboth.named, hboth.readSettings (mapError_eq_ok.mp hsettings)]
    rfl
  · cases hsettings

end CallSnippets
