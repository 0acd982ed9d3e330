import CallSnippets.Files.Document
import CallSnippets.Refusal.Basic
import CallSnippets.Settings.Basic

/-!
# Where settings come from

Settings come from a file, if one is named, and from the environment, which has the last word: what
it says takes the place of what the file says before anything is read, so that a wrong entry of the
file does no harm where the environment replaces it.

An empty variable says nothing. The keys of the file have to be texts, because settings are told
apart by their names.

## Main definitions

* `Environment`, `Environment.get?`: The variables of the environment.
* `withEnvironment`: Entries with what the environment says in their place.
* `settingsOf`: The settings that entries and environment amount to.
* `loadSettings`: The settings of a run.
-/

namespace CallSnippets

/-- The variables of an environment with their values. -/
abbrev Environment := List (Text × Text)

/-- The value of a variable that says something. -/
def Environment.get? (env : Environment) (name : Text) : Option Text :=
  (List.lookup name env).filter fun value => !value.isEmpty

/-- The variable for languages. -/
def languagesVariable : Text := "API_SNIPPET_GEN_LANGUAGES"

/-- The variable for the directory that snippets are written below. -/
def outputVariable : Text := "API_SNIPPET_GEN_OUTPUT_DIR"

/-- The languages in a text that lists them with commas between. -/
def languageList (t : Text) : List Text :=
  ((Text.splitOn ',' t).map Text.trim).filter fun language => !language.isEmpty

/-- Entries with one more written where there is a value for it. -/
def override (name : Text) (value : Option Value) (entries : List (Value × Value)) :
    List (Value × Value) :=
  match value with
  | some v => Value.insertEntry (.text name) v entries
  | none => entries

/-- Entries with what the environment says in their place. -/
def withEnvironment (env : Environment) (entries : List (Value × Value)) : List (Value × Value) :=
  let languages := (env.get? languagesVariable).map fun t =>
    Value.list ((languageList t).map .text)
  let output := (env.get? outputVariable).map Value.text
  override "output_dir" output (override "languages" languages entries)

/-- The key is a text. -/
def isTextKey : Value → Bool
  | .text _ => true
  | _ => false

/-- The fault of keys that are no texts. -/
def unnamedSetting : Fault :=
  .type "keywords must be strings"

/-- The settings that entries and environment amount to. -/
def settingsOf (env : Environment) (entries : List (Value × Value)) : Except Trouble Settings :=
  let entries := withEnvironment env entries
  if entries.all fun e => isTextKey e.1 then
    (readSettings entries).mapError fun issues => .refusal (.invalidSettings issues)
  else .error (.fault unnamedSetting)

/-- What is answered where there is no document of settings in a file. -/
def settingsTrouble (path : Text) : DocumentFailure → Trouble
  | .unreadable e => .refusal (.unreadableSettings path e)
  | .malformed => .refusal (.malformedSettings path)
  | .fault f => .fault f

/-- The entries of a document of settings. A document that is as good as none has none. -/
def settingsEntries (path : Text) (v : Value) : Except Trouble (List (Value × Value)) :=
  if v.isVoid then .ok []
  else
    match v.entries? with
    | some entries => .ok entries
    | none => .error (.refusal (.settingsNotMapping path))

/-- The entries of the document in a file of settings, or none where no file is named. -/
def loadSettingsEntries {m : Type → Type} [Monad m] [FileSystem m] :
    Option Path → m (Except Trouble (List (Value × Value)))
  | none => return .ok []
  | some p => do
    let document ← readDocument p
    return document.mapError (settingsTrouble p.text) >>= settingsEntries p.text

/-- The settings of a run. -/
def loadSettings {m : Type → Type} [Monad m] [FileSystem m] (env : Environment)
    (p : Option Path) : m (Except Trouble Settings) := do
  return (← loadSettingsEntries p) >>= settingsOf env

end CallSnippets
