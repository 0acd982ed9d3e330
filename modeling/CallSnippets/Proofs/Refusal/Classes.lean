import CallSnippets.Grammar.Registry
import CallSnippets.Proofs.Files.Store
import CallSnippets.Proofs.Steps
import CallSnippets.Request.Source
import CallSnippets.Settings.Source

/-!
# Classes of refusals

The code that a run ends with is that of the class of its refusal, so it can be told which step refused
without looking at what it refused. What is loaded is refused in one class only: settings as settings, and
requests as requests. A row of steps that are all refused in one class is itself refused in that class.

A step may also end in a fault. That is no refusal, and nothing is said of it here.

## Main definitions

* `RefusesAs`: A step is refused in one class only.

## Theorems

* `RefusesAs.bind`, `refusesAs_mapError`: Steps in a row, and steps whose failures are answered for.
* `refusesAs_loadSettings`, `refusesAs_loadRequests`, `cls_findGrammar`: What is loaded and looked up.
-/

namespace CallSnippets

open FileTree

variable {ε α β : Type} {cls : RefusalClass} {t : FileTree}

/-- A step is refused in one class only. -/
def RefusesAs (cls : RefusalClass) (x : Except Trouble α) : Prop :=
  ∀ r, x = .error (.refusal r) → r.cls = cls

theorem refusesAs_ok (cls : RefusalClass) (a : α) : RefusesAs cls (.ok a : Except Trouble α) := nofun

theorem refusesAs_refusal {r : Refusal} (h : r.cls = cls) :
    RefusesAs cls (.error (.refusal r) : Except Trouble α) := by
  intro r' hr
  cases hr
  exact h

theorem RefusesAs.bind {x : Except Trouble α} {f : α → Except Trouble β} (hx : RefusesAs cls x)
    (hf : ∀ a, RefusesAs cls (f a)) : RefusesAs cls (x >>= f) := by
  intro r hr
  rcases bind_eq_error.mp hr with herror | ⟨a, _, herror⟩
  · exact hx r herror
  · exact hf a r herror

/-- A step whose failures are answered for is refused in the class of the answers. -/
theorem refusesAs_mapError {f : ε → Trouble} (hf : ∀ e r, f e = .refusal r → r.cls = cls)
    (x : Except ε α) : RefusesAs cls (x.mapError f) := by
  intro r hr
  cases x with
  | ok a => cases hr
  | error e => exact hf e r (Except.error.inj hr)

theorem refusesAs_orFault (cls : RefusalClass) (x : Except Fault α) : RefusesAs cls (orFault x) :=
  refusesAs_mapError (fun _ _ h => (by cases h)) x

/-! ## Settings -/

theorem cls_settingsTrouble (path : Text) (failure : DocumentFailure) (r : Refusal)
    (h : settingsTrouble path failure = .refusal r) : r.cls = .settings := by
  cases failure <;> cases h <;> rfl

theorem refusesAs_settingsEntries (path : Text) (v : Value) :
    RefusesAs .settings (settingsEntries path v) := by
  rw [settingsEntries]
  split
  · exact refusesAs_ok _ _
  · split
    · exact refusesAs_ok _ _
    · exact refusesAs_refusal rfl

theorem refusesAs_settingsOf (env : Environment) (entries : List (Value × Value)) :
    RefusesAs .settings (settingsOf env entries) := by
  rw [settingsOf]
  split
  · refine refusesAs_mapError (fun issues r h => ?_) _
    cases h
    rfl
  · exact fun r h => (by cases h)

/-- Settings are refused as settings. -/
theorem refusesAs_loadSettings (env : Environment) (p : Option Path) (t : FileTree) :
    RefusesAs .settings ((loadSettings env p : StateM FileTree _) t).1 := by
  have hentries : RefusesAs .settings ((loadSettingsEntries p : StateM FileTree _) t).1 := by
    cases p with
    | none => exact refusesAs_ok _ _
    | some p =>
        exact (refusesAs_mapError (cls_settingsTrouble p.text) _).bind
          (refusesAs_settingsEntries p.text)
  exact hentries.bind (refusesAs_settingsOf env)

/-! ## Requests -/

theorem cls_sourceTrouble (path : Text) (failure : DocumentFailure) (r : Refusal)
    (h : sourceTrouble path failure = .refusal r) : r.cls = .request := by
  cases failure <;> cases h <;> rfl

theorem refusesAs_sourceEntries (path : Text) (v : Value) :
    RefusesAs .request (sourceEntries path v) := by
  rw [sourceEntries]
  split
  · exact refusesAs_ok _ _
  · exact refusesAs_refusal rfl

theorem refusesAs_namedRequest (path : Text) (number : Nat) (v : Value) :
    RefusesAs .request (namedRequest path number v) := by
  rw [namedRequest]
  split
  · exact refusesAs_refusal rfl
  · refine (refusesAs_orFault _ _).bind fun fields => ?_
    cases readRequestFields fields with
    | error issues => exact refusesAs_refusal rfl
    | ok r => exact (refusesAs_orFault _ _).bind fun name => refusesAs_ok _ (name, r)

theorem refusesAs_namedRequestsFrom (path : Text) (known : List Text) (number : Nat)
    (values : List Value) : RefusesAs .request (namedRequestsFrom path known number values) := by
  induction values generalizing known number with
  | nil => exact refusesAs_ok _ _
  | cons v rest ih =>
      rw [namedRequestsFrom]
      refine (refusesAs_namedRequest path number v).bind fun r => ?_
      split
      · exact refusesAs_refusal rfl
      · exact (ih _ _).bind fun more => refusesAs_ok _ _

theorem cls_requestEntries {path : Text} {entries : List (Value × Value)} {r : Refusal}
    (h : requestEntries path entries = .error r) : r.cls = .request := by
  rw [requestEntries] at h
  split at h
  · cases h
  · split at h
    · cases h
    · cases h
      rfl

/-- Requests are refused as requests. -/
theorem refusesAs_loadRequests (p : Path) (t : FileTree) :
    RefusesAs .request ((loadRequests p : StateM FileTree _) t).1 := by
  have hentries : RefusesAs .request ((loadEntries p : StateM FileTree _) t).1 :=
    (refusesAs_mapError (cls_sourceTrouble p.text) _).bind (refusesAs_sourceEntries p.text)
  refine hentries.bind fun entries => RefusesAs.bind ?_ (refusesAs_namedRequestsFrom p.text [] 1)
  cases hvalues : requestEntries p.text entries with
  | ok values => exact refusesAs_ok _ values
  | error r => exact refusesAs_refusal (cls_requestEntries hvalues)

/-! ## Languages -/

theorem cls_findGrammar {language : Text} {r : Refusal} (h : findGrammar language = .error r) :
    r.cls = .language := by
  rw [findGrammar] at h
  split at h
  · cases h
  · cases h
    rfl

end CallSnippets
