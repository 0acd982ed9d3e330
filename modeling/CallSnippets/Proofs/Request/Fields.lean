import CallSnippets.Proofs.Settings.Source
import CallSnippets.Request.Basic
import Mathlib.Data.List.Forall2

/-!
# Descriptions that are read

A description is read field by field, and is accepted if every field is. So what is known of a description
that was accepted is known of its fields one by one, and what is to be shown of data is shown of its
entries one by one. The issues of data that are refused have no part in this.

A field is found by its name. To leave out one entry of the data therefore changes one field at most, and
what the others are read as can be said of the data without that entry.

## Main definitions

* `FieldsRead`: Every field of a description is read.

## Theorems

* `Reading.items_eq_ok`, `Reading.items_map`: When a row is read, and rows that are read back.
* `Reading.required_eq_ok`: When a field is read that has to be given.
* `readRequestFields_eq_ok`: When a description is read.
* `lookup_eraseEntry`: What is found once an entry is left out.
* `readRequestFields_modifiers`: What an entry for modifiers does to a description.
* `nodup_distinct`, `distinct_eq_self`: The members of a list, each once.
-/

namespace CallSnippets

namespace Reading

variable {α : Type}

/-- A row of readings is one of all of them. -/
theorem all_eq_ok {readings : List (Reading α)} {as : List α} :
    all readings = .ok as ↔ List.Forall₂ (fun x a => x = .ok a) readings as := by
  induction readings generalizing as with
  | nil =>
      rw [all, Except.ok.injEq, List.forall₂_nil_left_iff]
      exact eq_comm
  | cons x rest ih =>
      simp only [all, and_eq_ok, List.forall₂_cons_left_iff, ih]
      constructor
      · rintro ⟨f, as, hx, hrest, rfl⟩
        cases x with
        | error issues => cases hx
        | ok a =>
            cases hx
            exact ⟨a, as, rfl, hrest, rfl⟩
      · rintro ⟨a, as, rfl, hrest, rfl⟩
        exact ⟨List.cons a, as, rfl, hrest, rfl⟩

theorem itemsFrom_eq_ok {read : Value → Reading α} {values : List Value} {as : List α} {start : Nat} :
    List.Forall₂ (fun x a => x = .ok a) (itemsFrom start read values) as ↔
      List.Forall₂ (fun v a => read v = .ok a) values as := by
  induction values generalizing as start with
  | nil => rw [itemsFrom, List.forall₂_nil_left_iff, List.forall₂_nil_left_iff]
  | cons v rest ih =>
      simp only [itemsFrom, List.forall₂_cons_left_iff, ih, under_eq_ok]

/-- A row is read if each of its items is. -/
theorem items_eq_ok {read : Value → Reading α} {values : List Value} {as : List α} :
    items read values = .ok as ↔ List.Forall₂ (fun v a => read v = .ok a) values as := by
  rw [items, all_eq_ok, itemsFrom_eq_ok]

/-- A row is read back if each of its items is. -/
theorem items_map {read : Value → Reading α} {write : α → Value} {as : List α}
    (h : ∀ a ∈ as, read (write a) = .ok a) : items read (as.map write) = .ok as := by
  rw [items_eq_ok, List.forall₂_map_left_iff, List.forall₂_same]
  exact h

theorem items_text (ts : List Text) : items readText (ts.map .text) = .ok ts :=
  items_map fun _ _ => rfl

/-- A field that has to be given is read from its entry. -/
theorem required_eq_ok {name : Text} {read : Value → Reading α} {entries : List (Value × Value)}
    {a : α} : required name read entries = .ok a ↔
      ∃ v, Value.lookup name entries = some v ∧ read v = .ok a := by
  rw [required, under_eq_ok]
  cases Value.lookup name entries with
  | none => simp only [fail, reduceCtorEq, false_and, exists_false]
  | some v => simp only [Option.some.injEq, exists_eq_left']

/-- A field that is given is read from its entry. -/
theorem optional_of_lookup {name : Text} {otherwise a : α} {read : Value → Reading α}
    {entries : List (Value × Value)} {v : Value} (hlookup : Value.lookup name entries = some v)
    (hread : read v = .ok a) : optional name otherwise read entries = .ok a :=
  optional_eq_ok.mpr (.inr ⟨v, hlookup, hread⟩)

end Reading

/-! ## Fields -/

/-- Every field of a description is read from entries. -/
structure FieldsRead (entries : List (Value × Value)) (r : Request) : Prop where
  method : Reading.required "method" readMethod entries = .ok r.method
  path : Reading.required "path" readText entries = .ok r.path
  segments : Reading.optional "segments" [] (readTuple readSegment) entries = .ok r.segments
  apiVersion : Reading.optional "api_version" (Text.ofString "v1.0") readText entries = .ok r.apiVersion
  queryString : Reading.optional "query_string" [] readText entries = .ok r.queryString
  customOptions : Reading.optional "custom_query_options" [] readSet entries = .ok r.customOptions
  modifiers : Reading.optional "modifiers" [] readModifiers entries = .ok r.modifiers
  headers : Reading.optional "headers" [] readHeaders entries = .ok r.headers
  body : Reading.optional "request_body" none (readNullable readText) entries = .ok r.body
  variableName : Reading.optional "response_variable_name" (Text.ofString "res") readText entries =
    .ok r.variableName

/-- A description is read if each of its fields is. -/
theorem readRequestFields_eq_ok {entries : List (Value × Value)} {r : Request} :
    readRequestFields entries = .ok r ↔ FieldsRead entries r := by
  rw [readRequestFields]
  constructor
  · intro h
    -- The fields are taken off one by one, the last one first.
    rcases Reading.and_eq_ok.mp h with ⟨_, name, h₉, hname, rfl⟩
    rcases Reading.and_eq_ok.mp h₉ with ⟨_, body, h₈, hbody, rfl⟩
    rcases Reading.and_eq_ok.mp h₈ with ⟨_, headers, h₇, hheaders, rfl⟩
    rcases Reading.and_eq_ok.mp h₇ with ⟨_, modifiers, h₆, hmodifiers, rfl⟩
    rcases Reading.and_eq_ok.mp h₆ with ⟨_, options, h₅, hoptions, rfl⟩
    rcases Reading.and_eq_ok.mp h₅ with ⟨_, query, h₄, hquery, rfl⟩
    rcases Reading.and_eq_ok.mp h₄ with ⟨_, version, h₃, hversion, rfl⟩
    rcases Reading.and_eq_ok.mp h₃ with ⟨_, segments, h₂, hsegments, rfl⟩
    rcases Reading.and_eq_ok.mp h₂ with ⟨_, path, h₁, hpath, rfl⟩
    rcases Reading.and_eq_ok.mp h₁ with ⟨_, method, h₀, hmethod, rfl⟩
    cases h₀
    exact ⟨hmethod, hpath, hsegments, hversion, hquery, hoptions, hmodifiers, hheaders, hbody, hname⟩
  · intro h
    rw [h.method, h.path, h.segments, h.apiVersion, h.queryString, h.customOptions, h.modifiers,
      h.headers, h.body, h.variableName]
    rfl

theorem readEntries_eq_ok {α : Type} {cause : Cause} {read : List (Value × Value) → Reading α}
    {v : Value} {a : α} : readEntries cause read v = .ok a ↔
      ∃ entries, v.entries? = some entries ∧ read entries = .ok a := by
  rw [readEntries]
  cases v.entries? with
  | none => simp only [Reading.fail, reduceCtorEq, false_and, exists_false]
  | some entries => simp only [Option.some.injEq, exists_eq_left']

theorem readTuple_eq_ok {α : Type} {read : Value → Reading α} {v : Value} {as : List α} :
    readTuple read v = .ok as ↔
      ∃ items, v.items? = some items ∧ List.Forall₂ (fun v a => read v = .ok a) items as := by
  rw [readTuple]
  cases v.items? with
  | none => simp only [Reading.fail, reduceCtorEq, false_and, exists_false]
  | some items => simp only [Option.some.injEq, exists_eq_left', Reading.items_eq_ok]

/-! ## Entries that are left out -/

/-- An entry that is left out is not found any more, and all else is as before. -/
theorem lookup_eraseEntry (name key : Text) (entries : List (Value × Value)) :
    Value.lookup name (Value.eraseEntry key entries) =
      if name = key then none else Value.lookup name entries := by
  induction entries with
  | nil => split <;> rfl
  | cons e rest ih =>
      rw [Value.eraseEntry, List.filter_cons, ← Value.eraseEntry]
      by_cases hkey : Value.sameKey e.1 (.text key) = true
      · rw [hkey, Bool.not_true, if_neg Bool.false_ne_true, ih, lookup_cons]
        by_cases hname : name = key
        · rw [if_pos hname, if_pos hname]
        · -- The entry that is left out has another name.
          rw [if_neg hname, if_neg hname, if_neg]
          rw [sameKey_text.mp hkey, sameKey_text]
          exact fun hsame => hname (Value.text.inj hsame).symm
      · rw [Bool.not_eq_true] at hkey
        rw [hkey, Bool.not_false, if_pos rfl, lookup_cons, lookup_cons, ih]
        by_cases hname : name = key
        · rw [if_pos hname, if_pos hname, hname, hkey, if_neg Bool.false_ne_true]
        · rw [if_neg hname, if_neg hname]

/-- What is written under a name is left out with it. -/
theorem eraseEntry_insertEntry (key : Text) (v : Value) (entries : List (Value × Value)) :
    Value.eraseEntry key (Value.insertEntry (.text key) v entries) = Value.eraseEntry key entries := by
  have hkey : Value.sameKey (.text key) (.text key) = true := sameKey_text.mpr rfl
  induction entries with
  | nil =>
      rw [Value.insertEntry, Value.eraseEntry, List.filter_cons_of_neg (by simp only [hkey, Bool.not_true,
        Bool.false_eq_true, not_false_eq_true])]
      rfl
  | cons e rest ih =>
      rcases e with ⟨k, old⟩
      rw [Value.insertEntry]
      cases hsame : Value.sameKey k (.text key) with
      | true =>
          rw [if_pos rfl]
          simp only [Value.eraseEntry, List.filter_cons, hsame, Bool.not_true, Bool.false_eq_true,
            if_false]
      | false =>
          rw [if_neg Bool.false_ne_true]
          simp only [Value.eraseEntry, List.filter_cons, hsame, Bool.not_false, if_true] at ih ⊢
          rw [ih]

/-- Data with an entry for modifiers are accepted if they are without it, and the modifiers are. -/
theorem readRequestFields_modifiers {entries : List (Value × Value)} {v : Value} {r r' : Request}
    (hlookup : Value.lookup "modifiers" entries = some v)
    (hother : readRequestFields (Value.eraseEntry "modifiers" entries) = .ok r) :
    readRequestFields entries = .ok r' ↔
      ∃ modifiers, readModifiers v = .ok modifiers ∧ r' = { r with modifiers } := by
  have hsame (name : Text) (hname : name ≠ "modifiers") :
      Value.lookup name (Value.eraseEntry "modifiers" entries) = Value.lookup name entries := by
    rw [lookup_eraseEntry, if_neg hname]
  have hfields := readRequestFields_eq_ok.mp hother
  -- So the fields of either are the same, but for the modifiers.
  have hothers (modifiers : Modifiers) (hread : readModifiers v = .ok modifiers) :
      FieldsRead entries { r with modifiers } := by
    constructor
    case modifiers => exact Reading.optional_of_lookup hlookup hread
    case method => exact (Reading.required_congr (hsame _ (by decide))).symm.trans hfields.method
    case path => exact (Reading.required_congr (hsame _ (by decide))).symm.trans hfields.path
    case segments => exact (Reading.optional_congr (hsame _ (by decide))).symm.trans hfields.segments
    case apiVersion => exact (Reading.optional_congr (hsame _ (by decide))).symm.trans hfields.apiVersion
    case queryString => exact (Reading.optional_congr (hsame _ (by decide))).symm.trans hfields.queryString
    case customOptions =>
      exact (Reading.optional_congr (hsame _ (by decide))).symm.trans hfields.customOptions
    case headers => exact (Reading.optional_congr (hsame _ (by decide))).symm.trans hfields.headers
    case body => exact (Reading.optional_congr (hsame _ (by decide))).symm.trans hfields.body
    case variableName =>
      exact (Reading.optional_congr (hsame _ (by decide))).symm.trans hfields.variableName
  constructor
  · intro h
    have hread := (readRequestFields_eq_ok.mp h).modifiers
    rw [Reading.optional, hlookup, Reading.under_eq_ok] at hread
    refine ⟨r'.modifiers, hread, ?_⟩
    -- A description is read in one way only.
    have hboth := readRequestFields_eq_ok.mpr (hothers _ hread)
    rw [h] at hboth
    exact Except.ok.inj hboth
  · rintro ⟨modifiers, hread, rfl⟩
    exact readRequestFields_eq_ok.mpr (hothers modifiers hread)

/-! ## Members, each once -/

theorem nodup_distinct (ts : List Text) : (distinct ts).Nodup := by
  induction ts with
  | nil => exact List.nodup_nil
  | cons t rest ih =>
      refine List.nodup_cons.mpr ⟨fun hmem => ?_, ih.filter _⟩
      simpa using List.of_mem_filter hmem

theorem distinct_eq_self {ts : List Text} (h : ts.Nodup) : distinct ts = ts := by
  induction ts with
  | nil => rfl
  | cons t rest ih =>
      rcases List.nodup_cons.mp h with ⟨ht, hrest⟩
      rw [distinct, ih hrest, List.filter_eq_self.mpr]
      intro other hother
      simpa using fun hsame : other = t => ht (hsame ▸ hother)

end CallSnippets
