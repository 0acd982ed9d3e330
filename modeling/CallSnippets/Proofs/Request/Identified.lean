import CallSnippets.Proofs.Request.Modifier
import CallSnippets.Proofs.Request.Source

/-!
# Ids as names

An id that is a text or a whole number names its request by the text that stands for it. The requests of a
document that all have such ids, with texts that are not empty and differ from each other, are loaded under
these texts in the order of the document.

There is one exception, the number zero. It counts as no id, so the request is named for its method and its
path instead. This name is none of the texts of the ids, but it stands beside them: if it is the id of one
of the other requests, the document is refused, although no two of its ids are the same.

## Main definitions

* `Identity`: A request with its id and the text of the id.
* `identity?`: What an entry is if it is valid and has a text or a whole number for its id.
* `Identity.name`: The name that such an entry gets.
* `Clash`: The name that is made for the number zero is the id of another request.
* `IdentifiedLoads`: What becomes of a document with such entries.

## Theorems

* `identity?_eq_some`: What is asked of such an entry.
* `taken_of_identity?`: Such an entry is taken with its name.
* `namedRequestsFrom_of_taken`: A list with entries that are taken fails for a repeated name at most.
* `exists_named_twice`: A name is there twice if it is made for the number zero and is the id of another one.
* `namedRequestsFrom_identified`, `loadRequests_identified`: What becomes of such a document.
-/

namespace CallSnippets

/-- The text or the whole number that a value is. -/
def Value.scalar? : Value → Option Scalar
  | text t => some (.text t)
  | int n => some (.int n)
  | _ => none

/-- A request of a document, with its id. -/
structure Identity where
  /-- The id. -/
  id : Scalar
  /-- The text that stands for the id. -/
  form : Text
  /-- The request. -/
  request : Request
  deriving DecidableEq, Repr

namespace Identity

/-- The name that the request has without an id. -/
def derived (i : Identity) : Text :=
  requestName i.request.method i.request.path

/-- The name that the request gets: the text of its id, unless this is the number zero. -/
def name (i : Identity) : Text :=
  if i.id = .int 0 then i.derived else i.form

end Identity

/-- The request and the id of an entry that is valid and has a text or a whole number for its id, with the
    text that stands for the id. -/
def identity? (v : Value) : Option Identity := do
  let entries ← v.entries?
  let id ← (Value.lookup "id" entries).bind Value.scalar?
  let form ← id.text?.toOption
  let fields ← (withBodyText (Value.eraseEntry "id" entries)).toOption
  let request ← (readRequestFields fields).toOption
  return ⟨id, form, request⟩

variable {v : Value} {i j k : Identity} {values : List Value} {identities : List Identity} {path : Text}
  {requests : List (Text × Request)}

/-! ## One entry -/

theorem Value.scalar?_eq_some {s : Scalar} :
    v.scalar? = some s ↔ (∃ t, v = .text t ∧ s = .text t) ∨ ∃ n, v = .int n ∧ s = .int n := by
  cases v with
  | text t => simp only [Value.scalar?, Option.some.injEq, Value.text.injEq, exists_eq_left', reduceCtorEq,
      false_and, exists_false, or_false, eq_comm]
  | int n => simp only [Value.scalar?, Option.some.injEq, Value.int.injEq, exists_eq_left', reduceCtorEq,
      false_and, exists_false, false_or, eq_comm]
  | _ => simp only [Value.scalar?, reduceCtorEq, false_and, exists_false, or_self]

/-- What is asked of an entry. -/
theorem identity?_eq_some : identity? v = some i ↔ ∃ entries fields, v.entries? = some entries ∧
    (Value.lookup "id" entries).bind Value.scalar? = some i.id ∧ i.id.Shown i.form ∧
    withBodyText (Value.eraseEntry "id" entries) = .ok fields ∧ readRequestFields fields = .ok i.request := by
  have hok {ε α : Type} {x : Except ε α} {a : α} : x.toOption = some a ↔ x = .ok a :=
    ⟨eq_ok_of_toOption, fun h => h ▸ rfl⟩
  simp only [identity?, Option.bind_eq_bind, Option.bind_eq_some_iff, Option.pure_def, Option.some.injEq, hok,
    Scalar.text?_eq_ok]
  constructor
  · rintro ⟨entries, hmap, id, hid, form, hform, fields, hfields, request, hread, rfl⟩
    exact ⟨entries, fields, hmap, hid, hform, hfields, hread⟩
  · rintro ⟨entries, fields, hmap, hid, hform, hfields, hread⟩
    exact ⟨entries, hmap, i.id, hid, i.form, hform, fields, hfields, i.request, hread, rfl⟩

/-- An entry is taken with its name. -/
theorem taken_of_identity? (h : identity? v = some i) (hform : i.form ≠ []) :
    Taken v (i.name, i.request) := by
  rcases identity?_eq_some.mp h with ⟨entries, fields, hmap, hid, hshown, hfields, hread⟩
  rcases Option.bind_eq_some_iff.mp hid with ⟨id, hlookup, hscalar⟩
  refine .mk hmap hfields hread ?_
  rw [hlookup, Identity.name]
  -- A text counts if it is not empty, and a number if it is not zero.
  have htext := Scalar.text?_eq_ok.mpr hshown
  rcases Value.scalar?_eq_some.mp hscalar with ⟨t, rfl, hkind⟩ | ⟨n, rfl, hkind⟩
  · rw [hkind] at htext ⊢
    have hsame : t = i.form := Except.ok.inj htext
    have hcounts : (Value.text t).isVoid = false := by
      rw [hsame]
      exact List.isEmpty_eq_false_iff.mpr hform
    rw [if_neg (by simp only [reduceCtorEq, not_false_eq_true])]
    exact .given hcounts (congrArg Except.ok hsame)
  · rw [hkind] at htext ⊢
    by_cases hzero : n = 0
    · rw [hzero, if_pos rfl]
      exact .void rfl
    · rw [if_neg fun hsame => hzero (Scalar.int.inj hsame)]
      exact .given (beq_eq_false_iff_ne.mpr hzero) htext

/-! ## Lists of entries -/

/-- A list with entries that are taken is refused for a name at most, that of an earlier one. -/
theorem namedRequestsFrom_of_taken (h : List.Forall₂ Taken values requests) (known : List Text)
    (number : Nat) :
    namedRequestsFrom path known number values = .ok requests ∨
      ∃ before r after, requests = before ++ r :: after ∧ r.1 ∈ before.map Prod.fst ++ known ∧
        namedRequestsFrom path known number values = .error (.refusal (.duplicateName path r.1)) := by
  induction h generalizing known number with
  | nil => exact .inl rfl
  | @cons v r values requests htaken _ ih =>
      by_cases hknown : r.1 ∈ known
      · refine .inr ⟨[], r, requests, rfl, hknown, namedRequestsFrom_cons_eq_error.mpr (.inl ?_)⟩
        exact stops_iff.mpr (.inr ⟨r, htaken, hknown, rfl⟩)
      -- The names that are known behind the entry are one more, so the claim is about any of them.
      rcases ih (r.1 :: known) (number + 1) with hrest | ⟨before, d, after, rfl, hmem, hrest⟩
      · exact .inl (namedRequestsFrom_cons_eq_ok.mpr ⟨r, requests, htaken, hknown, hrest, rfl⟩)
      · refine .inr ⟨r :: before, d, after, rfl, ?_, ?_⟩
        · simpa only [List.map_cons, List.cons_append, List.mem_append, List.mem_cons, or_left_comm]
            using hmem
        · exact namedRequestsFrom_cons_eq_error.mpr (.inr ⟨r, htaken, hknown, hrest⟩)

/-- The name that is made for the number zero is the id of another request. -/
def Clash (identities : List Identity) (i : Identity) : Prop :=
  i ∈ identities ∧ i.id = .int 0 ∧ ∃ j ∈ identities, j.id ≠ .int 0 ∧ j.form = i.derived

section

variable (hall : values.map identity? = identities.map some) (hdistinct : (identities.map Identity.form).Nodup)
include hall

/-- Entries are taken with their names. -/
theorem forall₂_taken (hforms : ∀ i ∈ identities, i.form ≠ []) :
    List.Forall₂ Taken values (identities.map fun i => (i.name, i.request)) := by
  induction values generalizing identities with
  | nil =>
      rw [List.map_nil, eq_comm, List.map_eq_nil_iff] at hall
      rw [hall]
      exact .nil
  | cons v values ih =>
      rcases List.map_eq_cons_iff.mp hall.symm with ⟨i, others, rfl, hv, hothers⟩
      rcases List.forall_mem_cons.mp hforms with ⟨hform, hforms⟩
      exact .cons (taken_of_identity? hv.symm hform) (ih hothers.symm hforms)

include hdistinct

/-- No two entries have the same id. -/
theorem eq_of_id (hi : i ∈ identities) (hj : j ∈ identities) (hsame : i.id = j.id) : i = j := by
  have hshown : ∀ k ∈ identities, k.id.text? = .ok k.form := by
    intro k hk
    have hmem : some k ∈ values.map identity? := by
      rw [hall]
      exact List.mem_map_of_mem hk
    rcases List.mem_map.mp hmem with ⟨v, _, hv⟩
    rcases identity?_eq_some.mp hv with ⟨_, _, _, _, hform, _⟩
    exact Scalar.text?_eq_ok.mpr hform
  have hform : i.form = j.form := Except.ok.inj ((hshown i hi).symm.trans (hsame ▸ hshown j hj))
  exact List.inj_on_of_nodup_map hdistinct hi hj hform

/-- A name that is there twice was made for the number zero, and is the id of another request. -/
theorem exists_named_twice {before after : List Identity} (hsplit : identities = before ++ k :: after)
    (hname : k.name ∈ before.map Identity.name) : ∃ i, Clash identities i ∧ k.name = i.derived := by
  rcases List.mem_map.mp hname with ⟨l, hl, hsame⟩
  have hmem : k ∈ identities := by
    rw [hsplit]
    exact List.mem_append_right _ (List.mem_cons_self ..)
  have hbefore : l ∈ identities := by
    rw [hsplit]
    exact List.mem_append_left _ hl
  have hdiffer : l ≠ k := by
    rintro rfl
    rw [hsplit, List.map_append, List.nodup_append] at hdistinct
    exact hdistinct.2.2 _ (List.mem_map_of_mem hl) _ (List.mem_map_of_mem (List.mem_cons_self ..)) rfl
  -- Of two with the same name one is the number zero, since the texts of the ids differ.
  by_cases hk : k.id = .int 0
  · have hother : l.id ≠ .int 0 := fun hl => hdiffer (eq_of_id hall hdistinct hbefore hmem (hl.trans hk.symm))
    rw [Identity.name, Identity.name, if_neg hother, if_pos hk] at hsame
    exact ⟨k, ⟨hmem, hk, l, hbefore, hother, hsame⟩, if_pos hk⟩
  · by_cases hzero : l.id = .int 0
    · rw [Identity.name, Identity.name, if_pos hzero, if_neg hk] at hsame
      exact ⟨l, ⟨hbefore, hzero, k, hmem, hk, hsame.symm⟩, (if_neg hk).trans hsame.symm⟩
    · rw [Identity.name, Identity.name, if_neg hzero, if_neg hk] at hsame
      exact absurd (List.inj_on_of_nodup_map hdistinct hbefore hmem hsame) hdiffer

/-- The entries are loaded under their names, unless there is a clash. -/
theorem namedRequestsFrom_identified (hforms : ∀ i ∈ identities, i.form ≠ []) (path : Text) :
    namedRequestsFrom path [] 1 values = .ok (identities.map fun i => (i.name, i.request)) ∨
      ∃ i, Clash identities i ∧
        namedRequestsFrom path [] 1 values = .error (.refusal (.duplicateName path i.derived)) := by
  rcases namedRequestsFrom_of_taken (forall₂_taken hall hforms) [] 1 with
    hok | ⟨before, r, after, hsplit, hmem, herror⟩
  · exact .inl hok
  · -- The repeated name is that of an entry, and it is there twice among the names of all entries.
    rcases List.map_eq_append_iff.mp hsplit with ⟨first, others, hidentities, rfl, hothers⟩
    rcases List.map_eq_cons_iff.mp hothers with ⟨k, rest, rfl, rfl, _⟩
    rw [List.append_nil, List.map_map] at hmem
    rcases exists_named_twice hall hdistinct hidentities hmem with ⟨i, hclash, hname⟩
    exact .inr ⟨i, hclash, by rw [herror, ← hname]⟩

end

/-! ## Documents -/

open FileTree

variable {t : FileTree} {p : Path} {entries : List (Value × Value)}

/-- What becomes of the requests in a file that are valid, with ids that are texts and whole numbers. -/
structure IdentifiedLoads (t : FileTree) (p : Path) (identities : List Identity) : Prop where
  /-- If no id is the number zero, they are loaded under the texts of their ids, in the order of the file. -/
  named : (∀ i ∈ identities, i.id ≠ .int 0) →
    ((loadRequests p : StateM FileTree _) t).1 = .ok (identities.map fun i => (i.form, i.request))
  /-- The request with the number zero is loaded under the name that is made for it instead, if this is not
      the id of another one. -/
  renamed : (∀ i, ¬Clash identities i) →
    ((loadRequests p : StateM FileTree _) t).1 = .ok (identities.map fun i => (i.name, i.request))
  /-- If it is, the file is refused. -/
  refused : ∀ i, Clash identities i →
    ((loadRequests p : StateM FileTree _) t).1 = .error (.refusal (.duplicateName p.text i.derived))

/-- What becomes of a file with such requests, the ids of which have texts that are not empty and differ from
    each other. -/
theorem loadRequests_identified (h : ((loadEntries p : StateM FileTree _) t).1 = .ok entries)
    (hlists : Lists entries values) (hall : values.map identity? = identities.map some)
    (hforms : ∀ i ∈ identities, i.form ≠ []) (hdistinct : (identities.map Identity.form).Nodup) :
    IdentifiedLoads t p identities := by
  have hload : ((loadRequests p : StateM FileTree _) t).1 = namedRequestsFrom p.text [] 1 values :=
    (loadRequests_of_entries h).trans (namedRequests_of_lists hlists)
  have houtcome := namedRequestsFrom_identified hall hdistinct hforms p.text
  have hrenamed (hnone : ∀ i, ¬Clash identities i) : namedRequestsFrom p.text [] 1 values =
      .ok (identities.map fun i => (i.name, i.request)) := by
    rcases houtcome with hok | ⟨i, hclash, _⟩
    · exact hok
    · exact absurd hclash (hnone i)
  constructor
  case named =>
    intro hcount
    rw [hload, hrenamed fun i hclash => hcount i hclash.1 hclash.2.1]
    refine congrArg Except.ok (List.map_congr_left fun i hi => ?_)
    rw [Identity.name, if_neg (hcount i hi)]
  case renamed =>
    intro hnone
    rw [hload, hrenamed hnone]
  case refused =>
    intro i hclash
    rcases hclash with ⟨hi, hzero, j, hj, hcounts, hform⟩
    rw [hload]
    rcases houtcome with hok | ⟨k, hclash, herror⟩
    · -- The two requests have one name, so they were not both taken.
      rcases namedRequestsFrom_nil_eq_ok.mp hok with ⟨_, hnames⟩
      rw [List.map_map] at hnames
      have hsame : i.name = j.name := by
        rw [Identity.name, if_pos hzero, Identity.name, if_neg hcounts, hform]
      rw [List.inj_on_of_nodup_map hnames hi hj hsame] at hzero
      exact absurd hzero hcounts
    · rw [herror, eq_of_id hall hdistinct hclash.1 hi (hclash.2.1.trans hzero.symm)]

/-- The only file is one with this content. -/
def describedTree (content : String) : FileTree :=
  filesTree [("d.yaml", content)]

/-- The entries of its requests as it is loaded. -/
def describedValues? (content : String) : Option (List Value) :=
  ((loadEntries (Path.ofText "d.yaml") : StateM FileTree _) (describedTree content)).1.toOption.bind
    fun entries => (requestEntries "d.yaml" entries).toOption

theorem describedValues?_eq_some {content : String} (h : describedValues? content = some values) :
    ∃ entries, ((loadEntries (Path.ofText "d.yaml") : StateM FileTree _) (describedTree content)).1 =
      .ok entries ∧ Lists entries values := by
  rcases Option.bind_eq_some_iff.mp h with ⟨entries, hentries, hlisted⟩
  exact ⟨entries, eq_ok_of_toOption hentries, requestEntries_eq_ok.mp (eq_ok_of_toOption hlisted)⟩

/-- A request with nothing but a method and a path. -/
def bareRequest (method path : Text) : Request :=
  ⟨method, path, [], "v1.0", [], [], [], [], none, "res"⟩

/-- Two requests, one with a number for its id and one with a text. -/
def numberedText : String :=
  "requests:\n- \x7bid: 7, method: GET, path: /me\x7d\n- \x7bid: x/y, method: POST, path: /me\x7d\n"

def numberedIdentities : List Identity :=
  [⟨.int 7, "7", bareRequest "GET" "/me"⟩, ⟨.text "x/y", "x/y", bareRequest "POST" "/me"⟩]

def numberedValues : { values : List Value // describedValues? numberedText = some values ∧
    values.map identity? = numberedIdentities.map some } :=
  ⟨(describedValues? numberedText).get (by decide +kernel), (Option.some_get _).symm, by decide +kernel⟩

/-- The requests are loaded under the texts of their ids. -/
theorem loadRequests_identified_numbered :
    ((loadRequests (Path.ofText "d.yaml") : StateM FileTree _) (describedTree numberedText)).1 =
      .ok [("7", bareRequest "GET" "/me"), ("x/y", bareRequest "POST" "/me")] := by
  rcases numberedValues with ⟨values, hvalues, hall⟩
  rcases describedValues?_eq_some hvalues with ⟨entries, hentries, hlists⟩
  exact (loadRequests_identified hentries hlists hall (by decide) (by decide)).named (by decide)

/-- A request with the number zero for its id. -/
def zeroText : String :=
  "requests:\n- \x7bid: 0, method: GET, path: /me\x7d\n"

def zeroIdentity : Identity :=
  ⟨.int 0, "0", bareRequest "GET" "/me"⟩

def zeroValues : { values : List Value // describedValues? zeroText = some values ∧
    values.map identity? = [some zeroIdentity] ∧
    (namedRequestsFrom "d.yaml" [] 1 values).toOption =
      some [(Text.ofString "get-me", bareRequest "GET" "/me")] } :=
  ⟨(describedValues? zeroText).get (by decide +kernel), (Option.some_get _).symm, by decide +kernel⟩

/-- The text of the only id is not empty, but the request is not loaded under it. -/
theorem loadRequests_zero :
    (∃ entries values,
      ((loadEntries (Path.ofText "d.yaml") : StateM FileTree _) (describedTree zeroText)).1 = .ok entries ∧
        Lists entries values ∧ values.map identity? = [some zeroIdentity]) ∧
      zeroIdentity.form = "0" ∧
      ((loadRequests (Path.ofText "d.yaml") : StateM FileTree _) (describedTree zeroText)).1 =
        .ok [("get-me", bareRequest "GET" "/me")] := by
  rcases zeroValues with ⟨values, hvalues, hall, hrequests⟩
  rcases describedValues?_eq_some hvalues with ⟨entries, hentries, hlists⟩
  refine ⟨⟨entries, values, hentries, hlists, hall⟩, rfl, ?_⟩
  rw [loadRequests_of_entries hentries]
  exact (namedRequests_of_lists hlists).trans (eq_ok_of_toOption hrequests)

end CallSnippets
