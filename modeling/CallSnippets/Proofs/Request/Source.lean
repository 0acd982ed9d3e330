import CallSnippets.Proofs.Files.Tree
import CallSnippets.Proofs.Request.Fields
import CallSnippets.Request.Source

/-!
# Documents of requests

The requests of a document are taken one after the other, and each is judged by itself and by the names of
those before it. So the first entry that is not taken ends the list, and the reason is the same whatever
comes behind it.

There are three reasons to refuse an entry: it is no mapping, its fields are not valid, or its name is
that of an earlier one. Two more end in a fault, because a body or an id cannot be turned into a text.

## Main definitions

* `Lists`: The entries that a document has for requests.
* `Taken`: An entry is taken as a request with a name.
* `Stops`: Why an entry is not taken.
* `IsWritable`: The body and the id of an entry can be turned into texts.
* `SourceLoads`: Everything that is known of a file with the entries of a mapping.

## Theorems

* `namedRequest_eq_ok`, `stops_iff`: What becomes of one entry.
* `namedRequestsFrom_eq_ok`: When a list of entries is taken.
* `namedRequestsFrom_eq_error`: Why it is not.
* `loadRequests_listed`: What becomes of a document.
-/

namespace CallSnippets

open FileTree

/-- The entries that a document has for requests: the items of the list that it names as such, or the
    document itself. -/
inductive Lists (entries : List (Value × Value)) : List Value → Prop where
  /-- The document names a list. -/
  | listed {v : Value} {values : List Value} (hnamed : Value.lookup "requests" entries = some v)
      (hlist : v.list? = some values) : Lists entries values
  /-- The document names none. -/
  | alone (h : Value.lookup "requests" entries = none) : Lists entries [.map entries]

/-- The name that a request has with an id or without one: the id as it is shown, or one that is made from
    the method and the path if there is no id that counts as one. -/
inductive NamedBy (r : Request) : Option Value → Text → Prop where
  /-- There is no id. -/
  | none : NamedBy r none (requestName r.method r.path)
  /-- The id counts as none. -/
  | void {id : Value} (h : id.isVoid = true) : NamedBy r (some id) (requestName r.method r.path)
  /-- The id counts. -/
  | given {id : Value} {name : Text} (h : id.isVoid = false) (hshown : id.display = .ok name) :
      NamedBy r (some id) name

/-- An entry is taken as a request with a name: it is a mapping, its fields besides the id are valid, and
    the name is that of the request with this id. -/
inductive Taken (v : Value) : Text × Request → Prop where
  | mk {entries fields : List (Value × Value)} {name : Text} {r : Request}
      (hmap : v.entries? = some entries)
      (hfields : withBodyText (Value.eraseEntry "id" entries) = .ok fields)
      (hread : readRequestFields fields = .ok r) (hname : NamedBy r (Value.lookup "id" entries) name) :
      Taken v (name, r)

/-- Why the entry with a number is not taken behind others with the given names. -/
inductive Stops (path : Text) (names : List Text) (number : Nat) (v : Value) : Trouble → Prop where
  /-- It is no mapping. -/
  | notMapping (h : v.entries? = none) :
      Stops path names number v (.refusal (.requestNotMapping path number))
  /-- Its body cannot be turned into a text. -/
  | unwritten {entries : List (Value × Value)} {f : Fault} (hmap : v.entries? = some entries)
      (h : withBodyText (Value.eraseEntry "id" entries) = .error f) :
      Stops path names number v (.fault f)
  /-- Its fields are not valid. -/
  | invalid {entries fields : List (Value × Value)} {issues : List Issue}
      (hmap : v.entries? = some entries)
      (hfields : withBodyText (Value.eraseEntry "id" entries) = .ok fields)
      (h : readRequestFields fields = .error issues) :
      Stops path names number v (.refusal (.invalidRequest path number issues))
  /-- Its id cannot be turned into a text. -/
  | unshown {entries fields : List (Value × Value)} {r : Request} {id : Value} {f : Fault}
      (hmap : v.entries? = some entries)
      (hfields : withBodyText (Value.eraseEntry "id" entries) = .ok fields)
      (hread : readRequestFields fields = .ok r) (hid : Value.lookup "id" entries = some id)
      (hcounts : id.isVoid = false) (h : id.display = .error f) : Stops path names number v (.fault f)
  /-- Its name is that of an earlier one. -/
  | repeated {name : Text} {r : Request} (htaken : Taken v (name, r)) (h : name ∈ names) :
      Stops path names number v (.refusal (.duplicateName path name))

variable {path name : Text} {known : List Text} {number : Nat} {v : Value} {values before after : List Value}
  {r : Text × Request} {requests : List (Text × Request)} {entries : List (Value × Value)} {e : Trouble}

/-! ## One entry -/

theorem orFault_eq_ok {α : Type} {x : Except Fault α} {a : α} : orFault x = .ok a ↔ x = .ok a :=
  mapError_eq_ok

theorem orFault_eq_error {α : Type} {x : Except Fault α} :
    orFault x = .error e ↔ ∃ f, x = .error f ∧ .fault f = e :=
  mapError_eq_error

theorem nameOf_eq_ok {id : Option Value} {r : Request} : nameOf id r = .ok name ↔ NamedBy r id name := by
  constructor
  · intro h
    cases id with
    | none =>
        cases h
        exact .none
    | some id =>
        rw [nameOf] at h
        split at h
        · rename_i hvoid
          cases h
          exact .void hvoid
        · rename_i hcounts
          exact .given (Bool.not_eq_true _ ▸ hcounts) h
  · intro h
    cases h with
    | none => rfl
    | void hvoid => rw [nameOf, if_pos hvoid]
    | given hcounts hshown => rw [nameOf, hcounts, if_neg Bool.false_ne_true, hshown]

theorem nameOf_eq_error {id : Option Value} {r : Request} {f : Fault} :
    nameOf id r = .error f ↔ ∃ v, id = some v ∧ v.isVoid = false ∧ v.display = .error f := by
  cases id with
  | none => simp only [nameOf, reduceCtorEq, false_and, exists_false]
  | some id =>
      simp only [nameOf, Option.some.injEq, exists_eq_left']
      cases id.isVoid with
      | true => simp only [if_true, reduceCtorEq, Bool.true_eq_false, false_and]
      | false => simp only [Bool.false_eq_true, if_false, true_and]

/-- An entry gives the request that it is taken as. -/
theorem namedRequest_eq_ok : namedRequest path number v = .ok r ↔ Taken v r := by
  rw [namedRequest]
  constructor
  · intro h
    split at h
    · cases h
    · rename_i entries hmap
      rcases bind_eq_ok.mp h with ⟨fields, hfields, hread⟩
      split at hread
      · cases hread
      · rename_i request hrequest
        rcases bind_eq_ok.mp hread with ⟨name, hname, hpair⟩
        cases hpair
        exact .mk hmap (orFault_eq_ok.mp hfields) hrequest (nameOf_eq_ok.mp (orFault_eq_ok.mp hname))
  · rintro ⟨hmap, hfields, hread, hname⟩
    rw [hmap]
    simp only [hfields, orFault, mapError_ok, ok_bind, hread, nameOf_eq_ok.mpr hname]
    rfl

/-- An entry is not taken if it gives no request, or one whose name is known. -/
theorem stops_iff : Stops path known number v e ↔
    namedRequest path number v = .error e ∨
      ∃ r, Taken v r ∧ r.1 ∈ known ∧ e = .refusal (.duplicateName path r.1) := by
  constructor
  · intro h
    cases h with
    | notMapping hmap =>
        refine .inl ?_
        rw [namedRequest, hmap]
    | unwritten hmap hbody =>
        refine .inl ?_
        rw [namedRequest, hmap]
        simp only [hbody, orFault, mapError_error, error_bind]
    | invalid hmap hfields hread =>
        refine .inl ?_
        rw [namedRequest, hmap]
        simp only [hfields, orFault, mapError_ok, ok_bind, hread]
    | @unshown entries _ r id f hmap hfields hread hid hcounts hshown =>
        have hname : nameOf (Value.lookup "id" entries) r = .error f :=
          nameOf_eq_error.mpr ⟨id, hid, hcounts, hshown⟩
        refine .inl ?_
        rw [namedRequest, hmap]
        simp only [hfields, orFault, mapError_ok, ok_bind, hread, hname, mapError_error, error_bind]
    | repeated htaken hname => exact .inr ⟨_, htaken, hname, rfl⟩
  · rintro (h | ⟨r, htaken, hname, rfl⟩)
    · rw [namedRequest] at h
      split at h
      · rename_i hmap
        cases h
        exact .notMapping hmap
      · rename_i entries hmap
        rcases bind_eq_error.mp h with hbody | ⟨fields, hfields, hread⟩
        · rcases orFault_eq_error.mp hbody with ⟨f, hf, rfl⟩
          exact .unwritten hmap hf
        · have hfields := orFault_eq_ok.mp hfields
          split at hread
          · rename_i issues hissues
            cases hread
            exact .invalid hmap hfields hissues
          · rename_i request hrequest
            rcases bind_eq_error.mp hread with hname | ⟨name, _, hpair⟩
            · rcases orFault_eq_error.mp hname with ⟨f, hf, rfl⟩
              rcases nameOf_eq_error.mp hf with ⟨id, hid, hcounts, hshown⟩
              exact .unshown hmap hfields hrequest hid hcounts hshown
            · cases hpair
    · exact .repeated htaken hname

/-- Of the entries before, only the names matter, and not their order. -/
theorem Stops.congr {names : List Text} (hsame : ∀ name, name ∈ known ↔ name ∈ names)
    (h : Stops path known number v e) : Stops path names number v e := by
  rw [stops_iff] at h ⊢
  simpa only [hsame] using h

/-! ## Lists of entries -/

/-- A list is taken if its first entry is, with a new name, and the others are behind it. -/
theorem namedRequestsFrom_cons_eq_ok :
    namedRequestsFrom path known number (v :: values) = .ok requests ↔
      ∃ r others, Taken v r ∧ r.1 ∉ known ∧
        namedRequestsFrom path (r.1 :: known) (number + 1) values = .ok others ∧
          requests = r :: others := by
  rw [namedRequestsFrom, bind_eq_ok]
  constructor
  · rintro ⟨r, hr, hrest⟩
    split at hrest
    · cases hrest
    · rename_i hnew
      rcases bind_eq_ok.mp hrest with ⟨others, hothers, hmade⟩
      cases hmade
      exact ⟨r, others, namedRequest_eq_ok.mp hr, fun h => hnew (List.contains_iff_mem.mpr h), hothers, rfl⟩
  · rintro ⟨r, others, htaken, hnew, hothers, rfl⟩
    refine ⟨r, namedRequest_eq_ok.mpr htaken, ?_⟩
    rw [if_neg fun h => hnew (List.contains_iff_mem.mp h), hothers]
    rfl

/-- A list is not taken if its first entry is not, or one of the others is not behind it. -/
theorem namedRequestsFrom_cons_eq_error :
    namedRequestsFrom path known number (v :: values) = .error e ↔
      Stops path known number v e ∨ ∃ r, Taken v r ∧ r.1 ∉ known ∧
        namedRequestsFrom path (r.1 :: known) (number + 1) values = .error e := by
  rw [namedRequestsFrom, bind_eq_error, stops_iff, or_assoc]
  refine or_congr_right ?_
  constructor
  · rintro ⟨r, hr, hrest⟩
    have htaken := namedRequest_eq_ok.mp hr
    split at hrest
    · rename_i hknown
      cases hrest
      exact .inl ⟨r, htaken, List.contains_iff_mem.mp hknown, rfl⟩
    · rename_i hnew
      rcases bind_eq_error.mp hrest with hothers | ⟨others, _, hmade⟩
      · exact .inr ⟨r, htaken, fun h => hnew (List.contains_iff_mem.mpr h), hothers⟩
      · cases hmade
  · rintro (⟨r, htaken, hknown, rfl⟩ | ⟨r, htaken, hnew, hothers⟩)
    · refine ⟨r, namedRequest_eq_ok.mpr htaken, ?_⟩
      rw [if_pos (List.contains_iff_mem.mpr hknown)]
    · refine ⟨r, namedRequest_eq_ok.mpr htaken, ?_⟩
      rw [if_neg fun h => hnew (List.contains_iff_mem.mp h), hothers]
      rfl

/-- A list is taken if each of its entries is and their names are new and differ from each other. -/
theorem namedRequestsFrom_eq_ok :
    namedRequestsFrom path known number values = .ok requests ↔
      List.Forall₂ Taken values requests ∧ (requests.map Prod.fst).Nodup ∧
        ∀ name ∈ requests.map Prod.fst, name ∉ known := by
  -- The names that are known grow with each entry that is taken, so the claim is about any of them.
  induction values generalizing known number requests with
  | nil =>
      rw [namedRequestsFrom, Except.ok.injEq, List.forall₂_nil_left_iff]
      constructor
      · rintro rfl
        exact ⟨rfl, List.nodup_nil, fun name hname => absurd hname List.not_mem_nil⟩
      · exact fun h => h.1.symm
  | cons v rest ih =>
      simp only [namedRequestsFrom_cons_eq_ok, List.forall₂_cons_left_iff, ih]
      constructor
      · rintro ⟨r, others, htaken, hnew, ⟨hall, hdistinct, hnews⟩, rfl⟩
        refine ⟨⟨r, others, htaken, hall, rfl⟩, List.nodup_cons.mpr ⟨?_, hdistinct⟩,
          List.forall_mem_cons.mpr ⟨hnew, ?_⟩⟩
        · exact fun hmem => hnews _ hmem (List.mem_cons_self ..)
        · exact fun name hname hmem => hnews name hname (List.mem_cons_of_mem _ hmem)
      · rintro ⟨⟨r, others, htaken, hall, rfl⟩, hdistinct, hnews⟩
        rcases List.nodup_cons.mp hdistinct with ⟨hdiffers, hdistinct⟩
        rcases List.forall_mem_cons.mp hnews with ⟨hnew, hnews⟩
        refine ⟨r, others, htaken, hnew, ⟨hall, hdistinct, fun name hname => ?_⟩, rfl⟩
        rw [List.mem_cons, not_or]
        exact ⟨fun h => hdiffers (h ▸ hname), hnews name hname⟩

/-- A list is not taken if one of its entries is not, behind others that are. -/
theorem namedRequestsFrom_eq_error :
    namedRequestsFrom path known number values = .error e ↔
      ∃ before requests v after, values = before ++ v :: after ∧
        namedRequestsFrom path known number before = .ok requests ∧
          Stops path (requests.map Prod.fst ++ known) (number + before.length) v e := by
  induction values generalizing known number with
  | nil =>
      simp only [namedRequestsFrom, reduceCtorEq, List.nil_eq, List.append_eq_nil_iff, and_false,
        false_and, exists_false]
  | cons v rest ih =>
      rw [namedRequestsFrom_cons_eq_error]
      constructor
      · rintro (hstops | ⟨r, htaken, hnew, hrest⟩)
        · exact ⟨[], [], v, rest, rfl, rfl, hstops⟩
        · rcases ih.mp hrest with ⟨before, requests, w, after, rfl, hbefore, hstops⟩
          refine ⟨v :: before, r :: requests, w, after, rfl, ?_, ?_⟩
          · exact namedRequestsFrom_cons_eq_ok.mpr ⟨r, requests, htaken, hnew, hbefore, rfl⟩
          · -- The known names are the same ones, but the list of them was built from its other end.
            rw [List.length_cons, ← Nat.add_assoc, Nat.add_right_comm]
            refine hstops.congr fun name => ?_
            simp only [List.map_cons, List.mem_append, List.mem_cons, or_left_comm, or_assoc]
      · rintro ⟨before, requests, w, after, hvalues, hbefore, hstops⟩
        cases before with
        | nil =>
            cases hvalues
            cases hbefore
            exact .inl hstops
        | cons first before =>
            cases hvalues
            rcases namedRequestsFrom_cons_eq_ok.mp hbefore with ⟨r, others, htaken, hnew, hothers, rfl⟩
            refine .inr ⟨r, htaken, hnew, ih.mpr ⟨before, others, w, after, rfl, hothers, ?_⟩⟩
            rw [List.length_cons, ← Nat.add_assoc, Nat.add_right_comm] at hstops
            refine hstops.congr fun name => ?_
            simp only [List.map_cons, List.mem_append, List.mem_cons, or_left_comm, or_assoc]

/-! ## Documents -/

/-- A value with parts, that is a mapping or a list. -/
def IsStructured (v : Value) : Prop :=
  v.entries?.isSome ∨ v.list?.isSome

instance : DecidablePred IsStructured := fun v =>
  inferInstanceAs (Decidable (v.entries?.isSome ∨ v.list?.isSome))

/-- The body and the id of an entry can be turned into texts: a body with parts can be written as JSON, and
    the id can be shown. -/
def IsWritable (v : Value) : Prop :=
  ∀ entries ∈ v.entries?,
    (∀ body ∈ Value.lookup "request_body" entries, IsStructured body →
      (Json.print body).toOption.isSome) ∧
    ∀ id ∈ Value.lookup "id" entries, id.display.toOption.isSome

instance : DecidablePred IsWritable := fun v =>
  inferInstanceAs (Decidable (∀ entries ∈ v.entries?,
    (∀ body ∈ Value.lookup "request_body" entries, IsStructured body →
      (Json.print body).toOption.isSome) ∧
    ∀ id ∈ Value.lookup "id" entries, id.display.toOption.isSome))

theorem bodyValue_of_not_structured (h : ¬IsStructured v) : bodyValue v = .ok v := by
  rw [IsStructured, Value.entries?, Value.list?] at h
  rw [bodyValue.eq_def]
  split
  · rename_i hmap
    exact absurd (.inl (by rw [hmap]; rfl)) h
  · rename_i hlist
    exact absurd (.inr (by rw [hlist]; rfl)) h
  · rfl

theorem bodyValue_of_structured (h : IsStructured v) : bodyValue v = (Json.print v).map .text := by
  rw [IsStructured, Value.entries?, Value.list?] at h
  rw [bodyValue.eq_def]
  split
  · rfl
  · rfl
  · rename_i hmap hlist
    rcases h with h | h
    · split at h
      · rename_i hunknot
        exact absurd hunknot (hmap _)
      · cases h
    · split at h
      · rename_i hunknot
        exact absurd hunknot (hlist _)
      · cases h

/-- The fields of an entry that can be written do not end in a fault. -/
theorem IsWritable.fields (h : IsWritable v) (hmap : v.entries? = some entries) :
    ∃ fields, withBodyText (Value.eraseEntry "id" entries) = .ok fields := by
  rw [withBodyText, lookup_eraseEntry, if_neg (by decide)]
  -- A body without parts stays as it is, whatever it is.
  cases hbody : Value.lookup "request_body" entries with
  | none => exact ⟨_, rfl⟩
  | some body =>
      by_cases hparts : IsStructured body
      · have hprint := (h entries hmap).1 body hbody hparts
        simp only [bodyValue_of_structured hparts]
        cases hprinted : Json.print body with
        | ok text => exact ⟨_, rfl⟩
        | error f =>
            rw [hprinted] at hprint
            cases hprint
      · simp only [bodyValue_of_not_structured hparts]
        exact ⟨_, rfl⟩

/-- So the reason not to take one is a refusal. -/
theorem Stops.refusal (h : Stops path known number v e) (hwritable : IsWritable v) :
    ∃ r, e = .refusal r ∧ r.cls = .request := by
  cases h with
  | notMapping hmap => exact ⟨_, rfl, rfl⟩
  | unwritten hmap hbody =>
      rcases hwritable.fields hmap with ⟨fields, hfields⟩
      rw [hbody] at hfields
      cases hfields
  | invalid hmap hfields hread => exact ⟨_, rfl, rfl⟩
  | unshown hmap hfields hread hid hcounts hshown =>
      have hdisplay := (hwritable _ hmap).2 _ hid
      rw [hshown] at hdisplay
      cases hdisplay
  | repeated htaken hname => exact ⟨_, rfl, rfl⟩

theorem requestEntries_eq_ok : requestEntries path entries = .ok values ↔ Lists entries values := by
  rw [requestEntries]
  constructor
  · intro h
    split at h
    · rename_i hnone
      cases h
      exact .alone hnone
    · rename_i v hnamed
      split at h
      · rename_i items hlist
        cases h
        exact .listed hnamed hlist
      · cases h
  · intro h
    cases h with
    | listed hnamed hlist =>
        rw [hnamed]
        simp only [hlist]
    | alone hnone => rw [hnone]

variable {t : FileTree} {p : Path}

/-- The requests in a file are those that its document has. -/
theorem loadRequests_of_entries (h : ((loadEntries p : StateM FileTree _) t).1 = .ok entries) :
    ((loadRequests p : StateM FileTree _) t).1 = namedRequests p.text entries :=
  (congrArg (· >>= namedRequests p.text) h).trans (ok_bind _ _)

theorem namedRequests_of_lists (h : Lists entries values) :
    namedRequests path entries = namedRequestsFrom path [] 1 values := by
  rw [namedRequests, requestEntries_eq_ok.mpr h]
  rfl

/-- A list without others before it is taken if its entries are and their names differ. -/
theorem namedRequestsFrom_nil_eq_ok : namedRequestsFrom path [] 1 values = .ok requests ↔
    List.Forall₂ Taken values requests ∧ (requests.map Prod.fst).Nodup := by
  rw [namedRequestsFrom_eq_ok]
  exact and_congr_right fun _ => and_iff_left fun _ _ => List.not_mem_nil

/-- One that is not taken has a first entry that is not. -/
theorem namedRequestsFrom_nil_eq_error : namedRequestsFrom path [] 1 values = .error e ↔
    ∃ before requests v after, values = before ++ v :: after ∧ List.Forall₂ Taken before requests ∧
      (requests.map Prod.fst).Nodup ∧
        Stops path (requests.map Prod.fst) (before.length + 1) v e := by
  simp only [namedRequestsFrom_eq_error, namedRequestsFrom_nil_eq_ok, List.append_nil, and_assoc,
    Nat.add_comm 1]

/-- What becomes of the requests in a file, the document of which is a mapping with the given entries. -/
structure SourceLoads (t : FileTree) (p : Path) (entries : List (Value × Value)) : Prop where
  /-- If it names something else than a list, it is refused. -/
  unlisted : ∀ v, Value.lookup "requests" entries = some v → v.list? = none →
    ((loadRequests p : StateM FileTree _) t).1 = .error (.refusal (.requestsNotList p.text))
  /-- Otherwise it is taken if its entries are, each as one request in the same order, and their names
      differ from each other. -/
  taken : ∀ values, Lists entries values → ∀ requests,
    (((loadRequests p : StateM FileTree _) t).1 = .ok requests ↔
      List.Forall₂ Taken values requests ∧ (requests.map Prod.fst).Nodup)
  /-- If it is not taken and all entries can be written, it is refused for the first that is not taken. -/
  refused : ∀ values, Lists entries values → (∀ v ∈ values, IsWritable v) → ∀ e,
    (((loadRequests p : StateM FileTree _) t).1 = .error e ↔
      ∃ before requests v after r, values = before ++ v :: after ∧ List.Forall₂ Taken before requests ∧
        (requests.map Prod.fst).Nodup ∧
          Stops p.text (requests.map Prod.fst) (before.length + 1) v e ∧
            e = .refusal r ∧ r.cls = .request)
  /-- Whatever else comes behind this entry, the file is refused for it in the same way. -/
  unmoved : ∀ before v after requests e, Lists entries (before ++ v :: after) →
    List.Forall₂ Taken before requests → (requests.map Prod.fst).Nodup →
    Stops p.text (requests.map Prod.fst) (before.length + 1) v e →
      ∀ t' entries' later, ((loadEntries p : StateM FileTree _) t').1 = .ok entries' →
        Lists entries' (before ++ v :: later) →
          ((loadRequests p : StateM FileTree _) t').1 = ((loadRequests p : StateM FileTree _) t).1

/-- What becomes of a document. -/
theorem loadRequests_listed (h : ((loadEntries p : StateM FileTree _) t).1 = .ok entries) :
    SourceLoads t p entries := by
  constructor
  case unlisted =>
    intro v hnamed hlist
    rw [loadRequests_of_entries h, namedRequests, requestEntries, hnamed]
    simp only [hlist]
    rfl
  case taken =>
    intro values hlists requests
    rw [loadRequests_of_entries h, namedRequests_of_lists hlists, namedRequestsFrom_nil_eq_ok]
  case refused =>
    intro values hlists hwritable e
    rw [loadRequests_of_entries h, namedRequests_of_lists hlists, namedRequestsFrom_nil_eq_error]
    constructor
    · rintro ⟨before, requests, v, after, rfl, htaken, hdistinct, hstops⟩
      have hv : v ∈ before ++ v :: after := List.mem_append_right _ (List.mem_cons_self ..)
      rcases hstops.refusal (hwritable v hv) with ⟨r, hr⟩
      exact ⟨before, requests, v, after, r, rfl, htaken, hdistinct, hstops, hr⟩
    · rintro ⟨before, requests, v, after, _, hvalues, htaken, hdistinct, hstops, _⟩
      exact ⟨before, requests, v, after, hvalues, htaken, hdistinct, hstops⟩
  case unmoved =>
    intro before v after requests e hlists htaken hdistinct hstops t' entries' later h' hlists'
    -- What is behind the entry is not looked at, so both files are refused for it.
    have hrefused (rest : List Value) : namedRequestsFrom p.text [] 1 (before ++ v :: rest) = .error e :=
      namedRequestsFrom_nil_eq_error.mpr ⟨before, requests, v, rest, rfl, htaken, hdistinct, hstops⟩
    rw [loadRequests_of_entries h, loadRequests_of_entries h', namedRequests_of_lists hlists,
      namedRequests_of_lists hlists', hrefused, hrefused]

/-- A request with an id, one with a body and without an id, one with the name that this one gets, and
    something else. -/
def repeatedTree : FileTree :=
  filesTree [("d.yaml", "requests:\n- \x7bid: a, method: GET, path: /me\x7d\n" ++
    "- \x7bmethod: post, path: /me, request_body: \x7bto: [1]\x7d\x7d\n" ++
    "- \x7bid: post-me, method: GET, path: /you\x7d\n- 7\n")]

/-- The requests of this document as it is loaded. -/
def repeatedListed : Option (List Value) :=
  ((loadEntries (Path.ofText "d.yaml") : StateM FileTree _) repeatedTree).1.toOption.bind fun entries =>
    (requestEntries "d.yaml" entries).toOption

/-- They can be written, and the third one has a name that is known. -/
def repeatedValues : { values : List Value // repeatedListed = some values ∧
    (∀ v ∈ values, IsWritable v) ∧ errorOf? (namedRequestsFrom "d.yaml" [] 1 values) =
      some (.refusal (.duplicateName "d.yaml" "post-me")) } :=
  ⟨repeatedListed.get (by decide +kernel), (Option.some_get _).symm, by decide +kernel⟩

/-- The file is refused for its third request, and not for the last one. -/
theorem loadRequests_listed_repeated :
    ((loadRequests (Path.ofText "d.yaml") : StateM FileTree _) repeatedTree).1 =
      .error (.refusal (.duplicateName "d.yaml" "post-me")) := by
  rcases repeatedValues with ⟨values, hvalues, hwritable, herror⟩
  rcases Option.bind_eq_some_iff.mp hvalues with ⟨entries, hentries, hlisted⟩
  have hlists : Lists entries values := requestEntries_eq_ok.mp (eq_ok_of_toOption hlisted)
  rcases namedRequestsFrom_nil_eq_error.mp (errorOf?_eq_some.mp herror) with
    ⟨before, requests, v, after, hmiddle, htaken, hdistinct, hstops⟩
  refine ((loadRequests_listed (eq_ok_of_toOption hentries)).refused values hlists hwritable _).mpr ?_
  exact ⟨before, requests, v, after, _, hmiddle, htaken, hdistinct, hstops, rfl, rfl⟩

end CallSnippets
