import CallSnippets.Proofs.Request.Fields
import Mathlib.Data.List.Nodup

/-!
# Modifiers that are read

Modifiers are read in two passes. The first looks at each entry on its own: its key has to be the name of
a kind, and its value a text, else something that counts as a whole number, else a row of texts. The
second, which knows the kinds, promotes a scalar to a list of one where a kind takes many values and
refuses a list where it takes one.

What comes of both is said here of an entry at once, for the values of JSON: `Sets` relates an entry to the
modifier that it makes. A mapping of JSON is then accepted if each of its entries makes a modifier, and the
modifiers are those of the entries, in order. No entry is lost on the way, for the keys of a mapping are
distinct texts, and distinct texts name distinct kinds.

A scalar is promoted after it was read. So what is written into the list is the text of what the scalar
was read as, which need not be the one that the value itself would be shown as: a truth value is a whole
number by then.

## Main definitions

* `IsJson`: A value is one of JSON.
* `ScalarOf`: A value counts as a text or a whole number.
* `Scalar.Shown`: A scalar has a text.
* `Gives`, `Sets`: What a value gives for a modifier, and the modifier that an entry makes.
* `withModifiers`: Data in which a value is given for the modifiers.
* `ModifiersOf`: What a value makes of a description when it is given for its modifiers.

## Theorems

* `readModifiers_eq_ok`: When modifiers are read, whatever they are given as.
* `nodup_readModifiers`: No kind is set twice.
* `readGiven_json`: What a value of JSON gives is read from it.
* `readGivenEntry_sets`: Both passes over one entry.
* `readModifiers_json`: A mapping of JSON is read entry by entry.
* `sets_promoted`: A scalar and the list of its text make the same modifier.
* `readRequest_json_modifiers`: What a value of JSON given for the modifiers does to a description.
-/

namespace CallSnippets

section

variable {α β γ : Type}

theorem forall₂_congr {R S : α → β → Prop} {as : List α} {bs : List β}
    (h : ∀ a ∈ as, ∀ b, R a b ↔ S a b) : List.Forall₂ R as bs ↔ List.Forall₂ S as bs := by
  induction as generalizing bs with
  | nil => rw [List.forall₂_nil_left_iff, List.forall₂_nil_left_iff]
  | cons a rest ih =>
      rcases List.forall_mem_cons.mp h with ⟨ha, hrest⟩
      simp only [List.forall₂_cons_left_iff, ha, ih hrest]

/-- Two passes over a list are one pass. -/
theorem forall₂_comp {R : α → β → Prop} {S : β → γ → Prop} {as : List α} {cs : List γ} :
    (∃ bs, List.Forall₂ R as bs ∧ List.Forall₂ S bs cs) ↔
      List.Forall₂ (fun a c => ∃ b, R a b ∧ S b c) as cs := by
  constructor
  · rintro ⟨bs, hfirst, hsecond⟩
    induction hfirst generalizing cs with
    | nil =>
        cases hsecond
        exact .nil
    | cons hab _ ih =>
        cases hsecond with
        | cons hbc hrest => exact .cons ⟨_, hab, hbc⟩ (ih hrest)
  · intro h
    induction h with
    | nil => exact ⟨[], .nil, .nil⟩
    | cons hac _ ih =>
        rcases hac with ⟨b, hab, hbc⟩
        rcases ih with ⟨bs, hfirst, hsecond⟩
        exact ⟨b :: bs, .cons hab hfirst, .cons hbc hsecond⟩

/-- A list can be passed over if each of its members can. -/
theorem exists_forall₂ {R : α → β → Prop} {as : List α} :
    (∃ bs, List.Forall₂ R as bs) ↔ ∀ a ∈ as, ∃ b, R a b := by
  induction as with
  | nil => exact ⟨fun _ _ hmem => absurd hmem List.not_mem_nil, fun _ => ⟨[], .nil⟩⟩
  | cons a rest ih =>
      rw [List.forall_mem_cons, ← ih]
      constructor
      · rintro ⟨_, hall⟩
        cases hall with
        | cons hab hrest => exact ⟨⟨_, hab⟩, _, hrest⟩
      · rintro ⟨⟨b, hab⟩, bs, hrest⟩
        exact ⟨b :: bs, .cons hab hrest⟩

theorem forall₂_replace {R : α → β → Prop} {a a' : α} (h : ∀ b, R a b ↔ R a' b)
    (before after : List α) {bs : List β} :
    List.Forall₂ R (before ++ a :: after) bs ↔ List.Forall₂ R (before ++ a' :: after) bs := by
  induction before generalizing bs with
  | nil => simp only [List.nil_append, List.forall₂_cons_left_iff, h]
  | cons first rest ih => simp only [List.cons_append, List.forall₂_cons_left_iff, ih]

end

/-! ## Kinds -/

/-- The key under which a kind is set. -/
def ModifierKind.key (kind : ModifierKind) : Value :=
  .text kind.name

theorem readChoice_eq_ok {α : Type} {choices : List (Text × α)} {v : Value} {a : α}
    (h : readChoice choices v = .ok a) : ∃ name, readText v = .ok name ∧ (name, a) ∈ choices := by
  rw [readChoice] at h
  split at h
  · rename_i name hname
    split_ifs at h
    · cases h
    · split at h
      · rename_i b hlookup
        cases h
        rcases List.lookup_eq_some_iff.mp hlookup with ⟨before, after, rfl, _⟩
        exact ⟨name, hname, List.mem_append_right before (List.mem_cons_self ..)⟩
      · cases h
  · cases h

/-- A kind is read from its name. -/
theorem readKind_name (kind : ModifierKind) : readKind (.text kind.name) = .ok kind := by
  rcases kind with kind | kind <;> cases kind <;> decide

/-- A text is read as a kind only if it is its name. -/
theorem readKind_text {name : Text} {kind : ModifierKind} :
    readKind (.text name) = .ok kind ↔ name = kind.name := by
  constructor
  · intro h
    rcases readChoice_eq_ok (Reading.under_eq_ok.mp h) with ⟨read, hread, hmem⟩
    rcases List.mem_map.mp hmem with ⟨kind, _, hkind⟩
    cases hread
    cases hkind
    rfl
  · rintro rfl
    exact readKind_name kind

theorem ModifierKind.key_injective : Function.Injective ModifierKind.key := by
  intro a b h
  have hread := readKind_name a
  rw [← ModifierKind.key, h, ModifierKind.key, readKind_name] at hread
  exact (Except.ok.inj hread).symm

theorem kind_ofGiven {kind : ModifierKind} {given : Given} {m : Modifier}
    (h : Modifier.ofGiven kind given = .ok m) : m.kind = kind := by
  rw [Modifier.ofGiven.eq_def] at h
  split at h
  · cases h
    rfl
  · split at h <;> cases h
    rfl
  · cases h
    rfl
  · cases h

/-! ## What is given for each kind -/

theorem Given.put_new {entry : ModifierKind × Given} {known : List (ModifierKind × Given)}
    (h : entry.1 ∉ known.map Prod.fst) : Given.put entry known = known ++ [entry] := by
  induction known with
  | nil => rfl
  | cons first rest ih =>
      rw [List.map_cons, List.mem_cons, not_or] at h
      rw [Given.put, if_neg (Ne.symm h.1), ih h.2, List.cons_append]

/-- Nothing is lost where no kind is named twice. -/
theorem Given.foldl_put {known given : List (ModifierKind × Given)}
    (h : ((known ++ given).map Prod.fst).Nodup) :
    given.foldl (fun known e => Given.put e known) known = known ++ given := by
  induction given generalizing known with
  | nil => rw [List.append_nil, List.foldl_nil]
  | cons entry rest ih =>
      have hnew : entry.1 ∉ known.map Prod.fst := by
        rw [List.map_append, List.nodup_append] at h
        exact fun hmem => h.2.2 _ hmem _ (List.mem_cons_self ..) rfl
      rw [List.foldl_cons, Given.put_new hnew, ih (by rwa [List.append_assoc]), List.append_assoc,
        List.singleton_append]

theorem Given.mem_put {entry : ModifierKind × Given} {known : List (ModifierKind × Given)}
    {kind : ModifierKind} (h : kind ∈ (Given.put entry known).map Prod.fst) :
    kind = entry.1 ∨ kind ∈ known.map Prod.fst := by
  induction known with
  | nil => exact .inl (List.mem_singleton.mp h)
  | cons first rest ih =>
      rw [Given.put] at h
      split_ifs at h with hsame
      · rw [List.map_cons, List.mem_cons] at h
        exact h.imp id (List.mem_cons_of_mem _)
      · rw [List.map_cons, List.mem_cons] at h
        rcases h with rfl | hrest
        · exact .inr (List.mem_cons_self ..)
        · exact (ih hrest).imp id (List.mem_cons_of_mem _)

theorem Given.nodup_put {entry : ModifierKind × Given} {known : List (ModifierKind × Given)}
    (h : (known.map Prod.fst).Nodup) : ((Given.put entry known).map Prod.fst).Nodup := by
  induction known with
  | nil => exact List.nodup_cons.mpr ⟨List.not_mem_nil, List.nodup_nil⟩
  | cons first rest ih =>
      rw [List.map_cons, List.nodup_cons] at h
      rw [Given.put]
      -- An entry of a known kind takes its place, and any other goes to the rest.
      split_ifs with hsame
      · rw [List.map_cons, List.nodup_cons, ← hsame]
        exact h
      · rw [List.map_cons, List.nodup_cons]
        refine ⟨fun hmem => ?_, ih h.2⟩
        rcases Given.mem_put hmem with hentry | hrest
        · exact hsame hentry
        · exact h.1 hrest

theorem Given.nodup_foldl_put {known given : List (ModifierKind × Given)}
    (h : (known.map Prod.fst).Nodup) :
    ((given.foldl (fun known e => Given.put e known) known).map Prod.fst).Nodup := by
  induction given generalizing known with
  | nil => exact h
  | cons entry rest ih => exact ih (Given.nodup_put h)

theorem Modifiers.ofGiven_eq_ok {given : List (ModifierKind × Given)} {ms : Modifiers} :
    Modifiers.ofGiven given = .ok ms ↔
      List.Forall₂ (fun e m => Modifier.ofGiven e.1 e.2 = .ok m) given ms := by
  induction given generalizing ms with
  | nil =>
      rw [Modifiers.ofGiven, Except.ok.injEq, List.forall₂_nil_left_iff]
      exact eq_comm
  | cons entry rest ih =>
      rcases entry with ⟨kind, value⟩
      simp only [Modifiers.ofGiven, bind_eq_ok, List.forall₂_cons_left_iff, ← ih]
      -- The two sides put the same parts together in another order.
      constructor
      · rintro ⟨m, hm, more, hmore, heq⟩
        cases heq
        exact ⟨m, more, hm, hmore, rfl⟩
      · rintro ⟨m, more, hm, hmore, rfl⟩
        exact ⟨m, hm, more, hmore, rfl⟩

/-- The first pass reads the key and the value of an entry. -/
theorem readGivenEntry_eq_ok {key v : Value} {kind : ModifierKind} {given : Given} :
    readGivenEntry (key, v) = .ok (kind, given) ↔ readKind key = .ok kind ∧ readGiven v = .ok given := by
  rw [readGivenEntry, Reading.under_eq_ok, Reading.and_eq_ok]
  constructor
  · rintro ⟨make, g, hmake, hg, heq⟩
    rcases Reading.and_eq_ok.mp hmake with ⟨_, k, hpair, hk, rfl⟩
    cases hpair
    cases heq
    exact ⟨hk, hg⟩
  · rintro ⟨hk, hg⟩
    exact ⟨Prod.mk kind, given, Reading.and_eq_ok.mpr ⟨Prod.mk, kind, rfl, hk, rfl⟩, hg, rfl⟩

/-- Modifiers are read in two passes over their entries. -/
theorem readModifiers_eq_ok {v : Value} {ms : Modifiers} :
    readModifiers v = .ok ms ↔ ∃ entries given, v.entries? = some entries ∧
      List.Forall₂ (fun e g => readGivenEntry e = .ok g) entries given ∧
      List.Forall₂ (fun e m => Modifier.ofGiven e.1 e.2 = .ok m)
        (given.foldl (fun known e => Given.put e known) []) ms := by
  rw [readModifiers, readEntries_eq_ok]
  constructor
  · rintro ⟨entries, hentries, h⟩
    split at h
    · cases h
    · rename_i given hgiven
      split at h
      · rename_i modifiers hmodifiers
        cases h
        refine ⟨entries, given, hentries, ?_, Modifiers.ofGiven_eq_ok.mp hmodifiers⟩
        rwa [Reading.all_eq_ok, List.forall₂_map_left_iff] at hgiven
      · cases h
  · rintro ⟨entries, given, hentries, hgiven, hmodifiers⟩
    rw [← List.forall₂_map_left_iff (f := readGivenEntry) (R := fun x g => x = .ok g),
      ← Reading.all_eq_ok] at hgiven
    refine ⟨entries, hentries, ?_⟩
    rw [hgiven]
    simp only [Modifiers.ofGiven_eq_ok.mpr hmodifiers]

theorem map_kind_ofGiven {given : List (ModifierKind × Given)} {ms : Modifiers}
    (h : List.Forall₂ (fun e m => Modifier.ofGiven e.1 e.2 = .ok m) given ms) :
    ms.map Modifier.kind = given.map Prod.fst := by
  induction h with
  | nil => rfl
  | cons hm _ ih => rw [List.map_cons, List.map_cons, kind_ofGiven hm, ih]

/-- No kind is set twice. -/
theorem nodup_readModifiers {v : Value} {ms : Modifiers} (h : readModifiers v = .ok ms) :
    (ms.map Modifier.kind).Nodup := by
  rcases readModifiers_eq_ok.mp h with ⟨_, given, _, _, hmodifiers⟩
  rw [map_kind_ofGiven hmodifiers]
  exact Given.nodup_foldl_put List.nodup_nil

/-! ## Values of JSON -/

/-- A value is one of JSON: the keys of a mapping are texts, and none is given twice. -/
inductive IsJson : Value → Prop where
  /-- No value. -/
  | null : IsJson .null
  /-- A truth value. -/
  | bool (b : Bool) : IsJson (.bool b)
  /-- A whole number. -/
  | int (n : Int) : IsJson (.int n)
  /-- A number with a point or an exponent. -/
  | float (x : Binary64) : IsJson (.float x)
  /-- A text. -/
  | text (t : Text) : IsJson (.text t)
  /-- A list of values of JSON. -/
  | list {items : List Value} (hitems : ∀ v ∈ items, IsJson v) : IsJson (.list items)
  /-- A mapping from texts to values of JSON. -/
  | map {entries : List (Value × Value)} (hkeys : ∀ e ∈ entries, ∃ name, e.1 = .text name)
      (hdistinct : (entries.map Prod.fst).Nodup) (hvalues : ∀ e ∈ entries, IsJson e.2) :
      IsJson (.map entries)

/-- A value counts as a text or a whole number. -/
inductive ScalarOf : Value → Scalar → Prop where
  /-- A text counts as itself. -/
  | text (t : Text) : ScalarOf (.text t) (.text t)
  /-- So does a whole number, of whatever size. -/
  | int (n : Int) : ScalarOf (.int n) (.int n)
  /-- A truth value counts as one or zero. -/
  | bool (b : Bool) : ScalarOf (.bool b) (.int (if b then 1 else 0))
  /-- A number without a fraction counts as the whole number that it is, within a word. -/
  | float {x : Binary64} {n : Int} (hwhole : x.toInt? = some n) (hmin : -wordBound < n)
      (hmax : n < wordBound) : ScalarOf (.float x) (.int n)

/-- A scalar has a text: a whole number has one if it is not too long. -/
inductive Scalar.Shown : Scalar → Text → Prop where
  /-- A text is its own. -/
  | text (t : Text) : Shown (.text t) t
  /-- A whole number is written in decimal. -/
  | int {n : Int} (hshort : (natText n.natAbs).length ≤ digitLimit) : Shown (.int n) (intText n)

/-- A value is something that may be given for a modifier. -/
inductive Gives : Value → Given → Prop where
  /-- It counts as a text or a whole number. -/
  | scalar {v : Value} {s : Scalar} (h : ScalarOf v s) : Gives v (.scalar s)
  /-- It is a list of texts. -/
  | texts (ts : List Text) : Gives (.list (ts.map .text)) (.texts ts)

/-- The entry of a mapping makes a modifier. -/
inductive Sets : Value × Value → Modifier → Prop where
  /-- A kind with one value takes a scalar. -/
  | one {kind : OneKind} {v : Value} {s : Scalar} (h : ScalarOf v s) :
      Sets ((ModifierKind.one kind).key, v) (.one kind s)
  /-- A kind with many values takes the text of a scalar as the only one. -/
  | promoted {kind : ManyKind} {v : Value} {s : Scalar} {t : Text} (h : ScalarOf v s)
      (hshown : s.Shown t) : Sets ((ModifierKind.many kind).key, v) (.many kind [t])
  /-- It takes a list of texts as it is. -/
  | many {kind : ManyKind} (ts : List Text) :
      Sets ((ModifierKind.many kind).key, .list (ts.map .text)) (.many kind ts)

theorem readInt64OfFloat_eq_ok {x : Binary64} {n : Int} :
    readInt64OfFloat x = .ok n ↔ x.toInt? = some n ∧ -wordBound < n ∧ n < wordBound := by
  cases x with
  | nan => simp only [readInt64OfFloat, Reading.fail, Binary64.toInt?, reduceCtorEq, false_and]
  | infinite s => simp only [readInt64OfFloat, Reading.fail, Binary64.toInt?, reduceCtorEq, false_and]
  | finite s m q =>
      simp only [readInt64OfFloat]
      cases Binary64.toInt? (.finite s m q) with
      | none => simp only [Reading.fail, reduceCtorEq, false_and]
      | some k =>
          simp only [Option.some.injEq]
          split_ifs with hrange
          · constructor
            · intro h
              cases h
              exact ⟨rfl, hrange⟩
            · rintro ⟨rfl, _⟩
              rfl
          · simp only [Reading.fail, reduceCtorEq, false_iff, not_and]
            rintro rfl
            exact not_and.mp hrange

theorem Scalar.text?_eq_ok {s : Scalar} {t : Text} : s.text? = .ok t ↔ s.Shown t := by
  cases s with
  | text u =>
      constructor
      · intro h
        cases h
        exact .text t
      · intro h
        cases h
        rfl
  | int n =>
      rw [Scalar.text?, intTextOrFault, intText?]
      by_cases hshort : (natText n.natAbs).length ≤ digitLimit
      · rw [if_pos hshort]
        constructor
        · intro h
          cases h
          exact .int hshort
        · intro h
          cases h
          rfl
      · rw [if_neg hshort]
        constructor
        · intro h
          cases h
        · intro h
          cases h
          contradiction

section

variable {v : Value} (hv : IsJson v)
include hv

theorem IsJson.entries?_eq_some {entries : List (Value × Value)} :
    v.entries? = some entries ↔ v = .map entries := by
  cases hv <;> simp [Value.entries?, Value.unknot]

theorem readText_json {t : Text} : readText v = .ok t ↔ v = .text t := by
  cases hv <;> simp [readText, Reading.fail]

theorem readWhole_json (htext : ∀ t, v ≠ .text t) {n : Int} :
    readWhole v = .ok n ↔ ScalarOf v (.int n) := by
  constructor
  · intro h
    cases hv with
    | bool b =>
        cases h
        exact .bool b
    | int m =>
        cases h
        exact .int n
    | float x =>
        rcases readInt64OfFloat_eq_ok.mp h with ⟨hwhole, hmin, hmax⟩
        exact .float hwhole hmin hmax
    | text t => exact absurd rfl (htext t)
    | _ => cases h
  · intro h
    cases h with
    | int => rfl
    | bool => rfl
    | float hwhole hmin hmax => exact readInt64OfFloat_eq_ok.mpr ⟨hwhole, hmin, hmax⟩

theorem readTexts_json {ts : List Text} :
    readTuple readText v = .ok ts ↔ v = .list (ts.map .text) := by
  rw [readTuple_eq_ok]
  cases hv with
  | list hitems =>
      rename_i items
      simp only [Value.items?, Value.unknot, Option.some.injEq, exists_eq_left', Value.list.injEq]
      rw [forall₂_congr fun v hmem t => readText_json (hitems v hmem), ← List.forall₂_map_right_iff,
        List.forall₂_eq_eq_eq]
  | _ => simp [Value.items?, Value.unknot]

/-- What a value of JSON gives is read from it. -/
theorem readGiven_json {g : Given} : readGiven v = .ok g ↔ Gives v g := by
  rw [readGiven]
  constructor
  · intro h
    split at h
    · rename_i t htext
      cases h
      rw [(readText_json hv).mp htext]
      exact .scalar (.text t)
    · rename_i n hint hnone
      cases h
      -- A text that spells a number never comes here, for it is a text before that.
      refine .scalar ((readWhole_json hv fun t hsame => ?_).mp hint)
      exact hnone t ((readText_json hv).mpr hsame)
    · rename_i ts htexts _ _
      cases h
      rw [(readTexts_json hv).mp htexts]
      exact .texts ts
    · cases h
  · intro h
    cases h with
    | scalar h =>
        cases h with
        | text t => rfl
        | int n => rfl
        | bool b => rfl
        | float hwhole hmin hmax =>
            have hread := readInt64OfFloat_eq_ok.mpr ⟨hwhole, hmin, hmax⟩
            simp only [readText, readWhole, hread, Reading.fail]
    | texts ts =>
        have hread := (readTexts_json hv).mpr rfl
        simp only [readText, readWhole, hread, Reading.fail]

end

/-! ## Mappings of JSON -/

/-- An entry is read as the kind that its key names and what its value gives. -/
theorem readGivenEntry_json {name : Text} {v : Value} (hv : IsJson v) {kind : ModifierKind}
    {given : Given} :
    readGivenEntry (.text name, v) = .ok (kind, given) ↔ name = kind.name ∧ Gives v given := by
  rw [readGivenEntry_eq_ok, readKind_text, readGiven_json hv]

/-- Both passes over an entry at once. -/
theorem readGivenEntry_sets {name : Text} {v : Value} (hv : IsJson v) {m : Modifier} :
    (∃ g, readGivenEntry (.text name, v) = .ok g ∧ Modifier.ofGiven g.1 g.2 = .ok m) ↔
      Sets (.text name, v) m := by
  constructor
  · rintro ⟨⟨kind, given⟩, hread, hm⟩
    rcases (readGivenEntry_json hv).mp hread with ⟨rfl, hgives⟩
    cases kind with
    | many kind =>
        cases hgives with
        | scalar h =>
            rw [Modifier.ofGiven.eq_def] at hm
            simp only at hm
            split at hm
            · rename_i t ht
              cases hm
              exact .promoted h (Scalar.text?_eq_ok.mp ht)
            · cases hm
        | texts ts =>
            cases hm
            exact .many ts
    | one kind =>
        cases hgives with
        | scalar h =>
            cases hm
            exact .one h
        | texts ts => cases hm
  · intro h
    cases h with
    | one h => exact ⟨_, (readGivenEntry_json hv).mpr ⟨rfl, .scalar h⟩, rfl⟩
    | promoted h hshown =>
        refine ⟨_, (readGivenEntry_json hv).mpr ⟨rfl, .scalar h⟩, ?_⟩
        simp only [Modifier.ofGiven, Scalar.text?_eq_ok.mpr hshown]
    | many ts => exact ⟨_, (readGivenEntry_json hv).mpr ⟨rfl, .texts ts⟩, rfl⟩

/-- Distinct keys name distinct kinds. -/
theorem nodup_given {entries : List (Value × Value)} {given : List (ModifierKind × Given)}
    (hkeys : ∀ e ∈ entries, ∃ name, e.1 = .text name) (hdistinct : (entries.map Prod.fst).Nodup)
    (h : List.Forall₂ (fun e g => readGivenEntry e = .ok g) entries given) :
    (given.map Prod.fst).Nodup := by
  -- The keys are the names of the kinds that were read from them, one by one.
  have hnames : entries.map Prod.fst = (given.map Prod.fst).map ModifierKind.key := by
    clear hdistinct
    induction h with
    | nil => rfl
    | @cons e g _ _ hread _ ih =>
        rcases e with ⟨key, v⟩
        rcases g with ⟨kind, value⟩
        rcases List.forall_mem_cons.mp hkeys with ⟨⟨name, hname⟩, hrest⟩
        obtain rfl : key = .text name := hname
        have hkind := readKind_text.mp (readGivenEntry_eq_ok.mp hread).1
        rw [List.map_cons, List.map_cons, List.map_cons, ih hrest, ModifierKind.key, hkind]
  rw [hnames] at hdistinct
  exact List.Nodup.of_map _ hdistinct

/-- A mapping of JSON is read entry by entry, and nothing else of JSON is read. -/
theorem readModifiers_json {v : Value} (hv : IsJson v) {ms : Modifiers} :
    readModifiers v = .ok ms ↔ ∃ entries, v = .map entries ∧ List.Forall₂ Sets entries ms := by
  rw [readModifiers_eq_ok]
  simp only [exists_and_left, hv.entries?_eq_some]
  refine exists_congr fun entries => and_congr_right ?_
  rintro rfl
  cases hv with
  | map hkeys hdistinct hvalues =>
      have hsets : List.Forall₂ (fun e m => ∃ g, readGivenEntry e = .ok g ∧
          Modifier.ofGiven g.1 g.2 = .ok m) entries ms ↔ List.Forall₂ Sets entries ms := by
        refine forall₂_congr fun e he m => ?_
        rcases e with ⟨key, value⟩
        rcases hkeys _ he with ⟨name, rfl⟩
        exact readGivenEntry_sets (hvalues _ he)
      rw [← hsets, ← forall₂_comp]
      refine exists_congr fun given => and_congr_right fun hgiven => ?_
      -- The kinds are distinct, so between the passes each entry is put where it stood.
      rw [Given.foldl_put, List.nil_append]
      exact nodup_given hkeys hdistinct hgiven

theorem ScalarOf.isJson {v : Value} {s : Scalar} (h : ScalarOf v s) : IsJson v := by
  cases h with
  | text t => exact .text t
  | int n => exact .int n
  | bool b => exact .bool b
  | float _ _ _ => exact .float _

theorem isJson_texts (ts : List Text) : IsJson (.list (ts.map .text)) := by
  refine .list fun v hv => ?_
  rcases List.mem_map.mp hv with ⟨t, _, rfl⟩
  exact .text t

/-- The text of a scalar in a list makes what the scalar itself makes. -/
theorem sets_promoted {kind : ManyKind} {u : Value} {s : Scalar} {t : Text} (h : ScalarOf u s)
    (hshown : s.Shown t) {m : Modifier} :
    Sets ((ModifierKind.many kind).key, u) m ↔
      Sets ((ModifierKind.many kind).key, .list [.text t]) m := by
  have hjson : IsJson (.list [.text t]) := isJson_texts [t]
  have hscalar : readGivenEntry ((ModifierKind.many kind).key, u) = .ok (.many kind, .scalar s) :=
    (readGivenEntry_json h.isJson).mpr ⟨rfl, .scalar h⟩
  have hlist : readGivenEntry ((ModifierKind.many kind).key, .list [.text t]) =
      .ok (.many kind, .texts [t]) :=
    (readGivenEntry_json hjson).mpr ⟨rfl, .texts [t]⟩
  -- The entries differ in what they give, but the second pass makes one modifier of both.
  rw [ModifierKind.key] at hscalar hlist ⊢
  rw [← readGivenEntry_sets h.isJson, ← readGivenEntry_sets hjson, hscalar, hlist]
  simp only [Except.ok.injEq, exists_eq_left', Modifier.ofGiven, Scalar.text?_eq_ok.mpr hshown]

/-- A mapping from distinct kinds to values of JSON is one of JSON. -/
theorem isJson_kinds {entries : List (Value × Value)} {kinds : List ModifierKind}
    (hkeys : entries.map Prod.fst = kinds.map ModifierKind.key) (hkinds : kinds.Nodup)
    (hvalues : ∀ e ∈ entries, IsJson e.2) : IsJson (.map entries) := by
  refine .map (fun e he => ?_) ?_ hvalues
  · have hmem : e.1 ∈ kinds.map ModifierKind.key := hkeys ▸ List.mem_map_of_mem he
    rcases List.mem_map.mp hmem with ⟨kind, _, hkind⟩
    exact ⟨kind.name, hkind.symm⟩
  · rw [hkeys]
    exact hkinds.map ModifierKind.key_injective

/-- A value of a mapping of JSON may be replaced by another one. -/
theorem IsJson.replace {before after : List (Value × Value)} {key u w : Value}
    (h : IsJson (.map (before ++ (key, u) :: after))) (hw : IsJson w) :
    IsJson (.map (before ++ (key, w) :: after)) := by
  cases h with
  | map hkeys hdistinct hvalues =>
      refine .map ?_ ?_ ?_
      · simp only [List.forall_mem_append, List.forall_mem_cons] at hkeys ⊢
        exact hkeys
      · simpa only [List.map_append, List.map_cons] using hdistinct
      · simp only [List.forall_mem_append, List.forall_mem_cons] at hvalues ⊢
        exact ⟨hvalues.1, hw, hvalues.2.2⟩

/-! ## Descriptions -/

/-- Data in which a value is given for the modifiers. -/
def withModifiers (v : Value) (entries : List (Value × Value)) : Value :=
  .map (Value.insertEntry (.text "modifiers") v entries)

theorem readRequest_withModifiers {entries : List (Value × Value)} {v : Value} {r r' : Request}
    (h : readRequest (.map (Value.eraseEntry "modifiers" entries)) = .ok r) :
    readRequest (withModifiers v entries) = .ok r' ↔
      ∃ modifiers, readModifiers v = .ok modifiers ∧ r' = { r with modifiers } := by
  refine readRequestFields_modifiers ?_ ?_
  · rw [lookup_insertEntry, if_pos rfl]
  · rw [eraseEntry_insertEntry]
    exact h

/-- What a value of JSON makes of a description when it is given for its modifiers. -/
structure ModifiersOf (entries : List (Value × Value)) (r : Request) (v : Value) : Prop where
  /-- It is accepted if it is a mapping whose entries all make modifiers. -/
  accepted : (∃ r', readRequest (withModifiers v entries) = .ok r') ↔
    ∃ given, v = .map given ∧ ∀ e ∈ given, ∃ m, Sets e m
  /-- Then the description is as before but for the modifiers, one for each entry, in order. -/
  each : ∀ r', readRequest (withModifiers v entries) = .ok r' →
    r' = { r with modifiers := r'.modifiers } ∧
      ∃ given, v = .map given ∧ List.Forall₂ Sets given r'.modifiers
  /-- No kind is set twice. -/
  once : ∀ r', readRequest (withModifiers v entries) = .ok r' →
    (r'.modifiers.map Modifier.kind).Nodup
  /-- The text of a scalar in a list may stand for the scalar, where a kind takes many values. -/
  promoted : ∀ before after u s t, ∀ kind : ManyKind,
    v = .map (before ++ ((ModifierKind.many kind).key, u) :: after) → ScalarOf u s → s.Shown t →
      ∀ r', readRequest (withModifiers v entries) = .ok r' ↔ readRequest (withModifiers
        (.map (before ++ ((ModifierKind.many kind).key, .list [.text t]) :: after)) entries) = .ok r'

/-- What a value of JSON given for the modifiers does to a description. -/
theorem readRequest_json_modifiers {entries : List (Value × Value)} {r : Request} {v : Value}
    (hother : readRequest (.map (Value.eraseEntry "modifiers" entries)) = .ok r) (hv : IsJson v) :
    ModifiersOf entries r v := by
  have hread {w : Value} (hw : IsJson w) (r' : Request) : readRequest (withModifiers w entries) = .ok r' ↔
      ∃ modifiers, (∃ given, w = .map given ∧ List.Forall₂ Sets given modifiers) ∧
        r' = { r with modifiers } := by
    simp only [readRequest_withModifiers hother, readModifiers_json hw]
  constructor
  case accepted =>
    constructor
    · rintro ⟨r', h⟩
      rcases (hread hv r').mp h with ⟨ms, ⟨given, hgiven, hsets⟩, _⟩
      exact ⟨given, hgiven, exists_forall₂.mp ⟨ms, hsets⟩⟩
    · rintro ⟨given, hgiven, hsets⟩
      rcases exists_forall₂.mpr hsets with ⟨ms, hms⟩
      exact ⟨_, (hread hv _).mpr ⟨ms, ⟨given, hgiven, hms⟩, rfl⟩⟩
  case each =>
    intro r' h
    rcases (hread hv r').mp h with ⟨ms, hmodifiers, rfl⟩
    exact ⟨rfl, hmodifiers⟩
  case once =>
    intro r' h
    rcases (readRequest_withModifiers hother).mp h with ⟨ms, hmodifiers, rfl⟩
    exact nodup_readModifiers hmodifiers
  case promoted =>
    rintro before after u s t kind rfl hu hshown r'
    have hjson : IsJson (.list [.text t]) := isJson_texts [t]
    rw [hread hv, hread (hv.replace hjson)]
    simp only [Value.map.injEq, exists_eq_left']
    simp only [forall₂_replace (fun m => sets_promoted hu hshown) before after]

/-- Data of a call with nothing but a method and a path. -/
def bareData : List (Value × Value) :=
  [(.text "method", .text " get "), (.text "path", .text "/me")]

/-- Modifiers of every sort: a truth value and a list for kinds with many values, a number for one. -/
def mixedData : List (Value × Value) :=
  [((ModifierKind.many .filter).key, .bool true), ((ModifierKind.one .top).key, .int 5),
    ((ModifierKind.many .select).key, .list [.text "id", .text "name"])]

theorem isJson_mixedData : IsJson (.map mixedData) := by
  have hkinds : [ModifierKind.many .filter, .one .top, .many .select].Nodup := by decide
  refine isJson_kinds rfl hkinds ?_
  simp only [mixedData, List.forall_mem_cons]
  exact ⟨.bool true, .int 5, isJson_texts ["id", "name"], fun _ h => absurd h List.not_mem_nil⟩

theorem readRequest_json_modifiers_mixed :
    ∃ r, readRequest (.map (Value.eraseEntry "modifiers" bareData)) = .ok r ∧
      IsJson (.map mixedData) ∧ ModifiersOf bareData r (.map mixedData) ∧
      readRequest (withModifiers (.map mixedData) bareData) = .ok { r with
        modifiers := [.many .filter ["1"], .one .top (.int 5), .many .select ["id", "name"]] } :=
  have hbare : readRequest (.map (Value.eraseEntry "modifiers" bareData)) =
    .ok ⟨"GET", "/me", [], "v1.0", [], [], [], [], none, "res"⟩ := by decide
  ⟨_, hbare, isJson_mixedData, readRequest_json_modifiers hbare isJson_mixedData, by decide⟩

/-- A truth value is shown with a capital, but it is read as a whole number: the text that it is shown
    as, in a list, makes another modifier. -/
theorem filter_true_shown : ∃ a b t, Value.display (.bool true) = .ok t ∧
    readRequest (withModifiers (.map [((ModifierKind.many .filter).key, .bool true)]) bareData) = .ok a ∧
    readRequest (withModifiers (.map [((ModifierKind.many .filter).key, .list [.text t])]) bareData) =
      .ok b ∧ a.same b = false := by
  refine ⟨⟨"GET", "/me", [], "v1.0", [], [], [.many .filter ["1"]], [], none, "res"⟩,
    ⟨"GET", "/me", [], "v1.0", [], [], [.many .filter ["True"]], [], none, "res"⟩, "True", ?_⟩
  decide

end CallSnippets
