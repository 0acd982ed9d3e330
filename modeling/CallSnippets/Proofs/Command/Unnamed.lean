import CallSnippets.Proofs.Command.Distinct
import CallSnippets.Proofs.Grammar.JavaScript
import CallSnippets.Proofs.Request.Identified
import CallSnippets.Proofs.Request.Name
import CallSnippets.Proofs.Snippet.Outcome

/-!
# Files of requests without names of their own

A request that is given no name of its own is named for its method and its path, and a file is named for that.
The method may be any text, with strokes and dots in it, and is not cleaned. What keeps it from naming a file
is that there is no snippet for it: JavaScript has calls for five methods, and an item for any other one has
failed before its file is asked for.

So the file for such a request is always directly in the directory for the language, under the name of the
call and words of small letters and digits. Names of requests differ, and with such names the files do too.

## Main definitions

* `IsUnnamed`: An entry has no id that counts.
* `IsRequestFile`: The name of a call and words, with hyphens between them and the ending.
* `BatchCall.MadeUnnamed`: An item that was made for an entry without an id that counts.
* `UnnamedFiles`: Everything that is known of where the files of such items are.

## Theorems

* `isRequestFile_requestName`: The name of a request that there is a snippet for.
* `BatchCall.MadeUnnamed.isStraight`: Its file is not in another directory.
* `runOn_unnamed`: Names, and the files of runs.
-/

namespace CallSnippets

open FileTree

/-- An entry has no id, or one that counts as none. -/
def IsUnnamed (v : Value) : Prop :=
  ∀ entries ∈ v.entries?, ∀ id ∈ Value.lookup "id" entries, id.isVoid = true

instance : DecidablePred IsUnnamed := fun v =>
  inferInstanceAs
    (Decidable (∀ entries ∈ v.entries?, ∀ id ∈ Value.lookup "id" entries, id.isVoid = true))

/-- The names of the calls, in small letters. -/
def requestVerbs : List Text :=
  ["get", "post", "patch", "put", "delete"]

/-- The name of a call and words of small letters and digits, with one hyphen before each word and the ending
    behind the last. -/
def IsRequestFile (file : Text) : Prop :=
  ∃ verb ∈ requestVerbs, ∃ words, (∀ word ∈ words, IsSmallWord word) ∧
    file = Text.join "-" (verb :: words) ++ ".js"

variable {env : Environment} {words : List Text} {t : FileTree} {method path verb file : Text}
  {entries : List (Value × Value)} {values : List Value} {m n : Nat} {item other : BatchItem}
  {r r' : Text × Request}

/-! ## Names of files -/

theorem lower_mem_requestVerbs (h : javaScript.verbFor? method = some verb) :
    Text.lower method ∈ requestVerbs := by
  have hmem := JavaScript.verb_mem h
  simp only [javaScript, List.mem_cons, Prod.mk.injEq, List.not_mem_nil, or_false] at hmem
  rcases hmem with ⟨rfl, _⟩ | ⟨rfl, _⟩ | ⟨rfl, _⟩ | ⟨rfl, _⟩ | ⟨rfl, _⟩ <;> decide +kernel

theorem isSmallWord_verb : ∀ verb ∈ requestVerbs, IsSmallWord verb := by
  have hall : ∀ verb ∈ requestVerbs, verb ≠ [] ∧ ∀ c ∈ verb, isSmallWordChar c = true := by decide
  exact hall

/-- The name of a request with a method that there is a call for. -/
theorem isRequestFile_requestName (path : Text) (h : Text.lower method ∈ requestVerbs) :
    IsRequestFile (requestName method path ++ ".js") := by
  have hrules := requestName_rules method path
  by_cases hpath : IsGap path
  · exact ⟨_, h, [], fun _ hword => absurd hword List.not_mem_nil, by rw [hrules.bare hpath]; rfl⟩
  · rcases hrules.form hpath with ⟨words, hne, hwords, hslug⟩
    rcases hrules.runs hpath with ⟨_, _, _, _, hname⟩
    refine ⟨_, h, words, hwords, ?_⟩
    rcases List.exists_cons_of_ne_nil hne with ⟨word, others, rfl⟩
    rw [hname, hslug, join_cons_cons]

/-- Such a name leads straight down. -/
theorem IsRequestFile.isName (h : IsRequestFile file) : IsName file ∧ file ≠ ".." := by
  rcases h with ⟨verb, hverb, words, hwords, rfl⟩
  have hall : ∀ word ∈ verb :: words, IsSmallWord word :=
    List.forall_mem_cons.mpr ⟨isSmallWord_verb verb hverb, hwords⟩
  have hlength : 3 ≤ (Text.join "-" (verb :: words) ++ Text.ofString ".js").length := by
    rw [List.length_append]
    exact Nat.le_add_left 3 _
  have hstroke : CodePoint.char '/' ∉ Text.join "-" (verb :: words) ++ Text.ofString ".js" := by
    intro hmem
    rcases List.mem_append.mp hmem with hjoin | hending
    · rcases (mem_join (by decide)).mp hjoin with ⟨word, hword, hletter⟩
      exact absurd ((hall word hword).2 _ hletter) (by decide)
    · exact absurd hending (by decide)
  rcases leads_of_length hlength with ⟨hleads, hdown⟩
  exact ⟨⟨hleads, hstroke⟩, hdown⟩

/-- Such a name has no halves in it, so it is known as it is. -/
theorem IsRequestFile.isWhole (h : IsRequestFile file) : IsWhole file := by
  rcases h with ⟨verb, hverb, words, hwords, rfl⟩
  have hsmall {word : Text} (hword : IsSmallWord word) : IsWhole word := by
    intro c hc
    have hchar := isSmallWordChar_iff.mp (hword.2 c hc)
    cases c with
    | char c => rfl
    | half n =>
        rw [CodePoint.toNat, CodePoint.firstHalf] at hchar
        omega
  refine isWhole_append.mpr ⟨(isWhole_join (by decide)).mpr ?_, isWhole_ofString _⟩
  exact List.forall_mem_cons.mpr
    ⟨hsmall (isSmallWord_verb verb hverb), fun word hword => hsmall (hwords word hword)⟩

/-! ## Items -/

/-- An item was made for the request at an index, counted from zero. -/
structure BatchCall.MadeAt (call : BatchCall env words t) (n : Nat) (r : Text × Request)
    (item : BatchItem) : Prop where
  /-- The request is at the index. -/
  request : call.requests[n]? = some r
  /-- The item is for the request. -/
  isFor : ∃ g ∈ call.grammars, item = BatchItem.of r.1 r.2 g
  /-- There is a snippet. -/
  made : item.isFailed = false

/-- An item was made for the entry at an index, and the entry has no id that counts. -/
structure BatchCall.MadeUnnamed (call : BatchCall env words t) (values : List Value) (n : Nat)
    (r : Text × Request) (item : BatchItem) : Prop extends call.MadeAt n r item where
  /-- The entry has no id that counts. -/
  entry : ∃ v, values[n]? = some v ∧ IsUnnamed v

/-- Everything that is known of where the files for entries without ids that count are. -/
structure UnnamedFiles (call : BatchCall env words t) (values : List Value) : Prop where
  /-- Each entry gives a request, in the order of the entries. -/
  taken : List.Forall₂ Taken values call.requests
  /-- Files are written for items that were made, and each item is for one of the requests. -/
  written : Changes (fun _ => True)
    (fun place => ∃ n r item, call.MadeAt n r item ∧ place = t.placeOf (call.pathOf item))
    t (runOn env words t).2
  /-- The file for such an entry is directly in the directory for the language, under a name that is made from
      the method and the path. -/
  placed : ∀ n r item, call.MadeUnnamed values n r item →
    ∃ file, IsRequestFile file ∧ file = requestName r.2.method r.2.path ++ ".js" ∧
      call.pathOf item = ⟨call.output.start, call.output.names ++ [Text.ofString "javascript", file]⟩ ∧
      t.placeOf (call.pathOf item) = file :: Text.ofString "javascript" :: t.placeOf call.output
  /-- Those for two such entries differ, as their paths do. -/
  distinct : ∀ m n r r' item other, call.MadeUnnamed values m r item →
    call.MadeUnnamed values n r' other → m ≠ n →
      call.pathOf item ≠ call.pathOf other ∧
        t.placeOf (call.pathOf item) ≠ t.placeOf (call.pathOf other)

/-- The requests of a call are those of the entries. -/
theorem BatchCall.forall₂_taken (call : BatchCall env words t)
    (hentries : ((loadEntries call.options.source : StateM FileTree _) t).1 = .ok entries)
    (hlists : Lists entries values) : List.Forall₂ Taken values call.requests := by
  have hloaded : ((CallSnippets.loadRequests call.options.source : StateM FileTree _) t).1 =
      .ok call.requests := call.loaded
  rw [loadRequests_of_entries hentries, namedRequests_of_lists hlists] at hloaded
  exact (namedRequestsFrom_nil_eq_ok.mp hloaded).1

/-- An entry without an id that counts gives its request a name that is made from the method and the path. -/
theorem Taken.name_eq {v : Value} (h : Taken v r) (hv : IsUnnamed v) :
    r.1 = requestName r.2.method r.2.path := by
  cases h with
  | mk hmap _ _ hname =>
      generalize hid : Value.lookup "id" _ = id at hname
      cases hname with
      | none => rfl
      | void _ => rfl
      | given hcounts _ =>
          rw [hv _ hmap _ hid] at hcounts
          cases hcounts

namespace BatchCall

variable {call : BatchCall env words t}

theorem MadeAt.mem_items (h : call.MadeAt n r item) : item ∈ call.items := by
  rcases h.isFor with ⟨g, hg, rfl⟩
  exact List.mem_flatMap.mpr ⟨r, List.mem_of_getElem? h.request, List.mem_map_of_mem hg⟩

theorem MadeAt.name_eq (h : call.MadeAt n r item) : item.name = r.1 := by
  rcases h.isFor with ⟨g, _, rfl⟩
  rfl

/-- There is one item for each name in the only language that there is. -/
theorem MadeAt.item_eq (h : call.MadeAt n r item) : item = BatchItem.of r.1 r.2 javaScript := by
  rcases call.mem_items h.mem_items with ⟨r', hr', rfl⟩
  have hsame : r' = r :=
    List.inj_on_of_nodup_map call.nodup_names hr' (List.mem_of_getElem? h.request) h.name_eq
  rw [hsame]

/-- An item that was made has a method that there is a call for. -/
theorem MadeAt.lower_mem (h : call.MadeAt n r item) : Text.lower r.2.method ∈ requestVerbs := by
  rcases exists_result h.made with ⟨snippet, hresult⟩
  rw [h.item_eq] at hresult
  have hrender : render javaScript r.2 = .ok snippet := (unwrap_generate _ _).symm.trans hresult
  rcases render_eq_ok.mp hrender with ⟨verb, hverb, _⟩
  exact lower_mem_requestVerbs hverb

section

variable (h : call.MadeUnnamed values n r item) (htaken : List.Forall₂ Taken values call.requests)

include h htaken

/-- The file is named for the method and the path. -/
theorem MadeUnnamed.file_eq :
    item.name ++ "." ++ item.fileExtension = requestName r.2.method r.2.path ++ ".js" := by
  rcases h.entry with ⟨v, hv, hunnamed⟩
  have hentry : Taken v r := (List.forall₂_iff_zip.mp htaken).2
    (List.mem_of_getElem? (List.getElem?_zip_eq_some.mpr ⟨hv, h.request⟩))
  rw [h.item_eq, ← hentry.name_eq hunnamed, List.append_assoc]
  rfl

theorem MadeUnnamed.splitOn_file :
    Text.splitOn '/' (item.name ++ "." ++ item.fileExtension) =
      [requestName r.2.method r.2.path ++ ".js"] := by
  rw [h.file_eq htaken]
  exact splitOn_self (isRequestFile_requestName _ h.lower_mem).isName.1.2

/-- The name of the item has no halves in it. -/
theorem MadeUnnamed.isWhole_name : IsWhole item.name := by
  have hfile := (isRequestFile_requestName r.2.path h.lower_mem).isWhole
  rw [← h.file_eq htaken, List.append_assoc] at hfile
  exact (isWhole_append.mp hfile).1

/-- The name of the file leads straight down, and so it leads to no other directory. -/
theorem MadeUnnamed.isStraight : item.IsStraight := by
  have hfile := (isRequestFile_requestName r.2.path h.lower_mem).isName
  intro name hname
  rw [h.splitOn_file htaken, List.mem_singleton] at hname
  rw [hname]
  exact ⟨hfile.1.1, hfile.2⟩

end

end BatchCall

/-! ## Runs -/

/-- Where the files of a run are for entries without ids that count. -/
theorem BatchCall.unnamedFiles (call : BatchCall env words t)
    (htaken : List.Forall₂ Taken values call.requests) : UnnamedFiles call values := by
  have hlower {r : Text × Request} : Text.lower (BatchItem.of r.1 r.2 javaScript).language =
    Text.ofString "javascript" := lower_javaScript
  constructor
  case taken => exact htaken
  case written =>
    refine call.storedAll.changes call.isProper_output (fun _ _ _ _ _ _ => trivial) ?_
    intro item hitem snippet hresult
    rcases List.mem_flatMap.mp hitem with ⟨r, hr, hgrammars⟩
    rcases List.mem_map.mp hgrammars with ⟨g, hg, rfl⟩
    rcases List.mem_iff_getElem?.mp hr with ⟨n, hn⟩
    exact ⟨n, r, _, ⟨hn, ⟨g, hg, rfl⟩, isFailed_ok hresult⟩, rfl⟩
  case placed =>
    intro n r item h
    have hnames : item.namesBelow = [requestName r.2.method r.2.path ++ ".js"] :=
      (h.isStraight htaken).namesBelow.trans (h.splitOn_file htaken)
    refine ⟨_, isRequestFile_requestName _ h.lower_mem, rfl, ?_, ?_⟩
    · rw [call.pathOf_eq h.mem_items, ← BatchItem.namesBelow, hnames, h.item_eq, hlower]
    · rw [call.placeOf_straight h.mem_items (h.isStraight htaken), hnames, h.item_eq, hlower,
        List.map_singleton, Text.known_of_isWhole (isRequestFile_requestName _ h.lower_mem).isWhole]
      rfl
  case distinct =>
    intro m n r r' item other h h' hne
    have hplaces : t.placeOf (call.pathOf item) ≠ t.placeOf (call.pathOf other) := by
      intro hplace
      have hsame := call.eq_of_straight h.mem_items h'.mem_items (h.isStraight htaken)
        (h'.isStraight htaken)
        (Text.eq_of_fileBytes? (h.isWhole_name htaken) (h'.isWhole_name htaken)) hplace
      -- Both are for one request then, as no two requests have the same name.
      have hname : r.1 = r'.1 := by rw [← h.name_eq, ← h'.name_eq, hsame]
      have hlength : m < (call.requests.map Prod.fst).length := by
        rw [List.length_map]
        exact (List.getElem?_eq_some_iff.mp h.request).1
      refine hne ((List.getElem?_inj hlength call.nodup_names).mp ?_)
      rw [List.getElem?_map, List.getElem?_map, h.request, h'.request, Option.map_some, Option.map_some,
        hname]
    exact ⟨fun hpath => hplaces (by rw [hpath]), hplaces⟩

/-- Names, and where the files of a run are for entries without ids that count. -/
theorem runOn_unnamed :
    (∀ method path, NameRules method path) ∧
      ∀ (env : Environment) (words : List Text) (t : FileTree) (call : BatchCall env words t)
        (entries : List (Value × Value)) (values : List Value),
        ((loadEntries call.options.source : StateM FileTree _) t).1 = .ok entries →
          Lists entries values → UnnamedFiles call values :=
  ⟨requestName_rules, fun _ _ _ call _ _ hentries hlists =>
    call.unnamedFiles (call.forall₂_taken hentries hlists)⟩

/-- Two requests without ids that count, and the method of one of them is written small. -/
def unnamedText : String :=
  "requests:\n- \x7bmethod: GET, path: /me/messages\x7d\n" ++
    "- \x7bid: '', method: delete, path: //Users.7/\x7d\n"

/-- The entries for them. -/
def unnamedValues : { values : List Value // describedValues? unnamedText = some values ∧
    ∃ v ∈ values[1]?, IsUnnamed v } :=
  ⟨(describedValues? unnamedText).get (by decide +kernel), (Option.some_get _).symm, by decide +kernel⟩

/-- The call that a run is, and where the file for the second one is. -/
def unnamedCall : { call : BatchCall [] writingWords (describedTree unnamedText) //
    call.options.source = Path.ofText "d.yaml" ∧
    ∃ r ∈ call.requests[1]?, ∃ g ∈ call.grammars, (BatchItem.of r.1 r.2 g).isFailed = false ∧
      call.pathOf (BatchItem.of r.1 r.2 g) = Path.ofText "snippets/javascript/delete-users-7.js" } :=
  ⟨(batchCall? [] writingWords (describedTree unnamedText)).get (by decide +kernel), by decide +kernel⟩

/-- The file for the second request is directly in the directory for the language. -/
theorem runOn_unnamed_two : UnnamedFiles unnamedCall.val unnamedValues.val ∧
    ∃ r item, unnamedCall.val.MadeUnnamed unnamedValues.val 1 r item ∧
      unnamedCall.val.pathOf item = Path.ofText "snippets/javascript/delete-users-7.js" := by
  rcases unnamedValues with ⟨values, hvalues, v, hv, hunnamed⟩
  rcases unnamedCall with ⟨call, hsource, r, hr, g, hg, hmade, hpath⟩
  rcases describedValues?_eq_some hvalues with ⟨entries, hentries, hlists⟩
  rw [← hsource] at hentries
  refine ⟨runOn_unnamed.2 [] writingWords _ call entries values hentries hlists, r, _, ?_, hpath⟩
  exact ⟨⟨hr, ⟨g, hg, rfl⟩, hmade⟩, ⟨v, hv, hunnamed⟩⟩

end CallSnippets
