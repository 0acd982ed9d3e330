import CallSnippets.Proofs.Command.Contained
import CallSnippets.Proofs.Request.Source

/-!
# Files that several items share

Names of requests are told apart as texts, and this is all that is asked of them. Files are told apart by
where their paths lead: a dot in a name leads nowhere, two dots lead back, and halves in a name may stand
for the bytes of a character. So two names may lead to one file. The snippet that is written last is then
the one that is left in it, and all of them are told as written.

Nothing is lost exactly if the items that share a file have the same snippet. This is so in particular if
names lead straight down and differ in their bytes, for then they lead to different files.

All of this is about the items that a run reaches. It reaches all of them unless it has to break off
behind a file that it cannot tell of.

## Main definitions

* `FileTree.HasSnippet`: A path leads to a file with the snippet of an item.
* `WrittenAll`: Items in a row of which each has failed or was written to its file.
* `BatchCall.reached`: The items that a run reaches.
* `IsLastAt`: The last item in a row whose path leads to a place.
* `BatchOutputs`: Everything that is known of what is in the files after a run.

## Theorems

* `BatchCall.nodup_names`: Names of requests differ.
* `WrittenAll.last`: What is in the files after items were written.
* `BatchCall.eq_of_straight`: Names that lead straight down lead to different files.
* `runOn_outputs`: What is in the files after runs.
* `runOn_shared`: A run in which a snippet is lost.
-/

namespace CallSnippets

open FileTree

variable {t t' : FileTree} {p q : Path} {bytes : ByteArray} {output : Path} {item other : BatchItem}
  {items : List BatchItem} {fate : Fate} {fates : List Fate} {env : Environment} {words : List Text}
  {made written : Place → Prop} {place : Place} {kind : FileKind}

/-! ## Names -/

/-- Names of requests that load differ from each other. -/
theorem BatchCall.nodup_names (call : BatchCall env words t) : (call.requests.map Prod.fst).Nodup := by
  rcases bind_eq_ok.mp call.loaded with ⟨entries, _, hrequests⟩
  rcases bind_eq_ok.mp hrequests with ⟨values, _, hnamed⟩
  exact (namedRequestsFrom_nil_eq_ok.mp hnamed).2

/-! ## Files -/

/-- A path leads to a file with the bytes of the snippet of an item. -/
def FileTree.HasSnippet (t : FileTree) (p : Path) (item : BatchItem) : Prop :=
  ∃ snippet bytes, item.result = .ok snippet ∧ Text.toBytes? snippet = some bytes ∧
    t.read p.text = .ok bytes

/-- Paths that lead to the same place lead to the same file. -/
theorem FileTree.HasSnippet.meet (h : t.HasSnippet p item) (hp : p.IsProper) (hq : q.IsProper)
    (hlook : t.look q.text = .ok kind) (hplace : t.placeOf q = t.placeOf p) : t.HasSnippet q item := by
  rcases h with ⟨snippet, bytes, hresult, hbytes, hread⟩
  rcases read_eq_ok.mp hread with ⟨place, hfollow⟩
  rcases look_eq_ok.mp hlook with ⟨place', node, hfollow', _⟩
  have hsame : place' = place :=
    (follow_place hq hfollow').trans (hplace.trans (follow_place hp hfollow).symm)
  have hnode : some node = some (.file bytes) := by
    have hstands : t.node? place' = some node := follow_node? hfollow'
    rw [hsame] at hstands
    exact hstands.symm.trans (follow_node? hfollow)
  cases hnode
  exact ⟨snippet, bytes, hresult, hbytes, read_eq_ok.mpr ⟨place', hfollow'⟩⟩

/-- A file is kept as it is unless something is written to its place. -/
theorem FileTree.HasSnippet.kept (h : t.HasSnippet p item) (hp : p.IsProper)
    (hchanges : Changes made written t t') (hplace : ¬written (t.placeOf p)) :
    t'.HasSnippet p item := by
  rcases h with ⟨snippet, bytes, hresult, hbytes, hread⟩
  rcases read_eq_ok.mp hread with ⟨place, hfollow⟩
  rcases follow_grow hchanges.kindsKept hfollow with ⟨node, hfollow', _⟩
  have hold : t.node? place = some (.file bytes) := follow_node? hfollow
  have hnew : t'.node? place = some node := follow_node? hfollow'
  have hnode : some node = some (.file bytes) := by
    rcases hchanges.node place with hsame | ⟨hfree, _, _⟩ | ⟨_, _, hwritten⟩
    · rw [← hnew, hsame, hold]
    · rw [hold] at hfree
      cases hfree
    · rw [← follow_place hp hfollow] at hplace
      exact absurd hwritten hplace
  cases hnode
  exact ⟨snippet, bytes, hresult, hbytes, read_eq_ok.mpr ⟨place, hfollow'⟩⟩

/-- What is in a file is the snippet of one item only. -/
theorem FileTree.HasSnippet.result_eq (h : t.HasSnippet p item) (h' : t.HasSnippet p other) :
    item.result = other.result := by
  rcases h with ⟨snippet, bytes, hresult, hbytes, hread⟩
  rcases h' with ⟨snippet', bytes', hresult', hbytes', hread'⟩
  rw [hread] at hread'
  cases hread'
  rw [hresult, hresult', toBytes?_inj hbytes hbytes']

theorem FileTree.HasSnippet.look (h : t.HasSnippet p item) : t.look p.text = .ok .file := by
  rcases h with ⟨_, _, _, _, hread⟩
  rcases read_eq_ok.mp hread with ⟨place, hfollow⟩
  exact look_eq_ok.mpr ⟨place, _, hfollow, rfl⟩

theorem exists_result (h : item.isFailed = false) : ∃ snippet, item.result = .ok snippet := by
  cases hresult : item.result with
  | ok snippet => exact ⟨snippet, rfl⟩
  | error failure =>
      rw [isFailed_error hresult] at h
      cases h

/-! ## Items that are written -/

/-- Items in a row of which each has failed or was written to its file, in the tree that those before it
    left. -/
inductive WrittenAll (output : Path) : FileTree → List BatchItem → FileTree → Prop where
  /-- There are no more items. -/
  | done (t : FileTree) : WrittenAll output t [] t
  /-- There is no snippet. -/
  | failed {t t' : FileTree} {item : BatchItem} {items : List BatchItem} (hfailed : item.isFailed = true)
      (hrest : WrittenAll output t items t') : WrittenAll output t (item :: items) t'
  /-- The snippet was written. -/
  | written {t u t' : FileTree} {item : BatchItem} {items : List BatchItem} {snippet : Text}
      (hitem : FileWritten false output t item snippet u) (hrest : WrittenAll output u items t') :
      WrittenAll output t (item :: items) t'

theorem WrittenAll.append {before after : List BatchItem} {u : FileTree} (h : WrittenAll output t before u)
    (h' : WrittenAll output u after t') : WrittenAll output t (before ++ after) t' := by
  induction h with
  | done t => exact h'
  | failed hfailed _ ih => exact .failed hfailed (ih h')
  | written hitem _ ih => exact .written hitem (ih h')

/-- Items that are all stored where no file is kept have failed or were written. -/
theorem StoredAll.writtenAll (h : StoredAll false output t items fates none t') :
    WrittenAll output t items t' := by
  generalize hfault : (none : Option Fault) = fault at h
  induction h with
  | done t => exact .done t
  | ended _ => cases hfault
  | next hitem _ ih =>
      rcases hitem.reached_cases with
        ⟨_, hresult, _, rfl⟩ | ⟨_, _, _, happend, _⟩ | ⟨_, hwritten, _⟩
      · exact .failed (isFailed_error hresult) (ih hfault)
      · cases happend
      · exact .written hwritten (ih hfault)

/-- What is changed by items that are written. -/
theorem WrittenAll.changes (h : WrittenAll output t items t') :
    Changes (fun _ => True) (fun place => ∃ item ∈ items, item.isFailed = false ∧
      place = t.placeOf (output.join item.fileName)) t t' := by
  induction h with
  | done t => exact .refl _ _ t
  | failed _ _ ih =>
      refine ih.mono (fun _ _ => trivial) ?_
      rintro place ⟨item, hitem, hplace⟩
      exact ⟨item, List.mem_cons_of_mem _ hitem, hplace⟩
  | @written t u t' item items snippet hfile _ ih =>
      have hkept : KindsKept t u := hfile.changes.kindsKept
      refine (hfile.changes.mono (fun _ _ => trivial) ?_).trans (ih.mono (fun _ _ => trivial) ?_)
      · rintro place rfl
        exact ⟨item, List.mem_cons_self .., isFailed_ok hfile.result, rfl⟩
      · rintro place ⟨other, hother, hmade, rfl⟩
        exact ⟨other, List.mem_cons_of_mem _ hother, hmade, hkept.placeOf _⟩

theorem FileWritten.hasSnippet {snippet : Text} (h : FileWritten false output t item snippet t') :
    t'.HasSnippet (output.join item.fileName) item := by
  rcases h.file with ⟨bytes, hbytes, hread⟩
  exact ⟨snippet, bytes, h.result, hbytes, hread⟩

/-- Items that were made and written have files. -/
theorem WrittenAll.there (h : WrittenAll output t items t') : ∀ item ∈ items, item.isFailed = false →
    ∃ kind, t'.look (output.join item.fileName).text = .ok kind := by
  induction h with
  | done t => exact fun _ hitem => absurd hitem List.not_mem_nil
  | failed hfailed _ ih =>
      refine List.forall_mem_cons.mpr ⟨fun hmade => ?_, ih⟩
      rw [hfailed] at hmade
      cases hmade
  | written hfile hrest ih =>
      exact List.forall_mem_cons.mpr
        ⟨fun _ => ⟨.file, look_grow hrest.changes.kindsKept hfile.hasSnippet.look⟩, ih⟩

/-- Of the items in a row, the last one that was made and whose path leads to a place. -/
def IsLastAt (t : FileTree) (output : Path) (place : Place) (items : List BatchItem)
    (item : BatchItem) : Prop :=
  ∃ before after, items = before ++ item :: after ∧ item.isFailed = false ∧
    t.placeOf (output.join item.fileName) = place ∧
    ∀ other ∈ after, other.isFailed = false → t.placeOf (output.join other.fileName) ≠ place

theorem IsLastAt.cons (h : IsLastAt t output place items item) (first : BatchItem) :
    IsLastAt t output place (first :: items) item := by
  rcases h with ⟨before, after, rfl, hrest⟩
  exact ⟨first :: before, after, rfl, hrest⟩

theorem IsLastAt.mem (h : IsLastAt t output place items item) : item ∈ items := by
  rcases h with ⟨before, after, rfl, _⟩
  exact List.mem_append_right _ (List.mem_cons_self ..)

theorem IsLastAt.grow (h : IsLastAt t' output place items item) (hkept : KindsKept t t') :
    IsLastAt t output place items item := by
  rw [IsLastAt]
  simp only [← hkept.placeOf]
  exact h

/-- The file of each item that was made and written has the snippet of the last one whose path leads to
    that file. -/
theorem WrittenAll.last (h : WrittenAll output t items t') (hp : output.IsProper)
    (hitem : item ∈ items) (hmade : item.isFailed = false) :
    ∃ last, IsLastAt t output (t.placeOf (output.join item.fileName)) items last ∧
      t'.HasSnippet (output.join item.fileName) last := by
  have hproper (item : BatchItem) : (output.join item.fileName).IsProper :=
    Path.isProper_join hp item.fileName
  -- The induction goes on from the first item, so it has to look ahead for one that shares the file.
  induction h generalizing item with
  | done t => exact absurd hitem List.not_mem_nil
  | @failed t t' first rest hfailed _ ih =>
      rcases List.mem_cons.mp hitem with rfl | hmem
      · rw [hfailed] at hmade
        cases hmade
      · rcases ih hmem hmade with ⟨last, hlast, hsnippet⟩
        exact ⟨last, hlast.cons first, hsnippet⟩
  | @written t u t' first rest _ hfirst hrest ih =>
      have hall : WrittenAll output t (first :: rest) t' := .written hfirst hrest
      have hkept : KindsKept t u := hfirst.changes.kindsKept
      by_cases hlater : ∃ other ∈ rest, other.isFailed = false ∧
          u.placeOf (output.join item.fileName) = u.placeOf (output.join other.fileName)
      · rcases hlater with ⟨other, hother, hmadeOther, hplace⟩
        rcases ih hother hmadeOther with ⟨last, hlast, hsnippet⟩
        rw [← hplace] at hlast
        rcases hall.there item hitem hmade with ⟨kind, hlook⟩
        refine ⟨last, ?_, ?_⟩
        · rw [← hkept.placeOf]
          exact (hlast.grow hkept).cons first
        · have hkept' : KindsKept u t' := hrest.changes.kindsKept
          refine hsnippet.meet (hproper other) (hproper item) hlook ?_
          rw [hkept'.placeOf, hkept'.placeOf, hplace]
      · -- No later one does, so this is the first item, and its file is left alone from now on.
        have hnone : ∀ other ∈ rest, other.isFailed = false →
            u.placeOf (output.join other.fileName) ≠ u.placeOf (output.join item.fileName) :=
          fun other hother hmadeOther hplace => hlater ⟨other, hother, hmadeOther, hplace.symm⟩
        rcases List.mem_cons.mp hitem with rfl | hmem
        · refine ⟨item, ⟨[], rest, rfl, hmade, rfl, ?_⟩, ?_⟩
          · intro other hother hmadeOther
            rw [← hkept.placeOf, ← hkept.placeOf]
            exact hnone other hother hmadeOther
          · refine hfirst.hasSnippet.kept (hproper item) hrest.changes ?_
            rintro ⟨other, hother, hmadeOther, hplace⟩
            exact hnone other hother hmadeOther hplace.symm
        · exact absurd rfl (hnone item hmem hmade)

/-! ## Names that lead straight down -/

/-- The name of the file for an item leads straight down from the directory for its language. -/
def BatchItem.IsStraight (item : BatchItem) : Prop :=
  CallSnippets.IsStraight (Text.splitOn '/' (item.name ++ "." ++ item.fileExtension))

theorem BatchItem.IsStraight.namesBelow (h : item.IsStraight) :
    item.namesBelow = Text.splitOn '/' (item.name ++ "." ++ item.fileExtension) :=
  List.filter_eq_self.mpr fun name hname => (h name hname).1

/-- Where the file for an item is whose name leads straight down. -/
theorem BatchCall.placeOf_straight (call : BatchCall env words t) (hitem : item ∈ call.items)
    (h : item.IsStraight) :
    t.placeOf (call.pathOf item) =
      (item.namesBelow.map Text.known).reverse ++ Text.lower item.language :: t.placeOf call.output := by
  rw [placeOf, call.pathOf_eq hitem, call.destination_language hitem]
  refine destination_straight (fun name hname => ?_) _
  rw [← BatchItem.namesBelow, h.namesBelow] at hname
  exact h name hname

/-- Items whose names lead straight down to the same file have names with the same bytes. -/
theorem BatchCall.fileBytes?_of_straight (call : BatchCall env words t) (hitem : item ∈ call.items)
    (hother : other ∈ call.items) (h : item.IsStraight) (h' : other.IsStraight)
    (hplace : t.placeOf (call.pathOf item) = t.placeOf (call.pathOf other)) :
    Text.fileBytes? item.name = Text.fileBytes? other.name := by
  rw [call.placeOf_straight hitem h, call.placeOf_straight hother h'] at hplace
  rcases call.mem_items hitem with ⟨r, _, rfl⟩
  rcases call.mem_items hother with ⟨r', _, rfl⟩
  have hknown := List.reverse_injective (List.append_cancel_right hplace)
  rw [h.namesBelow, h'.namesBelow] at hknown
  have hbytes := congrArg (List.map Text.fileBytes?) hknown
  simp only [List.map_map, Function.comp_def, Text.fileBytes?_known] at hbytes
  have htexts := Text.fileBytes?_join ['/'] hbytes
  rw [join_splitOn, join_splitOn, List.append_assoc, List.append_assoc] at htexts
  -- Both end with the same dot and ending, so the names in front have the same bytes.
  have hending : ∃ bytes, Text.fileBytes? (Text.ofString "." ++ javaScript.fileExtension) = some bytes :=
    Option.isSome_iff_exists.mp (by decide)
  exact Text.fileBytes?_append_cancel hending.choose_spec htexts

/-- Items whose names lead straight down to the same file are the same if names that differ have different
    bytes. -/
theorem BatchCall.eq_of_straight (call : BatchCall env words t) (hitem : item ∈ call.items)
    (hother : other ∈ call.items) (h : item.IsStraight) (h' : other.IsStraight)
    (hnames : Text.fileBytes? item.name = Text.fileBytes? other.name → item.name = other.name)
    (hplace : t.placeOf (call.pathOf item) = t.placeOf (call.pathOf other)) : item = other := by
  have hname := hnames (call.fileBytes?_of_straight hitem hother h h' hplace)
  rcases call.mem_items hitem with ⟨r, hr, rfl⟩
  rcases call.mem_items hother with ⟨r', hr', rfl⟩
  have hsame : r = r' := by
    have hinjective := List.inj_on_of_nodup_map call.nodup_names
    exact hinjective hr hr' hname
  rw [hsame]

/-! ## Runs -/

/-- The items that a run reaches: those whose fates are noted, and the one behind them, if there is one. -/
def BatchCall.reached (call : BatchCall env words t) : List BatchItem :=
  call.items.take (call.stored.1.1.length + 1)

/-- Everything that is known of what is in the files after a run that does not keep those that were
    there. -/
structure BatchOutputs (env : Environment) (words : List Text) (t : FileTree) : Prop where
  /-- The names of the requests differ. -/
  named : ∀ call : BatchCall env words t, (call.requests.map Prod.fst).Nodup
  /-- All items are reached if all files can be told of. -/
  reached : ∀ call : BatchCall env words t, call.options.append = false →
    WritesSucceed false call.output t call.items → LinesTold false call.output t call.items →
      call.reached = call.items
  /-- The file for an item that is reached has the snippet of the last such item whose path leads to it. -/
  last : ∀ call : BatchCall env words t, call.options.append = false →
    WritesSucceed false call.output t call.items → ∀ item ∈ call.reached, item.isFailed = false →
      ∃ last, IsLastAt t call.output (t.placeOf (call.pathOf item)) call.reached last ∧
        (runOn env words t).2.HasSnippet (call.pathOf item) last
  /-- So each file has the snippet of its own item exactly if items that share a file have the same
      snippet. -/
  own : ∀ call : BatchCall env words t, call.options.append = false →
    WritesSucceed false call.output t call.items →
      ((∀ item ∈ call.reached, item.isFailed = false →
          (runOn env words t).2.HasSnippet (call.pathOf item) item) ↔
        ∀ item ∈ call.reached, ∀ other ∈ call.reached,
          item.isFailed = false → other.isFailed = false →
            t.placeOf (call.pathOf item) = t.placeOf (call.pathOf other) → item.result = other.result)
  /-- This is so if the names of all these items lead straight down, and those that differ have different
      bytes. -/
  straight : ∀ call : BatchCall env words t, call.options.append = false →
    WritesSucceed false call.output t call.items →
      (∀ item ∈ call.reached, item.isFailed = false → item.IsStraight) →
      (∀ item ∈ call.reached, ∀ other ∈ call.reached,
        item.isFailed = false → other.isFailed = false →
          Text.fileBytes? item.name = Text.fileBytes? other.name → item.name = other.name) →
        ∀ item ∈ call.reached, item.isFailed = false →
          (runOn env words t).2.HasSnippet (call.pathOf item) item

/-- All items are reached if no fault ends the run among them. -/
theorem BatchCall.reached_eq (call : BatchCall env words t) (hfault : call.stored.1.2 = none) :
    call.reached = call.items := by
  rw [BatchCall.reached, (call.completes hfault).stored.length_eq]
  exact List.take_of_length_le (Nat.le_succ _)

theorem BatchCall.mem_of_reached (call : BatchCall env words t) (h : item ∈ call.reached) :
    item ∈ call.items :=
  List.mem_of_mem_take h

section

variable (call : BatchCall env words t) (happend : call.options.append = false)
  (hwrites : WritesSucceed false call.output t call.items)

include happend hwrites

/-- Each item that is reached has failed or was written. -/
theorem BatchCall.writtenAll : WrittenAll call.output t call.reached (runOn env words t).2 := by
  rw [← happend] at hwrites
  by_cases htold : LinesTold call.options.append call.output t call.items
  · have hfault := call.fault_iff.mpr ⟨hwrites, htold⟩
    have hstored := (call.completes hfault).stored
    rw [happend] at hstored
    rw [call.reached_eq hfault]
    exact hstored.writtenAll
  · rcases (call.breaksOff hwrites htold).stored with
      ⟨before, item, after, snippet, u, hitems, hstored, hwritten, _⟩
    have hreached : call.reached = before ++ [item] := by
      rw [BatchCall.reached, hitems, hstored.length_eq, List.take_length_add_append]
      rfl
    rw [happend] at hstored hwritten
    rw [hreached]
    exact hstored.writtenAll.append (.written hwritten (.done _))

theorem BatchCall.last (hitem : item ∈ call.reached) (hmade : item.isFailed = false) :
    ∃ last, IsLastAt t call.output (t.placeOf (call.pathOf item)) call.reached last ∧
      (runOn env words t).2.HasSnippet (call.pathOf item) last :=
  (call.writtenAll happend hwrites).last call.isProper_output hitem hmade

/-- Each file has the snippet of its own item if items that share a file have the same snippet. -/
theorem BatchCall.hasSnippet_self
    (h : ∀ item ∈ call.reached, ∀ other ∈ call.reached,
      item.isFailed = false → other.isFailed = false →
        t.placeOf (call.pathOf item) = t.placeOf (call.pathOf other) → item.result = other.result)
    (hitem : item ∈ call.reached) (hmade : item.isFailed = false) :
    (runOn env words t).2.HasSnippet (call.pathOf item) item := by
  rcases call.last happend hwrites hitem hmade with ⟨last, hlast, snippet, bytes, hresult, hfile⟩
  have hmem := hlast.mem
  rcases hlast with ⟨_, _, _, hmadeLast, hplace, _⟩
  refine ⟨snippet, bytes, ?_, hfile⟩
  rw [h item hitem last hmem hmade hmadeLast hplace.symm, hresult]

end

/-- What is in the files after runs. -/
theorem runOn_outputs (env : Environment) (words : List Text) (t : FileTree) :
    BatchOutputs env words t := by
  constructor
  case named => exact fun call => call.nodup_names
  case reached =>
    intro call happend hwrites htold
    rw [← happend] at hwrites htold
    exact call.reached_eq (call.fault_iff.mpr ⟨hwrites, htold⟩)
  case last => exact fun call happend hwrites item hitem hmade => call.last happend hwrites hitem hmade
  case own =>
    intro call happend hwrites
    constructor
    · intro h item hitem other hother hmade hmadeOther hplace
      have hitself := h item hitem hmade
      have hboth := h other hother hmadeOther
      refine (hitself.meet ?_ ?_ hboth.look ?_).result_eq hboth
      · exact Path.isProper_join call.isProper_output item.fileName
      · exact Path.isProper_join call.isProper_output other.fileName
      · have hkept : KindsKept t (runOn env words t).2 := call.storedAll.kindsKept call.isProper_output
        rw [hkept.placeOf, hkept.placeOf, hplace]
    · exact fun h item hitem hmade => call.hasSnippet_self happend hwrites h hitem hmade
  case straight =>
    intro call happend hwrites hstraight hnames item hitem hmade
    refine call.hasSnippet_self happend hwrites ?_ hitem hmade
    intro item hitem other hother hmade hmadeOther hplace
    rw [call.eq_of_straight (call.mem_of_reached hitem) (call.mem_of_reached hother)
      (hstraight item hitem hmade) (hstraight other hother hmadeOther)
      (hnames item hitem other hother hmade hmadeOther) hplace]

/-- Two requests whose names lead straight down, one of them into a directory. -/
def straightTree : FileTree :=
  filesTree [("d.yaml", "requests:\n- \x7bid: a, method: GET, path: /me\x7d\n" ++
    "- \x7bid: b/a, method: GET, path: /users\x7d\n")]

/-- Two requests whose names differ by a dot that leads nowhere. -/
def sharedTree : FileTree :=
  filesTree [("d.yaml", "requests:\n- \x7bid: a, method: GET, path: /me\x7d\n" ++
    "- \x7bid: ./a, method: GET, path: /users\x7d\n")]

/-- A run that writes over the files that are there. -/
def writingWords : List Text :=
  ["batch", "d.yaml"]

/-- The call of the first tree. -/
def straightCall : { call : BatchCall [] writingWords straightTree // call.options.append = false ∧
    call.stored.1.2 = none ∧ call.items.map BatchItem.isFailed = [false, false] ∧
    (∀ item ∈ call.items, ∀ name ∈ Text.splitOn '/' (item.name ++ "." ++ item.fileExtension),
      Path.leads name = true ∧ name ≠ "..") ∧
    ∀ item ∈ call.items, ∀ other ∈ call.items,
      Text.fileBytes? item.name = Text.fileBytes? other.name → item.name = other.name } :=
  ⟨(batchCall? [] writingWords straightTree).get (by decide +kernel), by decide +kernel⟩

/-- Each request of the first tree has its file. -/
theorem runOn_outputs_straight : ∀ item ∈ straightCall.val.items, item.isFailed = false →
    (runOn [] writingWords straightTree).2.HasSnippet (straightCall.val.pathOf item) item := by
  rcases straightCall with ⟨call, happend, hstored, _, hstraight, hnames⟩
  rcases call.fault_iff.mp hstored with ⟨hwrites, htold⟩
  rw [happend] at hwrites htold
  have hreached := (runOn_outputs [] writingWords straightTree).reached call happend hwrites htold
  have hown := (runOn_outputs [] writingWords straightTree).straight call happend hwrites
  rw [hreached] at hown
  exact hown (fun item hitem _ => hstraight item hitem)
    fun item hitem other hother _ _ => hnames item hitem other hother

/-- The call of the second tree: some file has not got the bytes that it is to have. -/
def sharedCall : { call : BatchCall [] writingWords sharedTree // call.options.append = false ∧
    call.languages = ["javascript"] ∧ call.stored.1.2 = none ∧
    call.items.map BatchItem.isFailed = [false, false] ∧
    ∃ item ∈ call.items, (call.stored.2.read (call.pathOf item).text).toOption ≠
      item.result.toOption.bind Text.toBytes? } :=
  ⟨(batchCall? [] writingWords sharedTree).get (by decide +kernel), by decide +kernel⟩

/-- A run in which a snippet is lost, although all were made and all could be written. -/
theorem runOn_shared : sharedCall.val.options.append = false ∧
    sharedCall.val.languages = ["javascript"] ∧
    WritesSucceed false sharedCall.val.output sharedTree sharedCall.val.items ∧
    (∀ item ∈ sharedCall.val.items, item.isFailed = false) ∧
    ∃ item ∈ sharedCall.val.items,
      ¬(runOn [] writingWords sharedTree).2.HasSnippet (sharedCall.val.pathOf item) item := by
  rcases sharedCall with ⟨call, happend, hlanguages, hstored, hmade, item, hitem, hbytes⟩
  have hwrites := (call.fault_iff.mp hstored).1
  rw [happend] at hwrites
  refine ⟨happend, hlanguages, hwrites, fun item hitem => ?_, item, hitem, fun hsnippet => hbytes ?_⟩
  · have hmem := List.mem_map_of_mem (f := BatchItem.isFailed) hitem
    rw [hmade] at hmem
    simpa using hmem
  · rcases hsnippet with ⟨snippet, bytes, hresult, hsome, hread⟩
    rw [call.run_eq] at hread
    rw [hread, hresult]
    exact hsome.symm

end CallSnippets
