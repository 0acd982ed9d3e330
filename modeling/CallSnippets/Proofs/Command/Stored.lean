import CallSnippets.Command.Batch
import CallSnippets.Proofs.Files.Alike

/-!
# What becomes of items

Items are stored one after the other, and what becomes of one depends on the tree that those before it
have left. There are six ways. An item that failed leaves the tree as it is; so does one whose file is
kept, and one of which it cannot be told whether its file is there. The file of any other item is written,
or the writing breaks off. A file that is written is told of, unless its path has no form in bytes. The
rules say for each of them what the tree is afterwards, and the function that stores items goes by the
rules, so that what is proved of a whole batch is proved by induction on them.

## Main definitions

* `FileTree.Absent`: It is known that nothing is at a path.
* `FileWritten`: The snippet of an item is written to the file for it.
* `Stored`, `StoredAll`: The rules for one item and for items in a row.
* `WritesSucceed`, `LinesTold`: All files that are to be written can be written, and can be told of.
* `EndsUntold`: The last item that was reached has its file, and this could not be told.

## Theorems

* `stored_storeItem`, `storedAll_storeItems`: The functions go by the rules.
* `Stored.reached_cases`: What becomes of an item that is reached.
* `Stored.changes`, `StoredAll.changes`: What is changed by one item, and by items in a row.
* `StoredAll.there`: What is there afterwards.
* `storeItems_fault`: All items are reached exactly if all files can be written and told of.
* `storeItems_untold`: What it comes to if all files can be written and one of them cannot be told of.
* `storeItems_there`: Nothing is written where every file is kept.
* `blind_storeItems`: What becomes of items does not depend on the bytes of files.
-/

namespace CallSnippets

open FileTree

/-- It is known that nothing is at a path. -/
def FileTree.Absent (t : FileTree) (path : Text) : Prop :=
  ∃ e, t.look path = .error e ∧ e.isAbsence = true

/-- The snippet of an item is written to the file for it. -/
structure FileWritten (append : Bool) (output : Path) (t : FileTree) (item : BatchItem) (snippet : Text)
    (t' : FileTree) : Prop where
  /-- The snippet is that of the item. -/
  result : item.result = .ok snippet
  /-- No file is there that is to be kept. -/
  absent : append = true → t.Absent (output.join item.fileName).text
  /-- The path of the file leads to the bytes of the snippet. -/
  file : ∃ bytes, Text.toBytes? snippet = some bytes ∧
    t'.read (output.join item.fileName).text = .ok bytes
  /-- Nothing else is changed, but directories above the file may be made. -/
  changes : Changes (t.Above (output.join item.fileName).parent)
    (· = t.placeOf (output.join item.fileName)) t t'

/-- What becomes of an item in a tree, and the tree that it leaves. -/
inductive Stored (append : Bool) (output : Path) (t : FileTree) (item : BatchItem) :
    Except Fault Fate → FileTree → Prop where
  /-- There is no snippet. -/
  | failed {failure : SnippetFailure} (hresult : item.result = .error failure) :
      Stored append output t item (.ok (.failed item.name item.language failure)) t
  /-- Something is at the path of the file, and it is kept. -/
  | kept {snippet : Text} {kind : FileKind} (hresult : item.result = .ok snippet)
      (happend : append = true) (hthere : t.look (output.join item.fileName).text = .ok kind) :
      Stored append output t item (.ok .kept) t
  /-- It cannot be told whether something is there, because the path is too long. -/
  | unclear {snippet : Text} (hresult : item.result = .ok snippet)
      (hlong : t.look (output.join item.fileName).text = .error (.system .nameTooLong)) :
      Stored append output t item
        (.error ((FileError.system .nameTooLong).fault (output.join item.fileName).text)) t
  /-- The file is written, and told of. -/
  | created {snippet : Text} {t' : FileTree} (hwritten : FileWritten append output t item snippet t')
      (htold : IsWhole (output.join item.fileName).text) :
      Stored append output t item
        (.ok (.created item.fileName (output.join item.fileName) snippet)) t'
  /-- The file is written, but cannot be told of. -/
  | untold {snippet : Text} {t' : FileTree} (hwritten : FileWritten append output t item snippet t')
      (huntold : ¬IsWhole (output.join item.fileName).text) :
      Stored append output t item (.error .unencodable) t'
  /-- The writing breaks off. -/
  | broken {snippet : Text} {e : FileError} {t' : FileTree}
      (hresult : item.result = .ok snippet)
      (habsent : append = true → t.Absent (output.join item.fileName).text)
      (hbroken : (storeText (output.join item.fileName) snippet : StateM FileTree _) t = (.error e, t')) :
      Stored append output t item (.error (e.fault (output.join item.fileName).text)) t'

/-- What becomes of items in a row: the fates of those that were reached, the fault that ended it, if one
    did, and the tree that is left. -/
inductive StoredAll (append : Bool) (output : Path) :
    FileTree → List BatchItem → List Fate → Option Fault → FileTree → Prop where
  /-- There are no more items. -/
  | done (t : FileTree) : StoredAll append output t [] [] none t
  /-- An item was reached, and then the others were stored. -/
  | next {t u t' : FileTree} {item : BatchItem} {items : List BatchItem} {fate : Fate}
      {fates : List Fate} {fault : Option Fault} (hitem : Stored append output t item (.ok fate) u)
      (hrest : StoredAll append output u items fates fault t') :
      StoredAll append output t (item :: items) (fate :: fates) fault t'
  /-- A fault ended it. -/
  | ended {t t' : FileTree} {item : BatchItem} {items : List BatchItem} {fault : Fault}
      (hitem : Stored append output t item (.error fault) t') :
      StoredAll append output t (item :: items) [] (some fault) t'

/-- Something holds of each item whose snippet is to be written, in the tree in which the item is reached. -/
def ForWrites (append : Bool) (output : Path) (holds : FileTree → BatchItem → Text → Prop) :
    FileTree → List BatchItem → Prop
  | _, [] => True
  | t, item :: rest =>
    (∀ snippet, item.result = .ok snippet →
      (append = true → ∀ kind, t.look (output.join item.fileName).text ≠ .ok kind) →
        holds t item snippet) ∧
    ∀ fate, ((storeItem append output item : StateM FileTree _) t).1 = .ok fate →
      ForWrites append output holds ((storeItem append output item : StateM FileTree _) t).2 rest

/-- All files that are to be written can be written, each when its item is reached. -/
def WritesSucceed (append : Bool) (output : Path) : FileTree → List BatchItem → Prop :=
  ForWrites append output fun t item snippet =>
    ((storeText (output.join item.fileName) snippet : StateM FileTree _) t).1 = .ok ()

/-- All files that are to be written can be told of. -/
def LinesTold (append : Bool) (output : Path) : FileTree → List BatchItem → Prop :=
  ForWrites append output fun _ item _ => IsWhole (output.join item.fileName).text

/-- Items are stored up to one whose file is written, but cannot be told of. -/
def EndsUntold (append : Bool) (output : Path) (t : FileTree) (items : List BatchItem)
    (fates : List Fate) (t' : FileTree) : Prop :=
  ∃ before item after snippet u, items = before ++ item :: after ∧
    StoredAll append output t before fates none u ∧ FileWritten append output u item snippet t' ∧
    ¬IsWhole (output.join item.fileName).text

variable {append : Bool} {output : Path} {item : BatchItem} {items : List BatchItem} {fate : Fate}
  {fates : List Fate} {fault : Option Fault} {answer : Except Fault Fate} {t t' : FileTree}
  {snippet : Text} {made written : Place → Prop}

theorem FileTree.Absent.look_ne {path : Text} (h : t.Absent path) (kind : FileKind) :
    t.look path ≠ .ok kind := by
  rcases h with ⟨e, hlook, _⟩
  rw [hlook]
  exact nofun

/-! ## The rules -/

theorem run_createFile (output : Path) (item : BatchItem) (snippet : Text) (t : FileTree) :
    (createFile output item snippet : StateM FileTree _) t =
      match (storeText (output.join item.fileName) snippet : StateM FileTree _) t with
      | (.ok (), t') =>
        (if (Text.toBytes? (output.join item.fileName).text).isSome then
          .ok (.created item.fileName (output.join item.fileName) snippet)
        else .error .unencodable, t')
      | (.error e, t') => (.error (e.fault (output.join item.fileName).text), t') := by
  rw [createFile, run_bind]
  cases hstored : (storeText (output.join item.fileName) snippet : StateM FileTree _) t with
  | mk result u =>
      cases result with
      | error e => rfl
      | ok _ => cases Text.toBytes? (output.join item.fileName).text <;> rfl

/-- A file that is not there is written, or the writing breaks off. -/
theorem stored_createFile (hp : output.IsProper) (hresult : item.result = .ok snippet)
    (habsent : append = true → t.Absent (output.join item.fileName).text) :
    Stored append output t item ((createFile output item snippet : StateM FileTree _) t).1
      ((createFile output item snippet : StateM FileTree _) t).2 := by
  have hproper := Path.isProper_join hp item.fileName
  have hchanges := storeText_changes hproper snippet t
  rw [run_createFile]
  cases hstored : (storeText (output.join item.fileName) snippet : StateM FileTree _) t with
  | mk result u =>
      rw [hstored] at hchanges
      cases result with
      | error e => exact .broken hresult habsent hstored
      | ok _ =>
          rcases storeText_ok hproper hstored with ⟨bytes, hbytes, hfollow⟩
          have hwritten : FileWritten append output t item snippet u :=
            ⟨hresult, habsent, ⟨bytes, hbytes, read_eq_ok.mpr ⟨_, hfollow⟩⟩,
              hchanges.mono (fun _ h => h) fun _ h => h.1⟩
          simp only
          split
          · rename_i htold
            exact .created hwritten (isSome_toBytes?.mp htold)
          · rename_i huntold
            exact .untold hwritten fun htold => huntold (isSome_toBytes?.mpr htold)

theorem run_storeItem_failed {failure : SnippetFailure} (hresult : item.result = .error failure) :
    (storeItem append output item : StateM FileTree _) t =
      (.ok (.failed item.name item.language failure), t) := by
  rw [storeItem, hresult]
  rfl

theorem run_storeItem_made (hresult : item.result = .ok snippet) :
    (storeItem append output item : StateM FileTree _) t =
      if append then
        match foundAs (fun _ => true) (t.look (output.join item.fileName).text) with
        | .ok true => (.ok .kept, t)
        | .ok false => (createFile output item snippet : StateM FileTree _) t
        | .error e => (.error (e.fault (output.join item.fileName).text), t)
      else (createFile output item snippet : StateM FileTree _) t := by
  rw [storeItem, hresult]
  cases append with
  | false => rfl
  | true =>
      change ((isPresent (output.join item.fileName) : StateM FileTree _) >>= _) t = _
      rw [run_bind, run_isPresent, if_pos rfl]
      cases foundAs (fun _ => true) (t.look (output.join item.fileName).text) with
      | error e => rfl
      | ok found => cases found <;> rfl

/-- Storing one item goes by the rules. -/
theorem stored_storeItem (append : Bool) (hp : output.IsProper) (item : BatchItem) (t : FileTree) :
    Stored append output t item ((storeItem append output item : StateM FileTree _) t).1
      ((storeItem append output item : StateM FileTree _) t).2 := by
  cases hresult : item.result with
  | error failure =>
      rw [run_storeItem_failed hresult]
      exact .failed hresult
  | ok snippet =>
      rw [run_storeItem_made hresult]
      cases append with
      | false => exact stored_createFile hp hresult nofun
      | true =>
          rw [if_pos rfl]
          cases hlook : t.look (output.join item.fileName).text with
          | ok kind => exact .kept hresult rfl hlook
          | error e =>
              cases hfound : foundAs (fun _ => true) (.error e : Except FileError FileKind) with
              | ok found =>
                  -- Nothing is there, so the answer is that nothing is.
                  rw [foundAs] at hfound
                  split at hfound
                  · rename_i hnothing
                    cases hfound
                    exact stored_createFile hp hresult fun _ => ⟨e, hlook, hnothing⟩
                  · cases hfound
              | error e' =>
                  rw [← hlook] at hfound
                  have hlong := isPresent_error hfound
                  rw [hlong] at hfound
                  cases hfound
                  exact .unclear hresult hlong

/-- Storing items in a row goes by the rules. -/
theorem storedAll_storeItems (append : Bool) (hp : output.IsProper) (items : List BatchItem)
    (t : FileTree) : StoredAll append output t items
      ((storeItems append output items : StateM FileTree _) t).1.1
      ((storeItems append output items : StateM FileTree _) t).1.2
      ((storeItems append output items : StateM FileTree _) t).2 := by
  induction items generalizing t with
  | nil => exact .done t
  | cons item rest ih =>
      have hitem := stored_storeItem append hp item t
      rw [storeItems, run_bind]
      cases hstored : (storeItem append output item : StateM FileTree _) t with
      | mk answer u =>
          rw [hstored] at hitem
          cases answer with
          | error fault => exact .ended hitem
          | ok fate => exact .next hitem (ih u)

/-! ## What is changed -/

theorem FileWritten.changes_mono (h : FileWritten append output t item snippet t')
    (hmade : ∀ place, t.Above (output.join item.fileName).parent place → made place)
    (hwritten : written (t.placeOf (output.join item.fileName))) : Changes made written t t' := by
  refine h.changes.mono hmade ?_
  rintro place rfl
  exact hwritten

/-- The tree is changed on the way to the file of an item only, and only if there is a snippet. -/
theorem Stored.changes (h : Stored append output t item answer t') (hp : output.IsProper)
    (hmade : ∀ snippet, item.result = .ok snippet →
      ∀ place, t.Above (output.join item.fileName).parent place → made place)
    (hwritten : ∀ snippet, item.result = .ok snippet → written (t.placeOf (output.join item.fileName))) :
    Changes made written t t' := by
  cases h with
  | failed _ => exact .refl _ _ t
  | kept _ _ _ => exact .refl _ _ t
  | unclear _ _ => exact .refl _ _ t
  | created hfile _ => exact hfile.changes_mono (hmade _ hfile.result) (hwritten _ hfile.result)
  | untold hfile _ => exact hfile.changes_mono (hmade _ hfile.result) (hwritten _ hfile.result)
  | @broken snippet _ _ hresult _ hbroken =>
      have hchanges := storeText_changes (Path.isProper_join hp item.fileName) snippet t
      rw [hbroken] at hchanges
      refine hchanges.mono (hmade _ hresult) ?_
      rintro place ⟨rfl, _⟩
      exact hwritten _ hresult

theorem StoredAll.changes (h : StoredAll append output t items fates fault t') (hp : output.IsProper)
    (hmade : ∀ item ∈ items, ∀ snippet, item.result = .ok snippet →
      ∀ place, t.Above (output.join item.fileName).parent place → made place)
    (hwritten : ∀ item ∈ items, ∀ snippet, item.result = .ok snippet →
      written (t.placeOf (output.join item.fileName))) :
    Changes made written t t' := by
  induction h with
  | done t => exact .refl _ _ t
  | ended hitem =>
      exact hitem.changes hp (hmade _ (List.mem_cons_self ..)) (hwritten _ (List.mem_cons_self ..))
  | next hitem _ ih =>
      rcases List.forall_mem_cons.mp hmade with ⟨hmadeItem, hmadeRest⟩
      rcases List.forall_mem_cons.mp hwritten with ⟨hwrittenItem, hwrittenRest⟩
      have hfirst := hitem.changes hp hmadeItem hwrittenItem
      refine hfirst.trans (ih ?_ ?_)
      · intro other hother snippet hresult place hplace
        rw [hfirst.kindsKept.above] at hplace
        exact hmadeRest other hother snippet hresult place hplace
      · intro other hother snippet hresult
        rw [hfirst.kindsKept.placeOf]
        exact hwrittenRest other hother snippet hresult

theorem StoredAll.kindsKept (h : StoredAll append output t items fates fault t')
    (hp : output.IsProper) : KindsKept t t' := by
  have hchanges : Changes (fun _ => True) (fun _ => True) t t' :=
    h.changes hp (fun _ _ _ _ _ _ => trivial) fun _ _ _ _ => trivial
  exact hchanges.kindsKept

/-! ## What is there afterwards -/

/-- An item that was reached failed, or its file was kept, or its file was written and told of. -/
theorem Stored.reached_cases (h : Stored append output t item (.ok fate) t') :
    (∃ failure, item.result = .error failure ∧
      fate = .failed item.name item.language failure ∧ t' = t) ∨
    (∃ snippet kind, item.result = .ok snippet ∧ append = true ∧
      t.look (output.join item.fileName).text = .ok kind ∧ fate = .kept ∧ t' = t) ∨
    ∃ snippet, FileWritten append output t item snippet t' ∧
      IsWhole (output.join item.fileName).text ∧
      fate = .created item.fileName (output.join item.fileName) snippet := by
  generalize hanswer : (Except.ok fate : Except Fault Fate) = answer at h
  cases h with
  | failed hresult =>
      cases hanswer
      exact .inl ⟨_, hresult, rfl, rfl⟩
  | kept hresult happend hthere =>
      cases hanswer
      exact .inr (.inl ⟨_, _, hresult, happend, hthere, rfl, rfl⟩)
  | created hwritten htold =>
      cases hanswer
      exact .inr (.inr ⟨_, hwritten, htold, rfl⟩)
  | untold _ _ => cases hanswer
  | unclear _ _ => cases hanswer
  | broken _ _ _ => cases hanswer

/-- An item that was reached and did not fail has its file. -/
theorem Stored.there (h : Stored append output t item (.ok fate) t')
    (hresult : item.result = .ok snippet) :
    ∃ kind, t'.look (output.join item.fileName).text = .ok kind := by
  rcases h.reached_cases with ⟨_, herror, _⟩ | ⟨_, kind, _, _, hthere, _, rfl⟩ | ⟨_, hwritten, _⟩
  · rw [hresult] at herror
    cases herror
  · exact ⟨kind, hthere⟩
  · rcases hwritten.file with ⟨bytes, _, hfile⟩
    rcases read_eq_ok.mp hfile with ⟨place, hfollow⟩
    exact ⟨.file, look_eq_ok.mpr ⟨place, _, hfollow, rfl⟩⟩

/-- If all items were reached, those that did not fail have their files. -/
theorem StoredAll.there (h : StoredAll append output t items fates none t') (hp : output.IsProper) :
    ∀ item ∈ items, ∀ snippet, item.result = .ok snippet →
      ∃ kind, t'.look (output.join item.fileName).text = .ok kind := by
  generalize hfault : (none : Option Fault) = fault at h
  induction h with
  | done t => exact fun _ hitem => absurd hitem List.not_mem_nil
  | ended _ => cases hfault
  | next hitem hrest ih =>
      refine List.forall_mem_cons.mpr ⟨fun snippet hresult => ?_, ih hfault⟩
      rcases hitem.there hresult with ⟨kind, hlook⟩
      exact ⟨kind, look_grow (hrest.kindsKept hp) hlook⟩

/-! ## Items that are reached -/

/-- What holds of each item that is reached holds of all if all of them are. -/
theorem forWrites_of_fault {holds : FileTree → BatchItem → Text → Prop}
    (hholds : ∀ t item snippet fate, item.result = .ok snippet →
      (append = true → ∀ kind, t.look (output.join item.fileName).text ≠ .ok kind) →
      ((storeItem append output item : StateM FileTree _) t).1 = .ok fate → holds t item snippet)
    (h : ((storeItems append output items : StateM FileTree _) t).1.2 = none) :
    ForWrites append output holds t items := by
  -- Each item is asked for in the tree that those before it have left, as the function goes on to it.
  induction items generalizing t with
  | nil => trivial
  | cons item rest ih =>
      refine ⟨fun snippet hresult habsent => ?_, fun fate hanswer => ?_⟩
      · rw [storeItems, run_bind] at h
        cases hanswer : ((storeItem append output item : StateM FileTree _) t).1 with
        | error fault => rw [hanswer] at h; cases h
        | ok fate => exact hholds t item snippet fate hresult habsent hanswer
      · rw [storeItems, run_bind, hanswer] at h
        exact ih h

/-- A file was written and told of if nothing was there and the item was reached. -/
theorem storeText_of_storeItem (hresult : item.result = .ok snippet)
    (habsent : append = true → ∀ kind, t.look (output.join item.fileName).text ≠ .ok kind)
    (h : ((storeItem append output item : StateM FileTree _) t).1 = .ok fate) :
    ((storeText (output.join item.fileName) snippet : StateM FileTree _) t).1 = .ok () ∧
      IsWhole (output.join item.fileName).text := by
  have hcreate : ((createFile output item snippet : StateM FileTree _) t).1 = .ok fate := by
    rw [run_storeItem_made hresult] at h
    cases append with
    | false => exact h
    | true =>
        rw [if_pos rfl] at h
        cases hlook : t.look (output.join item.fileName).text with
        | ok kind => exact absurd hlook (habsent rfl kind)
        | error e =>
            rw [hlook, foundAs] at h
            cases hnothing : e.isAbsence with
            | true => rwa [hnothing, if_pos rfl] at h
            | false =>
                rw [hnothing, if_neg Bool.false_ne_true] at h
                cases h
  rw [run_createFile] at hcreate
  cases hstored : (storeText (output.join item.fileName) snippet : StateM FileTree _) t with
  | mk result u =>
      rw [hstored] at hcreate
      cases result with
      | error e => cases hcreate
      | ok _ =>
          refine ⟨rfl, isSome_toBytes?.mp ?_⟩
          cases htold : (Text.toBytes? (output.join item.fileName).text).isSome with
          | true => rfl
          | false =>
              rw [htold, if_neg Bool.false_ne_true] at hcreate
              cases hcreate

/-- An item whose file can be written if it is to be is reached, unless the file cannot be told of. -/
theorem Stored.untold_of_error {f : Fault} (h : Stored append output t item (.error f) t')
    (hp : output.IsProper) (hwrite : ∀ snippet, item.result = .ok snippet →
      (append = true → ∀ kind, t.look (output.join item.fileName).text ≠ .ok kind) →
        ((storeText (output.join item.fileName) snippet : StateM FileTree _) t).1 = .ok ()) :
    f = .unencodable ∧ ∃ snippet, FileWritten append output t item snippet t' ∧
      ¬IsWhole (output.join item.fileName).text := by
  generalize hanswer : (Except.error f : Except Fault Fate) = answer at h
  cases h with
  | failed _ => cases hanswer
  | kept _ _ _ => cases hanswer
  | created _ _ => cases hanswer
  | untold hwritten huntold =>
      cases hanswer
      exact ⟨rfl, _, hwritten, huntold⟩
  | unclear hresult hlong =>
      refine absurd (hwrite _ hresult fun _ kind hkind => ?_)
        (storeText_tooLong (Path.isProper_join hp item.fileName) hlong)
      rw [hlong] at hkind
      cases hkind
  | broken hresult habsent hbroken =>
      have hok := hwrite _ hresult fun happend => (habsent happend).look_ne
      rw [hbroken] at hok
      cases hok

theorem EndsUntold.cons {u : FileTree} (h : EndsUntold append output u items fates t')
    (hitem : Stored append output t item (.ok fate) u) :
    EndsUntold append output t (item :: items) (fate :: fates) t' := by
  rcases h with ⟨before, last, after, snippet, u', rfl, hstored, hwritten⟩
  exact ⟨item :: before, last, after, snippet, u', rfl, .next hitem hstored, hwritten⟩

/-- Where all files can be written, a fault can only be that one of them could not be told of. -/
theorem storeItems_untold {f : Fault} (hp : output.IsProper)
    (hwrites : WritesSucceed append output t items)
    (h : ((storeItems append output items : StateM FileTree _) t).1.2 = some f) :
    f = .unencodable ∧ ¬LinesTold append output t items ∧
      EndsUntold append output t items ((storeItems append output items : StateM FileTree _) t).1.1
        ((storeItems append output items : StateM FileTree _) t).2 := by
  induction items generalizing t with
  | nil => cases h
  | cons item rest ih =>
      rcases hwrites with ⟨hwrite, hrest⟩
      have hitem := stored_storeItem append hp item t
      rw [LinesTold, ForWrites]
      rw [storeItems, run_bind] at h ⊢
      cases hstored : (storeItem append output item : StateM FileTree _) t with
      | mk answer u =>
          rw [hstored] at hitem hrest h
          cases answer with
          | ok fate =>
              rcases ih (hrest fate rfl) h with ⟨hfault, huntold, hends⟩
              exact ⟨hfault, fun htold => huntold (htold.2 fate rfl), hends.cons hitem⟩
          | error fault =>
              cases h
              rcases hitem.untold_of_error hp hwrite with ⟨hfault, snippet, hwritten, huntold⟩
              have hends : EndsUntold append output t (item :: rest) [] u :=
                ⟨[], item, rest, snippet, t, rfl, .done t, hwritten, huntold⟩
              refine ⟨hfault, fun htold => huntold ?_, hends⟩
              exact htold.1 snippet hwritten.result fun happend => (hwritten.absent happend).look_ne

/-- All items are reached exactly if all files that are to be written can be written and told of. -/
theorem storeItems_fault (hp : output.IsProper) :
    ((storeItems append output items : StateM FileTree _) t).1.2 = none ↔
      WritesSucceed append output t items ∧ LinesTold append output t items := by
  constructor
  · intro h
    refine ⟨forWrites_of_fault ?_ h, forWrites_of_fault ?_ h⟩
    · exact fun t item snippet fate hresult habsent hanswer =>
        (storeText_of_storeItem hresult habsent hanswer).1
    · exact fun t item snippet fate hresult habsent hanswer =>
        (storeText_of_storeItem hresult habsent hanswer).2
  · rintro ⟨hwrites, htold⟩
    cases hfault : ((storeItems append output items : StateM FileTree _) t).1.2 with
    | none => rfl
    | some f => exact absurd htold (storeItems_untold hp hwrites hfault).2.1

/-- What becomes of an item whose file is kept if there is one. -/
def BatchItem.fateThere (item : BatchItem) : Fate :=
  match item.result with
  | .error failure => .failed item.name item.language failure
  | .ok _ => .kept

/-- Nothing is written where every file is there and kept. -/
theorem storeItems_there (hthere : ∀ item ∈ items, ∀ snippet, item.result = .ok snippet →
      ∃ kind, t.look (output.join item.fileName).text = .ok kind) :
    (storeItems true output items : StateM FileTree _) t = ((items.map BatchItem.fateThere, none), t) := by
  induction items with
  | nil => rfl
  | cons item rest ih =>
      rcases List.forall_mem_cons.mp hthere with ⟨hitem, hrest⟩
      have hstored : (storeItem true output item : StateM FileTree _) t = (.ok item.fateThere, t) := by
        rw [BatchItem.fateThere]
        cases hresult : item.result with
        | error failure => exact run_storeItem_failed hresult
        | ok snippet =>
            rcases hitem snippet hresult with ⟨kind, hlook⟩
            rw [run_storeItem_made hresult, if_pos rfl, hlook]
            rfl
      rw [storeItems, run_bind, hstored]
      change ((storeItems true output rest : StateM FileTree _) >>= _) t = _
      rw [run_bind, ih hrest]
      rfl

/-! ## Trees that differ in the bytes of files -/

theorem blind_createFile (output : Path) (item : BatchItem) (snippet : Text) :
    Blind (createFile output item snippet) := by
  refine (blind_storeText _ _).bind fun answer => ?_
  cases answer with
  | error e => exact blind_pure _
  | ok _ =>
      simp only
      split <;> exact blind_pure _

theorem blind_storeItem (append : Bool) (output : Path) (item : BatchItem) :
    Blind (storeItem append output item) := by
  rw [storeItem]
  split
  · exact blind_pure _
  · split
    · refine (blind_isPresent _).bind fun answer => ?_
      split
      · exact blind_pure _
      · exact blind_createFile _ _ _
      · exact blind_pure _
    · exact blind_createFile _ _ _

/-- What becomes of items does not depend on the bytes of files. -/
theorem blind_storeItems (append : Bool) (output : Path) (items : List BatchItem) :
    Blind (storeItems append output items) := by
  induction items with
  | nil => exact blind_pure _
  | cons item rest ih =>
      refine (blind_storeItem append output item).bind fun answer => ?_
      cases answer with
      | error fault => exact blind_pure _
      | ok fate => exact ih.bind fun _ => blind_pure _

end CallSnippets
