import CallSnippets.Proofs.Command.Batch

/-!
# Runs that keep the files that are there

A run may be told to keep the files that are there. Whether one is there is asked of its path, and the
answer is only as good as the path: a name that leads up is followed only if what is before it stands. If
a directory is missing before two dots, nothing seems to be there; then the missing directory is made,
the path leads to the file behind the dots after all, and that file is written over.

A path is settled if the part of it that may lead up leads to a directory. Settled paths stay settled
while the tree grows, and where nothing is found at a settled path, no file stands where it leads. So a
run whose paths are all settled keeps every file as it is. If it came to its end, all its files are there,
and the same run once more writes nothing.

## Main definitions

* `FileTree.Settled`: The part of a path that may lead up leads to a directory.
* `BatchCall.IsSettled`: The paths of all files that a call may write are settled.
* `AppendRuns`: Everything that is known of runs that keep the files that are there.

## Theorems

* `settled_of_straight`: A path that does not lead up is settled.
* `FileTree.Absent.not_stands`: Where nothing is found at a settled path, no file stands.
* `Stored.filesKept`, `StoredAll.filesKept`: What storing one item and items in a row keeps.
* `BatchCall.run_again`: The run once more after one that came to its end.
* `runOn_append`: Runs that keep the files that are there.
* `runOn_detour`: A run that writes over a file that it is led to through a missing directory.
-/

namespace CallSnippets

open FileTree

variable {t t' : FileTree} {p : Path} {bytes : ByteArray} {output : Path} {item : BatchItem}
  {items : List BatchItem} {fates : List Fate} {fault : Option Fault} {answer : Except Fault Fate}
  {env : Environment} {words : List Text}

/-! ## Settled paths -/

/-- The part of a path that may lead up leads to a directory, and the rest leads straight down. -/
def FileTree.Settled (t : FileTree) (p : Path) : Prop :=
  ∃ lead rest place, p.names = lead ++ rest ∧ IsStraight rest ∧
    Walk t (t.origin p.start) lead (.found place .directory)

/-- A path that does not lead up is settled. -/
theorem settled_of_straight (hp : p.IsProper) (h : Text.ofString ".." ∉ p.names) (t : FileTree) :
    t.Settled p := by
  refine ⟨[], p.names, t.origin p.start, rfl, fun name hname => ⟨(hp name hname).1, ?_⟩, .here _⟩
  rintro rfl
  exact h hname

/-- A settled path stays settled while the tree grows. -/
theorem FileTree.Settled.grow (h : t.Settled p) (hkept : KindsKept t t') : t'.Settled p := by
  rcases h with ⟨lead, rest, place, hnames, hstraight, hwalk⟩
  rcases hwalk.grow hkept rfl with ⟨node, hwalk', hkind⟩
  cases node with
  | file bytes => cases hkind
  | directory =>
      refine ⟨lead, rest, place, hnames, hstraight, ?_⟩
      rwa [hkept.origin]

/-- Where nothing is found at a settled path, no file stands where it leads. -/
theorem FileTree.Absent.not_stands (h : t.Absent p.text) (hp : p.IsProper) (hsettled : t.Settled p)
    (hpath : pathFault? p.text = none) : ¬t.Stands (t.placeOf p) bytes := by
  rcases hsettled with ⟨lead, rest, place, hnames, hstraight, hwalk⟩
  intro hstands
  -- The walk comes to the directory for certain, and goes straight down from there.
  have hfollow : t.follow p.text = t.walk place rest := by
    rw [follow_eq t hp, hpath, hnames]
    exact walk_append hwalk
  have hplace : t.placeOf p = destination place rest := by
    rw [placeOf, hnames, destination_append, ← hwalk.destination]
    rfl
  by_cases hrest : rest = []
  · -- The path leads to a directory.
    rw [hrest] at hfollow
    exact h.look_ne _ (look_eq_ok.mpr ⟨place, _, hfollow, rfl⟩)
  · rw [hplace] at hstands
    rcases walk_stands hstraight hrest hstands with hfound | hlong
    · exact h.look_ne _ (look_eq_ok.mpr ⟨_, _, hfollow.trans hfound, rfl⟩)
    · -- Of a path that is too long, it is not known that nothing is there.
      rcases h with ⟨e, hlook, hnothing⟩
      rw [look, hfollow, hlong] at hlook
      cases hlook
      cases hnothing

/-! ## What is kept -/

theorem pathFault?_eq_none_of_read {path : Text} (h : t.read path = .ok bytes) :
    pathFault? path = none := by
  rcases read_eq_ok.mp h with ⟨place, hfollow⟩
  exact (follow_eq_ok.mp hfollow).1

/-- A file that is written at a settled path is written over no file. -/
theorem FileWritten.filesKept {snippet : Text} (h : FileWritten true output t item snippet t')
    (hp : output.IsProper) (hsettled : t.Settled (output.join item.fileName)) : FilesKept t t' := by
  refine h.changes.filesKept ?_
  rintro place bytes rfl
  rcases h.file with ⟨_, _, hfile⟩
  exact (h.absent rfl).not_stands (Path.isProper_join hp item.fileName) hsettled
    (pathFault?_eq_none_of_read hfile)

/-- An item whose path is settled is stored without any change to files that stand. -/
theorem Stored.filesKept (h : Stored true output t item answer t') (hp : output.IsProper)
    (hsettled : ∀ snippet, item.result = .ok snippet → t.Settled (output.join item.fileName)) :
    FilesKept t t' := by
  have hproper := Path.isProper_join hp item.fileName
  cases h with
  | failed _ => exact .refl t
  | kept _ _ _ => exact .refl t
  | unclear _ _ => exact .refl t
  | created hwritten _ => exact hwritten.filesKept hp (hsettled _ hwritten.result)
  | untold hwritten _ => exact hwritten.filesKept hp (hsettled _ hwritten.result)
  | @broken snippet _ _ hresult habsent hbroken =>
      have hchanges := storeText_changes hproper snippet t
      rw [hbroken] at hchanges
      refine hchanges.filesKept ?_
      rintro place bytes ⟨rfl, hpath⟩
      exact (habsent rfl).not_stands hproper (hsettled _ hresult) hpath

theorem StoredAll.filesKept (h : StoredAll true output t items fates fault t') (hp : output.IsProper)
    (hsettled : ∀ item ∈ items, ∀ snippet, item.result = .ok snippet →
      t.Settled (output.join item.fileName)) : FilesKept t t' := by
  induction h with
  | done t => exact .refl t
  | ended hitem => exact hitem.filesKept hp (hsettled _ (List.mem_cons_self ..))
  | next hitem _ ih =>
      rcases List.forall_mem_cons.mp hsettled with ⟨hfirst, hrest⟩
      have hkept := hitem.filesKept hp hfirst
      exact hkept.trans (ih fun other hother snippet hresult =>
        (hrest other hother snippet hresult).grow hkept.kinds)

/-! ## Runs -/

/-- The paths of all files that a call may write are settled. -/
def BatchCall.IsSettled (call : BatchCall env words t) : Prop :=
  ∀ item ∈ call.items, ∀ snippet, item.result = .ok snippet → t.Settled (call.pathOf item)

/-- The closing line of a run that finds all its files. -/
def keptSummary (output : Path) (items : List BatchItem) : Text :=
  "Generated 0 snippets in " ++ output.text ++ " (" ++
    natText (items.countP BatchItem.isFailed) ++ " failed, " ++
    natText (items.countP fun item => !item.isFailed) ++ " kept)"

/-- Everything that is known of runs that keep the files that are there. -/
structure AppendRuns (env : Environment) (words : List Text) (t : FileTree) : Prop where
  /-- However a run ends, files that stand have the same bytes after it, and so has what can be read. -/
  kept : ∀ _ : BatchWords words t,
    (∀ call : BatchCall env words t, call.options.append = true ∧ call.IsSettled) →
      FilesKept t (runOn env words t).2 ∧
      ∀ path bytes, t.read path = .ok bytes → (runOn env words t).2.read path = .ok bytes
  /-- After a run that came to its end, the same run once more writes nothing: every pair that does not fail
      is kept, and the code is the same. -/
  again : ∀ call : BatchCall env words t, call.options.append = true → call.IsSettled →
    ∀ code, (runOn env words t).1.ending = .exit code →
      (runOn env words (runOn env words t).2).2 = (runOn env words t).2 ∧
      (runOn env words (runOn env words t).2).1.ending = .exit code ∧
      (runOn env words (runOn env words t).2).1.out =
        call.opening ++ told [keptSummary call.output call.items]

theorem BatchCall.filesKept (call : BatchCall env words t) (happend : call.options.append = true)
    (hsettled : call.IsSettled) : FilesKept t (runOn env words t).2 := by
  have hstored := call.storedAll
  rw [happend] at hstored
  exact hstored.filesKept call.isProper_output hsettled

theorem fateThere_cases (item : BatchItem) :
    (item.isFailed = true ∧ ∃ failure, item.fateThere = .failed item.name item.language failure) ∨
      (item.isFailed = false ∧ item.fateThere = .kept) := by
  rw [BatchItem.fateThere]
  cases hresult : item.result with
  | error failure => exact .inl ⟨isFailed_error hresult, failure, rfl⟩
  | ok snippet => exact .inr ⟨isFailed_ok hresult, rfl⟩

/-- Nothing is told as the result of items whose files are kept. -/
theorem out_fateThere (items : List BatchItem) :
    (items.map BatchItem.fateThere).flatMap Fate.out = [] := by
  refine List.flatMap_eq_nil_iff.mpr fun fate hfate => ?_
  rcases List.mem_map.mp hfate with ⟨item, _, rfl⟩
  rcases fateThere_cases item with ⟨_, failure, hfate⟩ | ⟨_, hfate⟩ <;> rw [hfate] <;> rfl

theorem summary_fateThere (output : Path) (items : List BatchItem) :
    summary output (items.map BatchItem.fateThere) = keptSummary output items := by
  have hnone : createdNames (items.map BatchItem.fateThere) = [] := by
    refine List.filterMap_eq_nil_iff.mpr fun fate hfate => ?_
    rcases List.mem_map.mp hfate with ⟨item, _, rfl⟩
    rcases fateThere_cases item with ⟨_, failure, hfate⟩ | ⟨_, hfate⟩ <;> rw [hfate] <;> rfl
  have hfailed : (items.map BatchItem.fateThere).countP Fate.isFailed =
      items.countP BatchItem.isFailed := by
    rw [List.countP_map]
    refine List.countP_congr fun item _ => ?_
    rcases fateThere_cases item with ⟨hitem, failure, hfate⟩ | ⟨hitem, hfate⟩ <;>
      rw [Function.comp, hfate, hitem] <;> rfl
  have hkept : (items.map BatchItem.fateThere).countP Fate.isKept =
      items.countP fun item => !item.isFailed := by
    rw [List.countP_map]
    refine List.countP_congr fun item _ => ?_
    rcases fateThere_cases item with ⟨hitem, failure, hfate⟩ | ⟨hitem, hfate⟩ <;>
      rw [Function.comp, hfate, hitem] <;> rfl
  rw [summary, hnone, hfailed, hkept]
  rfl

/-- A run that finds all its files leaves the tree as it is, and tells how many it found. -/
theorem BatchCall.run_there (call : BatchCall env words t) (happend : call.options.append = true)
    (hthere : ∀ item ∈ call.items, ∀ snippet, item.result = .ok snippet →
      ∃ kind, t.look (call.output.join item.fileName).text = .ok kind)
    (houtput : IsWhole call.output.text) :
    (runOn env words t).2 = t ∧
      (runOn env words t).1.ending = .exit (if call.items.any BatchItem.isFailed then 1 else 0) ∧
      (runOn env words t).1.out = call.opening ++ told [keptSummary call.output call.items] := by
  have hstored : call.stored = ((call.items.map BatchItem.fateThere, none), t) := by
    rw [BatchCall.stored, happend]
    exact storeItems_there hthere
  have hcompletes := call.completes (by rw [hstored])
  rcases hcompletes.closed houtput with ⟨hout, hending⟩
  have htree : (runOn env words t).2 = t := by rw [call.run_eq, hstored]
  refine ⟨htree, hending, ?_⟩
  rw [hout, hstored, out_fateThere, summary_fateThere]
  exact congrArg (· ++ _) (List.append_nil call.opening)

/-- The run once more after one that came to its end. -/
theorem BatchCall.run_again {code : Int} (call : BatchCall env words t)
    (happend : call.options.append = true) (hkept : FilesKept t (runOn env words t).2)
    (h : (runOn env words t).1.ending = .exit code) :
    (runOn env words (runOn env words t).2).2 = (runOn env words t).2 ∧
      (runOn env words (runOn env words t).2).1.ending = .exit code ∧
      (runOn env words (runOn env words t).2).1.out =
        call.opening ++ told [keptSummary call.output call.items] := by
  have hfault := call.fault_eq_none h
  have hcompletes := call.completes hfault
  -- Otherwise the closing line could not be told, and the run would not have come to its end.
  have houtput : IsWhole call.output.text := by
    by_cases hwhole : IsWhole call.output.text
    · exact hwhole
    · rw [(hcompletes.unclosed hwhole).2.2.2] at h
      cases h
  have hcode := (hcompletes.closed houtput).2
  rw [h] at hcode
  have hthere := hcompletes.stored.there call.isProper_output
  rw [hcode]
  exact (call.again hkept).run_there happend hthere houtput

/-- What is known of runs that keep the files that are there. -/
theorem runOn_append (env : Environment) (words : List Text) (t : FileTree) :
    AppendRuns env words t := by
  constructor
  case kept =>
    intro b hcalls
    have hkept : FilesKept t (runOn env words t).2 := by
      by_cases hcall : Nonempty (BatchCall env words t)
      · rcases hcall with ⟨call⟩
        exact call.filesKept (hcalls call).1 (hcalls call).2
      · rw [b.run_tree fun call => hcall ⟨call⟩]
        exact .refl t
    exact ⟨hkept, fun path bytes hread => read_grow hkept hread⟩
  case again =>
    intro call happend hsettled code hcode
    exact call.run_again happend (call.filesKept happend hsettled) hcode

/-- The mixed run once more finds the file that it wrote. -/
theorem runOn_append_mixed :
    (runOn [] mixedWords (runOn [] mixedWords mixedTree).2).2 = (runOn [] mixedWords mixedTree).2 ∧
      (runOn [] mixedWords (runOn [] mixedWords mixedTree).2).1.ending = .exit 1 := by
  rcases mixedCall with ⟨call, hitems, houtput, hstored, happend, hstraight⟩
  have hsettled : call.IsSettled := fun item hitem _ _ =>
    settled_of_straight (Path.isProper_join call.isProper_output item.fileName) (hstraight item hitem) _
  have hending := ((call.completes hstored).closed houtput).2
  rw [any_isFailed, hitems] at hending
  rcases (runOn_append [] mixedWords mixedTree).again call happend hsettled 1 hending with
    ⟨htree, hcode, _⟩
  exact ⟨htree, hcode⟩

/-- A file of snippets, and a request whose name leads to it through a directory that is missing. -/
def detourTree : FileTree where
  nodes := [(["d.yaml"], .file "requests:\n- \x7bid: x/../keep, method: GET, path: /me\x7d\n".toUTF8),
    (["snippets"], .directory), (["javascript", "snippets"], .directory),
    (["keep.js", "javascript", "snippets"], .file "old".toUTF8)]
  workingDirectory := []

/-- A run that keeps the files that are there. -/
def detourWords : List Text :=
  ["batch", "d.yaml", "--append"]

/-- The file of snippets. -/
def detourFile : Text := "snippets/javascript/keep.js"

/-- The call that the run is: it is to keep files, and does not keep the file of snippets. -/
def detourCall : { call : BatchCall [] detourWords detourTree // call.options.append = true ∧
    (detourTree.read detourFile).toOption = some "old".toUTF8 ∧
    (call.stored.2.read detourFile).toOption ≠ some "old".toUTF8 } :=
  ⟨(batchCall? [] detourWords detourTree).get (by decide +kernel), by decide +kernel⟩

/-- A run that is to keep files writes over one that it is led to through a missing directory. -/
theorem runOn_detour : detourCall.val.options.append = true ∧
    detourTree.read detourFile = .ok "old".toUTF8 ∧
    (runOn [] detourWords detourTree).2.read detourFile ≠ .ok "old".toUTF8 := by
  rcases detourCall with ⟨call, happend, hbefore, hafter⟩
  refine ⟨happend, eq_ok_of_toOption hbefore, fun hsame => hafter ?_⟩
  rw [call.run_eq] at hsame
  rw [hsame]
  rfl

end CallSnippets
