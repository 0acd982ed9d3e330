import CallSnippets.Proofs.Command.Checked
import CallSnippets.Proofs.Command.Stored
import Mathlib.Data.List.Dedup

/-!
# Runs of the command for a whole file

What a run does to the tree of files, what it tells as its result, and how it ends, all at once. Where
everything that is to be written can be written, each pair of a request and a language has its fate, in
the order of the pairs: it failed, its file is kept, or its snippet is written to the file for it. What is
told as the result, the counts in the closing line among it, and the code at the end follow from the
fates.

Each file that is written is told of, and the closing line names the directory that is written below. A
path may have bytes as a name and still no form in UTF-8. Then the line that it is in cannot be told, and
the run ends in a fault there: before anything is loaded if it is the path of the file of requests, right
behind the file that was written if it is that of a file, and at the closing line if it is that of a
directory below which nothing had to be written.

Whether snippets are checked and how many workers there are makes no difference to any of this. It makes
none either if it is the file of settings that says so, except that the two trees then differ in that
file from the start.

## Main definitions

* `createdNames`, `summary`: The names of the files that are written, and the closing line.
* `BatchItem.isFailed`, `Fate.isCreated`: An item failed, and a file was written.
* `BatchCall.Completes`: What a call comes to in which everything can be written and told of.
* `BatchCall.BreaksOff`: What it comes to if everything can be written, but not told of.
* `BatchStart.Agrees`: Two runs differ in nothing but the checks and the workers.
* `BatchRuns`: Everything that is known of runs of the command.

## Theorems

* `length_createdFiles`: Each name counts once.
* `countP_fates`: Every item was written, kept, or failed.
* `StoredAll.unwritten`: What becomes of items if nothing can be told of their files.
* `BatchCall.completes`, `BatchCall.breaksOff`: What a call comes to.
* `BatchStart.Agrees.run`: The checks and the workers make no difference.
* `runOn_batch`: Runs of the command.
* `runOn_halves`: A run whose closing line cannot be told.
-/

namespace CallSnippets

open FileTree

/-- A file was written. -/
def Fate.isCreated : Fate → Bool
  | .created _ _ _ => true
  | _ => false

/-- The name of the file that was written, if one was. -/
def Fate.name? : Fate → Option Text
  | .created name _ _ => some name
  | _ => none

/-- The names of the files that were written, in order. -/
def createdNames (fates : List Fate) : List Text :=
  fates.filterMap Fate.name?

/-- The item failed. -/
def BatchItem.isFailed (item : BatchItem) : Bool :=
  item.failure?.isSome

/-- The closing line: how many different files were written, and how many pairs failed or were kept. -/
def summary (output : Path) (fates : List Fate) : Text :=
  "Generated " ++ natText (createdNames fates).dedup.length ++ " snippets in " ++ output.text ++ " (" ++
    natText (fates.countP Fate.isFailed) ++ " failed, " ++
    natText (fates.countP Fate.isKept) ++ " kept)"

variable {append : Bool} {output : Path} {item : BatchItem} {items : List BatchItem} {fate : Fate}
  {fates : List Fate} {fault : Option Fault} {t t' : FileTree} {env env' : Environment}
  {words words' : List Text}

/-! ## Counts -/

theorem mem_putFile {name content other : Text} {files : List (Text × Text)} :
    other ∈ (putFile name content files).map Prod.fst ↔ other = name ∨ other ∈ files.map Prod.fst := by
  induction files with
  | nil => exact List.mem_cons
  | cons f rest ih =>
      rw [putFile]
      split
      · rename_i hname
        rw [List.map_cons, List.map_cons, List.mem_cons, List.mem_cons, hname, or_self_left]
      · rw [List.map_cons, List.map_cons, List.mem_cons, List.mem_cons, ih, or_left_comm]

theorem nodup_putFile {name content : Text} {files : List (Text × Text)}
    (h : (files.map Prod.fst).Nodup) : ((putFile name content files).map Prod.fst).Nodup := by
  induction files with
  | nil => exact List.nodup_singleton name
  | cons f rest ih =>
      rcases List.nodup_cons.mp h with ⟨hf, hrest⟩
      rw [putFile]
      split
      · rename_i hname
        rw [← hname]
        exact h
      · rename_i hname
        refine List.nodup_cons.mpr ⟨fun hmem => ?_, ih hrest⟩
        rcases mem_putFile.mp hmem with hsame | hold
        · exact hname hsame
        · exact hf hold

/-- Files with more written have the names of those that were there and of those that were written, each
    name once. -/
theorem names_foldl {files : List (Text × Text)} (fates : List Fate)
    (hfiles : (files.map Prod.fst).Nodup) :
    ((fates.foldl Fate.addTo files).map Prod.fst).Nodup ∧
      ∀ name, name ∈ (fates.foldl Fate.addTo files).map Prod.fst ↔
        name ∈ createdNames fates ∨ name ∈ files.map Prod.fst := by
  induction fates generalizing files with
  | nil => exact ⟨hfiles, fun name => (or_iff_right List.not_mem_nil).symm⟩
  | cons fate rest ih =>
      cases fate with
      | failed _ _ _ => exact ih hfiles
      | kept => exact ih hfiles
      | created name path snippet =>
          have hput : ((putFile name snippet files).map Prod.fst).Nodup := nodup_putFile hfiles
          refine ⟨(ih hput).1, fun other => ((ih hput).2 other).trans ?_⟩
          have hnames : createdNames (.created name path snippet :: rest) = name :: createdNames rest := rfl
          rw [mem_putFile, hnames, List.mem_cons, or_left_comm, or_assoc]

/-- Each name of a file that was written counts once. -/
theorem length_createdFiles (fates : List Fate) :
    (createdFiles fates).length = (createdNames fates).dedup.length := by
  have hnames : ((createdFiles fates).map Prod.fst).Nodup ∧
      ∀ name, name ∈ (createdFiles fates).map Prod.fst ↔
        name ∈ createdNames fates ∨ name ∈ [] := names_foldl fates List.nodup_nil
  -- Both sides hold the same names, each once, if not in the same order.
  have hperm : ((createdFiles fates).map Prod.fst).Perm (createdNames fates).dedup := by
    refine (List.perm_ext_iff_of_nodup hnames.1 (List.nodup_dedup _)).mpr fun name => ?_
    rw [hnames.2, List.mem_dedup, or_iff_left List.not_mem_nil]
  rw [← hperm.length_eq, List.length_map]

theorem closingLine_eq (output : Path) (fates : List Fate) :
    closingLine output fates = summary output fates := by
  rw [closingLine, summary, length_createdFiles, List.countP_eq_length_filter,
    List.countP_eq_length_filter]

/-- Every fate is one of three. -/
theorem countP_fates (fates : List Fate) :
    fates.countP Fate.isCreated + fates.countP Fate.isKept + fates.countP Fate.isFailed =
      fates.length := by
  induction fates with
  | nil => rfl
  | cons fate rest ih =>
      rw [List.countP_cons, List.countP_cons, List.countP_cons, List.length_cons, ← ih]
      cases fate <;> simp only [Fate.isCreated, Fate.isKept, Fate.isFailed, if_true, Bool.false_eq_true,
        if_false] <;> omega

theorem isFailed_ok {snippet : Text} (h : item.result = .ok snippet) : item.isFailed = false := by
  rw [BatchItem.isFailed, BatchItem.failure?, h]
  rfl

theorem isFailed_error {failure : SnippetFailure} (h : item.result = .error failure) :
    item.isFailed = true := by
  rw [BatchItem.isFailed, BatchItem.failure?, h]
  rfl

/-- Whether some items failed and how many did can be told from whether each of them did. -/
theorem any_isFailed (items : List BatchItem) :
    items.any BatchItem.isFailed = (items.map BatchItem.isFailed).any id := by
  rw [List.any_map, Function.id_comp]

theorem countP_isFailed (items : List BatchItem) :
    items.countP BatchItem.isFailed = (items.map BatchItem.isFailed).countP id := by
  rw [List.countP_map, Function.id_comp]

/-- The fate of an item is that it failed exactly if it did. -/
theorem Stored.isFailed (h : Stored append output t item (.ok fate) t') :
    fate.isFailed = item.isFailed := by
  rcases h.reached_cases with
    ⟨_, hresult, rfl, _⟩ | ⟨_, _, hresult, _, _, rfl, _⟩ | ⟨_, hwritten, _, rfl⟩
  · exact (isFailed_error hresult).symm
  · exact (isFailed_ok hresult).symm
  · exact (isFailed_ok hwritten.result).symm

/-- An item that was reached leaves the tree as it is if its file cannot be told of. -/
theorem Stored.unwritten (h : Stored append output t item (.ok fate) t')
    (huntold : ¬IsWhole (output.join item.fileName).text) : fate.isCreated = false ∧ t' = t := by
  rcases h.reached_cases with ⟨_, _, rfl, rfl⟩ | ⟨_, _, _, _, _, rfl, rfl⟩ | ⟨_, _, htold, _⟩
  · exact ⟨rfl, rfl⟩
  · exact ⟨rfl, rfl⟩
  · exact absurd htold huntold

/-- Where all items were reached and none of their files can be told of, nothing was written. -/
theorem StoredAll.unwritten (h : StoredAll append output t items fates none t')
    (huntold : ∀ item ∈ items, ¬IsWhole (output.join item.fileName).text) :
    (∀ fate ∈ fates, fate.isCreated = false) ∧ t' = t := by
  generalize hfault : (none : Option Fault) = fault at h
  induction h with
  | done t => exact ⟨fun _ hfate => absurd hfate List.not_mem_nil, rfl⟩
  | ended _ => cases hfault
  | next hitem _ ih =>
      rcases List.forall_mem_cons.mp huntold with ⟨hfirst, hothers⟩
      rcases hitem.unwritten hfirst with ⟨hfate, htree⟩
      rcases ih hothers hfault with ⟨hfates, htrees⟩
      exact ⟨List.forall_mem_cons.mpr ⟨hfate, hfates⟩, htrees.trans htree⟩

/-- Where all items were reached, there is one fate for each, and it is that the item failed exactly if
    it did. -/
theorem StoredAll.isFailed (h : StoredAll append output t items fates none t') :
    fates.map Fate.isFailed = items.map BatchItem.isFailed := by
  generalize hfault : (none : Option Fault) = fault at h
  induction h with
  | done t => rfl
  | ended _ => cases hfault
  | next hitem _ ih => rw [List.map_cons, List.map_cons, ih hfault, hitem.isFailed]

theorem StoredAll.length_eq (h : StoredAll append output t items fates none t') :
    fates.length = items.length := by
  rw [← List.length_map (f := Fate.isFailed), h.isFailed, List.length_map]

/-! ## The closing line -/

theorem isWhole_summary : IsWhole (summary output fates) ↔ IsWhole output.text := by
  have hnumber (n : Nat) : IsWhole (natText n) := isWhole_ofString n.repr
  simp only [summary, isWhole_append, isWhole_ofString, hnumber, true_and, and_true]

theorem closing_told (check : Bool) (fates : List Fate) (h : IsWhole output.text) :
    (closing check output fates).out = told [summary output fates] ∧
      (closing check output fates).ending = .exit (if fates.any Fate.isFailed then 1 else 0) := by
  have hsome : (Text.toBytes? (closingLine output fates)).isSome = true := by
    rw [closingLine_eq]
    exact isSome_toBytes?.mpr (isWhole_summary.mpr h)
  rw [closing, Outcome.telling, if_pos hsome, closingLine_eq]
  exact ⟨by simp only [Outcome.after, Outcome.telling, List.nil_append, List.append_nil], rfl⟩

theorem closing_untold (check : Bool) (fates : List Fate) (h : ¬IsWhole output.text) :
    (closing check output fates).out = [] ∧
      (closing check output fates).ending = .fault .unencodable := by
  have hnone : ¬(Text.toBytes? (closingLine output fates)).isSome = true := by
    rw [closingLine_eq]
    exact fun hsome => h (isWhole_summary.mp (isSome_toBytes?.mp hsome))
  rw [closing, Outcome.telling, if_neg hnone]
  exact ⟨rfl, rfl⟩

theorem out_after (out err : Text) (o : Outcome) : (Outcome.after out err o).out = out ++ o.out := rfl

theorem ending_after (out err : Text) (o : Outcome) : (Outcome.after out err o).ending = o.ending := rfl

/-- What is told of a run in which all items were reached. -/
theorem batchOutcome_none (opening remarks : Text) (check : Bool) (output : Path) (fates : List Fate) :
    (Outcome.after opening remarks (batchOutcome check output fates none)).out =
        opening ++ (told (fates.flatMap Fate.out) ++ (closing check output fates).out) ∧
      (Outcome.after opening remarks (batchOutcome check output fates none)).ending =
        (closing check output fates).ending := by
  rw [out_after, ending_after, batchOutcome, out_after, ending_after]
  exact ⟨rfl, rfl⟩

/-- What is told of a run that a fault ended among the items. -/
theorem batchOutcome_some (opening remarks : Text) (check : Bool) (output : Path) (fates : List Fate)
    (f : Fault) :
    (Outcome.after opening remarks (batchOutcome check output fates (some f))).out =
        opening ++ told (fates.flatMap Fate.out) ∧
      (Outcome.after opening remarks (batchOutcome check output fates (some f))).ending = .fault f := by
  rw [out_after, ending_after, batchOutcome, out_after, ending_after]
  exact ⟨congrArg (opening ++ ·) (List.append_nil _), rfl⟩

/-- Nothing is told of items whose files were not written. -/
theorem out_uncreated (h : ∀ fate ∈ fates, fate.isCreated = false) : fates.flatMap Fate.out = [] := by
  refine List.flatMap_eq_nil_iff.mpr fun fate hfate => ?_
  cases fate with
  | failed _ _ _ => rfl
  | kept => rfl
  | created _ _ _ => cases h _ hfate

/-- A file can be told of only if the directory to write below can be. -/
theorem BatchCall.isWhole_output (call : BatchCall env words t) (hitem : item ∈ call.items)
    (h : IsWhole (call.pathOf item).text) : IsWhole call.output.text := by
  rw [call.pathOf_eq hitem, Path.isWhole_text, List.forall_mem_append] at h
  exact (Path.isWhole_text _).mpr h.1

/-! ## What runs come to -/

/-- What a call comes to in which everything that is to be written can be written and told of. -/
structure BatchCall.Completes (call : BatchCall env words t) (fates : List Fate) : Prop where
  /-- There is one item for each pair, made from the pair alone, in the order of the pairs. -/
  pairs : List.Forall₂ IsItem (pairs call.requests call.languages) call.items
  /-- The items are stored in their order, each by the rules, in the tree that those before it left. -/
  stored : StoredAll call.options.append call.output t call.items fates none (runOn env words t).2
  /-- Every pair was written, kept, or failed. -/
  counted : fates.countP Fate.isCreated + fates.countP Fate.isKept + fates.countP Fate.isFailed =
    call.requests.length * call.languages.length
  /-- As many have failed as there are items that failed. -/
  failed : fates.countP Fate.isFailed = call.items.countP BatchItem.isFailed
  /-- The result ends with the closing line, and the code says whether some pair failed. -/
  closed : IsWhole call.output.text →
    (runOn env words t).1.out =
      call.opening ++ told (fates.flatMap Fate.out) ++ told [summary call.output fates] ∧
    (runOn env words t).1.ending = .exit (if call.items.any BatchItem.isFailed then 1 else 0)
  /-- If the directory to write below has no form in bytes, every pair failed or was kept, nothing was
      changed, and the run ends in the fault that the closing line cannot be told. -/
  unclosed : ¬IsWhole call.output.text →
    (∀ fate ∈ fates, fate.isCreated = false) ∧ (runOn env words t).2 = t ∧
    (runOn env words t).1.out = call.opening ∧ (runOn env words t).1.ending = .fault .unencodable

/-- What a call comes to in which everything that is to be written can be written, but one of the files
    cannot be told of. -/
structure BatchCall.BreaksOff (call : BatchCall env words t) (fates : List Fate) : Prop where
  /-- There is one item for each pair, made from the pair alone, in the order of the pairs. -/
  pairs : List.Forall₂ IsItem (pairs call.requests call.languages) call.items
  /-- The items are stored by the rules up to one whose file is written, but cannot be told of. -/
  stored : EndsUntold call.options.append call.output t call.items fates (runOn env words t).2
  /-- What was told before stays. -/
  out : (runOn env words t).1.out = call.opening ++ told (fates.flatMap Fate.out)
  /-- The run ends in the fault that the line cannot be told. -/
  ending : (runOn env words t).1.ending = .fault .unencodable

/-- The items of a call are stored by the rules. -/
theorem BatchCall.storedAll (call : BatchCall env words t) :
    StoredAll call.options.append call.output t call.items call.stored.1.1 call.stored.1.2
      (runOn env words t).2 := by
  rw [call.run_eq]
  exact storedAll_storeItems _ call.isProper_output _ _

/-- All items of a call are reached exactly if all files can be written and told of. -/
theorem BatchCall.fault_iff (call : BatchCall env words t) : call.stored.1.2 = none ↔
    WritesSucceed call.options.append call.output t call.items ∧
      LinesTold call.options.append call.output t call.items :=
  storeItems_fault call.isProper_output

/-- What a call comes to whose items are all reached. -/
theorem BatchCall.completes (call : BatchCall env words t) (hfault : call.stored.1.2 = none) :
    call.Completes call.stored.1.1 := by
  have hstored : StoredAll call.options.append call.output t call.items call.stored.1.1 none
      (runOn env words t).2 := by
    rw [← hfault]
    exact call.storedAll
  have hfailed := hstored.isFailed
  have hany : call.stored.1.1.any Fate.isFailed = call.items.any BatchItem.isFailed := by
    rw [any_isFailed, ← hfailed, List.any_map, Function.id_comp]
  have hrun := call.run_eq
  rw [hfault] at hrun
  rcases batchOutcome_none call.opening call.remarks call.isChecked call.output call.stored.1.1 with
    ⟨hout, hending⟩
  constructor
  case pairs => exact call.forall₂_items
  case stored => exact hstored
  case counted => rw [countP_fates, hstored.length_eq, ← call.forall₂_items.length_eq, length_pairs]
  case failed => rw [countP_isFailed, ← hfailed, List.countP_map, Function.id_comp]
  case closed =>
    intro houtput
    rcases closing_told call.isChecked call.stored.1.1 houtput with ⟨hclosing, hcode⟩
    rw [hrun, hout, hending, hclosing, hcode, hany, List.append_assoc]
    exact ⟨rfl, rfl⟩
  case unclosed =>
    intro houtput
    rcases closing_untold call.isChecked call.stored.1.1 houtput with ⟨hclosing, hcode⟩
    rcases hstored.unwritten fun item hitem htold => houtput (call.isWhole_output hitem htold) with
      ⟨hnone, htree⟩
    refine ⟨hnone, htree, ?_⟩
    rw [hrun, hout, hending, hclosing, hcode, out_uncreated hnone]
    exact ⟨List.append_nil _, rfl⟩

/-- What a call comes to in which all files can be written, and not all of them told of. -/
theorem BatchCall.breaksOff (call : BatchCall env words t)
    (hwrites : WritesSucceed call.options.append call.output t call.items)
    (huntold : ¬LinesTold call.options.append call.output t call.items) :
    call.BreaksOff call.stored.1.1 := by
  cases hfault : call.stored.1.2 with
  | none => exact absurd (call.fault_iff.mp hfault).2 huntold
  | some f =>
      rcases storeItems_untold call.isProper_output hwrites hfault with ⟨rfl, _, hends⟩
      have hrun := call.run_eq
      rw [hfault] at hrun
      rcases batchOutcome_some call.opening call.remarks call.isChecked call.output call.stored.1.1
        .unencodable with ⟨hout, hending⟩
      constructor
      case pairs => exact call.forall₂_items
      case stored => rw [hrun]; exact hends
      case out => rw [hrun, hout]
      case ending => rw [hrun, hending]

/-- A call that comes to its end reaches all items. -/
theorem BatchCall.fault_eq_none {code : Int} (call : BatchCall env words t)
    (h : (runOn env words t).1.ending = .exit code) : call.stored.1.2 = none := by
  rw [call.run_eq, ending_after] at h
  cases hfault : call.stored.1.2 with
  | none => rfl
  | some f =>
      rw [hfault] at h
      cases h

/-- Two runs of the command differ in nothing but the checks and the workers, whatever their trees. -/
structure BatchStart.Agrees (b : BatchStart env words t) (b' : BatchStart env' words' t') : Prop where
  /-- The command lines say the same to the command, but for the checks. -/
  options : b'.options = { b.options with check := b'.options.check }
  /-- The settings name the same languages. -/
  languages : b'.settings.languages = b.settings.languages
  /-- The settings name the same directory to write below. -/
  outputDirectory : b'.settings.outputDirectory = b.settings.outputDirectory

/-- The result and the end of a run do not depend on the checks. -/
theorem batchOutcome_check (check check' : Bool) (output : Path) (fates : List Fate)
    (fault : Option Fault) :
    (batchOutcome check' output fates fault).out = (batchOutcome check output fates fault).out ∧
      (batchOutcome check' output fates fault).ending =
        (batchOutcome check output fates fault).ending := by
  cases fault with
  | some f => exact ⟨rfl, rfl⟩
  | none => simp only [batchOutcome, closing, out_after, ending_after, and_self]

/-- The checks and the workers make no difference to the result, the end and the files, in trees that are
    related in such a way that items are stored alike. -/
theorem BatchStart.Agrees.run {b : BatchStart env words t} {b' : BatchStart env' words' t'}
    (h : b.Agrees b') (hrequests : b'.loadRequests = b.loadRequests)
    (related : FileTree → FileTree → Prop) (htrees : related t t')
    (hstore : ∀ append output items,
      ((storeItems append output items : StateM FileTree _) t').1 =
        ((storeItems append output items : StateM FileTree _) t).1 ∧
      related ((storeItems append output items : StateM FileTree _) t).2
        ((storeItems append output items : StateM FileTree _) t').2) :
    (runOn env' words' t').1.out = (runOn env words t).1.out ∧
      (runOn env' words' t').1.ending = (runOn env words t).1.ending ∧
      related (runOn env words t).2 (runOn env' words' t').2 := by
  have hlanguages : b'.options.languagesOr b'.settings = b.options.languagesOr b.settings := by
    rw [BatchOptions.languagesOr, BatchOptions.languagesOr, h.options, h.languages]
  have houtput : b'.options.outputOr b'.settings = b.options.outputOr b.settings := by
    rw [BatchOptions.outputOr, BatchOptions.outputOr, h.options, h.outputDirectory]
  have hsource : b'.options.source = b.options.source := by rw [h.options]
  have happend : b'.options.append = b.options.append := by rw [h.options]
  rw [BatchStart.loadRequests, BatchStart.loadRequests, hsource] at hrequests
  by_cases htellable : IsWhole b.options.source.text
  case neg =>
    rw [b.run_untold htellable, b'.run_untold (by rwa [hsource])]
    exact ⟨rfl, rfl, htrees⟩
  rw [b.run_eq, b'.run_eq, run_runBatch _ _ htellable, run_runBatch _ _ (by rwa [hsource]), hsource,
    hrequests]
  cases ((CallSnippets.loadRequests b.options.source : StateM FileTree _) t).1 with
  | error trouble => exact ⟨rfl, rfl, htrees⟩
  | ok requests =>
      simp only [makeBatch, hlanguages, houtput, happend]
      cases findGrammars (b.options.languagesOr b.settings) with
      | error refusal => exact ⟨rfl, rfl, htrees⟩
      | ok grammars =>
          -- The checks come in only when all items are stored, and only to be told beside the result.
          rcases hstore b.options.append (b.options.outputOr b.settings) (batchItems requests grammars)
            with ⟨hfates, hleft⟩
          simp only [run_bind, run_pure, out_after, ending_after, hfates]
          rcases batchOutcome_check (b.options.check || b.settings.check)
            (b'.options.check || b'.settings.check) (b.options.outputOr b.settings) _ _ with
            ⟨hout, hending⟩
          exact ⟨by rw [hout], hending, hleft⟩

/-- Everything that is known of runs of the command for a whole file. -/
structure BatchRuns (env : Environment) (words : List Text) (t : FileTree) : Prop where
  /-- Where everything that is to be written can be written and told of, each pair has its fate. -/
  completes : ∀ call : BatchCall env words t,
    WritesSucceed call.options.append call.output t call.items →
    LinesTold call.options.append call.output t call.items → ∃ fates, call.Completes fates
  /-- If a file that is written cannot be told of, the run breaks off behind the first such file. -/
  broken : ∀ call : BatchCall env words t,
    WritesSucceed call.options.append call.output t call.items →
    ¬LinesTold call.options.append call.output t call.items → ∃ fates, call.BreaksOff fates
  /-- If the file of requests cannot be told of, nothing is done and nothing told. -/
  untold : ∀ b : BatchStart env words t, ¬IsWhole b.options.source.text →
    (runOn env words t).1 = .faulted .unencodable ∧ (runOn env words t).2 = t
  /-- A run that is refused ends with the code of the refusal and leaves the tree as it is. -/
  refused : ∀ r, Refuses env words t r →
    (runOn env words t).1.exitCode = r.report.exitCode ∧ (runOn env words t).2 = t
  /-- The checks and the workers make no difference to the result, the end and the files. -/
  unaffected : ∀ (b : BatchStart env words t) (env' : Environment) (words' : List Text)
    (b' : BatchStart env' words' t), b.Agrees b' →
      (runOn env' words' t).1.out = (runOn env words t).1.out ∧
      (runOn env' words' t).1.ending = (runOn env words t).1.ending ∧
      (runOn env' words' t).2 = (runOn env words t).2
  /-- The flag that has snippets checked may be put behind the name of the command. -/
  checked : ∀ b : BatchStart env words t, ∃ lead, words = lead ++ ("batch" : Text) :: b.rest ∧
    ∃ b' : BatchStart env (lead ++ ("batch" : Text) :: "--check" :: b.rest) t,
      b'.isChecked = true ∧ b.Agrees b'
  /-- The file of settings may say so instead. Then too the result and the end are the same, and the files
      differ only where they did before. -/
  edited : ∀ (b : BatchStart env words t) (differ : Place → Prop) (t' : FileTree), b.Edited differ t' →
    (∃ b' : BatchStart env words t', b'.isChecked = true ∧ b.Agrees b') ∧
      (runOn env words t').1.out = (runOn env words t).1.out ∧
      (runOn env words t').1.ending = (runOn env words t).1.ending ∧
      Alike differ (runOn env words t).2 (runOn env words t').2

/-- What is known of runs of the command for a whole file. -/
theorem runOn_batch (env : Environment) (words : List Text) (t : FileTree) : BatchRuns env words t := by
  constructor
  case completes =>
    intro call hwrites htold
    exact ⟨_, call.completes (call.fault_iff.mpr ⟨hwrites, htold⟩)⟩
  case broken => exact fun call hwrites huntold => ⟨_, call.breaksOff hwrites huntold⟩
  case untold => exact fun b huntold => by rw [b.run_untold huntold]; exact ⟨rfl, rfl⟩
  case refused =>
    intro r hr
    rcases hr.run_eq with ⟨out, hrun⟩
    rw [hrun]
    exact ⟨rfl, rfl⟩
  case unaffected =>
    intro b env' words' b' h
    have hrequests : b'.loadRequests = b.loadRequests := by
      rw [BatchStart.loadRequests, BatchStart.loadRequests, h.options]
    exact h.run hrequests (fun u u' => u' = u) rfl fun _ _ _ => ⟨rfl, rfl⟩
  case checked =>
    intro b
    rcases b.checked with ⟨lead, hwords, b', hoptions, hsettings⟩
    refine ⟨lead, hwords, b', ?_, ?_, ?_, ?_⟩
    · rw [BatchStart.isChecked, hoptions]
      rfl
    · rw [hoptions]
    · rw [hsettings]
    · rw [hsettings]
  case edited =>
    intro b differ t' h
    rcases h.start with ⟨b', hoptions, hsettings, hrequests⟩
    have hagrees : b.Agrees b' := by
      constructor
      case options => rw [hoptions]
      case languages => rw [hsettings]
      case outputDirectory => rw [hsettings]
    refine ⟨⟨b', ?_, hagrees⟩, hagrees.run hrequests (Alike differ) h.alike
      fun append output items => blind_storeItems append output items differ t t' h.alike⟩
    rw [BatchStart.isChecked, hsettings, Bool.or_true]

/-! ## Some runs -/

/-- Two requests, of which the first fails, in a language under two names. -/
def mixedTree : FileTree :=
  filesTree [("d.yaml", "requests:\n- \x7bmethod: HEAD, path: /me\x7d\n- \x7bmethod: GET, path: /me\x7d\n")]

/-- A run that keeps the files that are there. -/
def mixedWords : List Text :=
  ["batch", "d.yaml", "-l", "js", "-l", "JavaScript", "--append"]

/-- The call that the run is: two items fail, and the other two are reached. -/
def mixedCall : { call : BatchCall [] mixedWords mixedTree //
    call.items.map BatchItem.isFailed = [true, true, false, false] ∧ IsWhole call.output.text ∧
      call.stored.1.2 = none ∧ call.options.append = true ∧
      ∀ item ∈ call.items, Text.ofString ".." ∉ (call.pathOf item).names } :=
  ⟨(batchCall? [] mixedWords mixedTree).get (by decide +kernel), by decide +kernel⟩

/-- A name that is a byte which is no UTF-8. -/
def byteName : Text := [CodePoint.ofByte 0xFF]

/-- One request in a file with a usual name and in one with such a name, and a file of settings with nothing
    in it. -/
def plainTree : FileTree :=
  filesTree [("c.yaml", ""), ("d.yaml", "method: GET\npath: /me\n"), (byteName, "method: GET\npath: /me\n")]

/-- A run that is to write below a directory with such a byte in its name. -/
def byteWords : List Text :=
  ["batch", "d.yaml", "-o", "out" ++ byteName]

/-- The call that the run is: the file can be written, and cannot be told of. -/
def byteCall : { call : BatchCall [] byteWords plainTree // call.items.length = 1 ∧
    call.options.append = false ∧ ∀ item ∈ call.items, item.isFailed = false ∧
      ¬IsWhole (call.pathOf item).text ∧ ∀ snippet ∈ item.result.toOption,
        ((storeText (call.pathOf item) snippet : StateM FileTree _) plainTree).1.toOption = some () } :=
  ⟨(batchCall? [] byteWords plainTree).get (by decide +kernel), by decide +kernel⟩

/-- A run that cannot tell of its file. -/
def byteStart : { b : BatchStart [] ["batch", byteName] plainTree // ¬IsWhole b.options.source.text } :=
  ⟨(batchStart? [] ["batch", byteName] plainTree).get (by decide +kernel), by decide +kernel⟩

/-- A run that asks for a language that is not known. -/
def strangeWords : List Text :=
  ["batch", "d.yaml", "-l", "cobol"]

/-- Its requests load, and the language is refused. -/
def strangeStart : { b : BatchStart [] strangeWords plainTree // IsWhole b.options.source.text ∧
    b.loadRequests.toOption.isSome ∧
    (errorOf? (findGrammars b.languages)).map (fun r => r.report.exitCode) = some 2 } :=
  ⟨(batchStart? [] strangeWords plainTree).get (by decide +kernel), by decide +kernel⟩

/-- The same files, where the settings say that snippets are checked. -/
def checkedTree : FileTree :=
  plainTree.put ["c.yaml"] (.file "check: true\n".toUTF8)

/-- A run that goes by the settings. -/
def settledWords : List Text :=
  ["--config", "c.yaml", "batch", "d.yaml"]

/-- Entries say that snippets are checked, and nothing else. -/
def saysOnlyChecked : List (Value × Value) → Bool
  | [(.text key, .bool true)] => key = "check"
  | _ => false

theorem eq_of_saysOnlyChecked {entries : List (Value × Value)} (h : saysOnlyChecked entries = true) :
    entries = Value.insertEntry (.text "check") (.bool true) [] := by
  rw [saysOnlyChecked.eq_def] at h
  split at h
  · rw [of_decide_eq_true h]
    rfl
  · cases h

/-- The run with either settings: the requests are the same. -/
def settledStart : { b : BatchStart [] settledWords plainTree //
    (b.settingsEntries plainTree).toOption.any List.isEmpty = true ∧
    (b.settingsEntries checkedTree).toOption.any saysOnlyChecked = true ∧ b.loadRequests.toOption.isSome ∧
    ((loadRequests b.options.source : StateM FileTree _) checkedTree).1.toOption =
      b.loadRequests.toOption } :=
  ⟨(batchStart? [] settledWords plainTree).get (by decide +kernel), by decide +kernel⟩

theorem settledStart_edited :
    settledStart.val.Edited (· = [Text.ofString "c.yaml"]) checkedTree := by
  rcases settledStart with ⟨b, hbefore, hafter, hloaded, hsame⟩
  rcases (Option.any_eq_true _ _).mp hbefore with ⟨entries, hentries, hempty⟩
  rcases (Option.any_eq_true _ _).mp hafter with ⟨entries', hentries', hsays⟩
  rcases Option.isSome_iff_exists.mp hloaded with ⟨requests, hrequests⟩
  rw [hrequests] at hsame
  constructor
  case alike => exact alike_put rfl _
  case settings =>
    intro found hfound
    rw [eq_ok_of_toOption hentries] at hfound
    cases hfound
    refine ⟨entries', eq_ok_of_toOption hentries', ?_⟩
    rw [eq_of_saysOnlyChecked hsays, List.isEmpty_iff.mp hempty]
    exact saysChecked_insertEntry rfl
  case requests => exact (eq_ok_of_toOption hsame).trans (eq_ok_of_toOption hrequests).symm

/-- What the statements come to for these runs. In the first one, the first pair of the second request is
    written, and the second one finds its file. -/
theorem runOn_batch_mixed :
    (∃ fates, mixedCall.val.Completes fates ∧ fates.countP Fate.isFailed = 2 ∧
      (runOn [] mixedWords mixedTree).1.ending = .exit 1) ∧
    (∃ fates, byteCall.val.BreaksOff fates) ∧
    (runOn [] ["batch", byteName] plainTree).1 = .faulted .unencodable ∧
    (runOn [] strangeWords plainTree).1.exitCode = 2 ∧
    (runOn [] settledWords checkedTree).1.out = (runOn [] settledWords plainTree).1.out := by
  refine ⟨?mixed, ?broken, ?untold, ?refused, ?edited⟩
  case mixed =>
    rcases mixedCall with ⟨call, hitems, houtput, hstored, _⟩
    rcases call.fault_iff.mp hstored with ⟨hwrites, htold⟩
    rcases (runOn_batch [] mixedWords mixedTree).completes call hwrites htold with ⟨fates, hfates⟩
    refine ⟨fates, hfates, ?_, ?_⟩
    · rw [hfates.failed, countP_isFailed, hitems]
      rfl
    · rw [(hfates.closed houtput).2, any_isFailed, hitems]
      rfl
  case broken =>
    rcases byteCall with ⟨call, hlength, happend, hitems⟩
    rcases List.length_eq_one_iff.mp hlength with ⟨item, hitem⟩
    rw [hitem, List.forall_mem_singleton] at hitems
    rcases hitems with ⟨hmade, huntold, hstored⟩
    refine (runOn_batch [] byteWords plainTree).broken call ?_ ?_
    · rw [hitem]
      refine ⟨fun snippet hresult _ => ?_, fun _ _ => trivial⟩
      exact eq_ok_of_toOption (hstored snippet (by rw [hresult]; rfl))
    · rw [hitem, happend]
      rintro ⟨htold, _⟩
      cases hresult : item.result with
      | ok snippet => exact huntold (htold snippet hresult nofun)
      | error failure =>
          rw [isFailed_error hresult] at hmade
          cases hmade
  case untold => exact ((runOn_batch [] _ plainTree).untold byteStart.val byteStart.property).1
  case refused =>
    rcases strangeStart with ⟨b, htellable, hloaded, hcode⟩
    rcases Option.isSome_iff_exists.mp hloaded with ⟨requests, hrequests⟩
    rcases Option.map_eq_some_iff.mp hcode with ⟨r, hr, hcode⟩
    have hrefuses : Refuses [] strangeWords plainTree r :=
      .language b htellable (eq_ok_of_toOption hrequests) (errorOf?_eq_some.mp hr)
    exact ((runOn_batch [] strangeWords plainTree).refused r hrefuses).1.trans hcode
  case edited =>
    have hruns := runOn_batch [] settledWords plainTree
    exact (hruns.edited settledStart.val _ checkedTree settledStart_edited).2.1

/-- A document without requests, and settings that name a directory by two halves of a pair. -/
def halvesTree : FileTree :=
  filesTree [("c.yaml", "output_dir: \"\\ud83d\\ude00\"\n"), ("d.yaml", "requests: []\n")]

/-- The call that the run is: there is nothing to write, and the directory has no form in bytes. -/
def halvesCall : { call : BatchCall [] settledWords halvesTree //
    call.items.map BatchItem.isFailed = [] ∧ ¬IsWhole call.output.text ∧ call.stored.1.2 = none } :=
  ⟨(batchCall? [] settledWords halvesTree).get (by decide +kernel), by decide +kernel⟩

/-- No pair fails and nothing is to be written, and still the run ends in a fault and with the code 1. -/
theorem runOn_halves : WritesSucceed halvesCall.val.options.append halvesCall.val.output halvesTree
      halvesCall.val.items ∧
    halvesCall.val.items = [] ∧ (runOn [] settledWords halvesTree).1.ending = .fault .unencodable ∧
    (runOn [] settledWords halvesTree).1.exitCode = 1 := by
  rcases halvesCall with ⟨call, hitems, houtput, hstored⟩
  have hending := ((call.completes hstored).unclosed houtput).2.2.2
  refine ⟨(call.fault_iff.mp hstored).1, List.map_eq_nil_iff.mp hitems, hending, ?_⟩
  rw [Outcome.exitCode, hending]

end CallSnippets
