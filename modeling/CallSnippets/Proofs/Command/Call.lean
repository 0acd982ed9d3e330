import CallSnippets.Command.Run
import CallSnippets.Proofs.Files.Store
import CallSnippets.Proofs.Settings.Source
import CallSnippets.Proofs.Snippet.Pool

/-!
# Calls of the command for a whole file

A run reads its command line, its settings and its requests before it stores anything. All of these steps
only look at the tree of files. What is more, where such a step succeeds it would succeed in the same way
in any tree in which what stands is kept and files are as they were. For a command line it does not even
matter what is in the files.

A call of the command for a whole file is everything that has been read once nothing more can be refused.
It says of a run how it goes on: the items of the batch are stored, and the outcome is told from what
became of them. A run of the command that is no call leaves the tree as it is. This may also be a run that
gets as far as to load its file and cannot tell of it.

## Main definitions

* `Looks`: A step that only looks.
* `BatchStart`, `batchStart?`: A run that has its settings and its command line.
* `BatchCall`, `batchCall?`: A call of the command for a whole file.
* `Refuses`: Why a run of the command is no call.
* `runOn`: A run of the program on a tree.

## Theorems

* `looks_openLine`, `looks_loadSettings`, `looks_loadRequests`: The steps before anything is stored.
* `BatchCall.run_eq`: How a call goes on.
* `Refuses.run_eq`: How a run ends that is refused.
* `BatchStart.run_untold`: How a run ends that cannot tell of its file.
* `BatchWords.run_tree`: A run of the command that is no call leaves the tree as it is.
* `BatchCall.again`: A call is one in trees in which files are kept.
* `BatchCall.pathOf_eq`: The path of the file for an item.
-/

namespace CallSnippets

open FileTree

/-! ## Steps that only look -/

/-- A step only looks at the tree, and an answer of a certain kind is given again where all is kept that
    the step goes by. -/
structure Looks {α : Type} (kept : FileTree → FileTree → Prop) (certain : α → Prop)
    (x : StateM FileTree α) : Prop where
  /-- The tree is left as it is. -/
  tree : ∀ t, (x t).2 = t
  /-- A certain answer is given again. -/
  again : ∀ t t', kept t t' → certain (x t).1 → (x t').1 = (x t).1

/-- The step succeeded. -/
def Succeeded {ε α : Type} (x : Except ε α) : Prop :=
  ∃ a, x = .ok a

section

variable {α β : Type} {kept : FileTree → FileTree → Prop} {certain : α → Prop} {x : StateM FileTree α}

theorem looks_pure (kept : FileTree → FileTree → Prop) (certain : α → Prop) (a : α) :
    Looks kept certain (pure a) :=
  ⟨fun _ => rfl, fun _ _ _ _ => rfl⟩

/-- Two steps that only look, where the first answer is certain if the second one is. -/
theorem Looks.bind {certain' : β → Prop} {f : α → StateM FileTree β} (h : Looks kept certain x)
    (hf : ∀ a, Looks kept certain' (f a)) (hcertain : ∀ a t, certain' (f a t).1 → certain a) :
    Looks kept certain' (x >>= f) := by
  constructor
  case tree =>
    intro t
    rw [run_bind, (hf _).tree, h.tree]
  case again =>
    intro t t' hkept hsecond
    rw [run_bind, h.tree] at hsecond ⊢
    have hfirst : (x t').1 = (x t).1 := h.again t t' hkept (hcertain _ _ hsecond)
    rw [run_bind, h.tree, hfirst]
    exact (hf _).again t t' hkept hsecond

theorem succeeded_bind {ε : Type} {f : α → Except ε β} {y : Except ε α} (h : Succeeded (y >>= f)) :
    Succeeded y := by
  rcases h with ⟨b, hb⟩
  rcases bind_eq_ok.mp hb with ⟨a, ha, _⟩
  exact ⟨a, ha⟩

end

/-! ## Command lines -/

section

variable {t t' : FileTree} {parameter path value : Text} {kind : ValueKind}

/-- A path that is not objected to is not objected to where files are kept. -/
theorem pathObjection_grow {mustLead : Bool} (hkept : KindsKept t t')
    (h : pathObjection mustLead parameter path (t.look path) = none) :
    pathObjection mustLead parameter path (t'.look path) = none := by
  cases hlook : t.look path with
  | ok kind => rw [look_grow hkept hlook, pathObjection]
  | error e =>
      rw [hlook] at h
      cases hlook' : t'.look path with
      | ok kind => rfl
      | error e' =>
          -- What is wrong with the text of a path is wrong with it in either tree.
          rcases look_error hlook' with hfault | rfl | rfl | rfl
          · rw [look_fault hfault] at hlook
            cases hlook
            exact h
          all_goals
            cases mustLead with
            | false => rfl
            | true => cases e <;> cases h

theorem looks_objectionTo (kind : ValueKind) (parameter value : Text) :
    Looks KindsKept (· = none) (objectionTo kind parameter value) := by
  cases kind with
  | text => exact looks_pure _ _ _
  | count => exact looks_pure _ _ _
  | path =>
      refine ⟨fun _ => rfl, fun t t' hkept h => ?_⟩
      exact (pathObjection_grow hkept h).trans h.symm
  | presentPath =>
      refine ⟨fun _ => rfl, fun t t' hkept h => ?_⟩
      exact (pathObjection_grow hkept h).trans h.symm

/-- What is objected to first, or else what is objected to next. -/
theorem looks_orElse {x y : StateM FileTree (Option Objection)} (hx : Looks KindsKept (· = none) x)
    (hy : Looks KindsKept (· = none) y) :
    Looks KindsKept (· = none) (do
      match ← x with
      | some objection => return some objection
      | none => y) := by
  refine hx.bind (fun answer => ?_) fun answer t h => ?_
  · cases answer with
    | some objection => exact looks_pure _ _ _
    | none => exact hy
  · cases answer with
    | some objection => cases h
    | none => rfl

theorem looks_optionObjection (line : CommandLine) (rules : List OptionRule) :
    Looks KindsKept (· = none) (line.optionObjection rules) := by
  induction rules with
  | nil => exact looks_pure _ _ _
  | cons rule rest ih =>
      rw [CommandLine.optionObjection]
      split
      · exact looks_orElse (looks_objectionTo _ _ _) ih
      · exact ih

theorem looks_wordObjection (c : CommandRule) (words : List Text) :
    Looks KindsKept (· = none) (CommandLine.wordObjection c words) := by
  rw [CommandLine.wordObjection.eq_def]
  split
  · exact looks_pure _ _ _
  · exact looks_pure _ _ _
  · exact looks_orElse (looks_objectionTo _ _ _) (looks_pure _ _ _)

theorem looks_objection (c : CommandRule) (line : CommandLine) :
    Looks KindsKept (· = none) (line.objection c) := by
  rw [CommandLine.objection]
  refine looks_orElse (looks_optionObjection _ _) ?_
  split
  · exact looks_pure _ _ _
  · exact looks_wordObjection c line.words

theorem looks_openLine (c : CommandRule) (words : List Text) :
    Looks KindsKept Succeeded (openLine c words) := by
  rw [openLine]
  split
  · exact looks_pure _ _ _
  · split
    · exact looks_pure _ _ _
    · refine (looks_objection _ _).bind (fun answer => ?_) fun answer t h => ?_
      · cases answer <;> exact looks_pure _ _ _
      · cases answer with
        | none => rfl
        | some objection =>
            rcases h with ⟨line, hline⟩
            cases hline

end

/-! ## Documents -/

theorem documentOf_succeeded {path : Text} {x : Except FileError ByteArray}
    (h : Succeeded (documentOf path x)) : Succeeded x := by
  cases x with
  | ok bytes => exact ⟨bytes, rfl⟩
  | error e =>
      rcases h with ⟨v, hv⟩
      cases e <;> cases hv

theorem looks_readFile (path : Text) :
    Looks FilesKept Succeeded (FileSystem.readFile path : StateM FileTree _) := by
  refine ⟨fun _ => rfl, fun t t' hkept h => ?_⟩
  rcases h with ⟨bytes, hread⟩
  exact (read_grow hkept hread).trans hread.symm

theorem looks_readDocument (p : Path) : Looks FilesKept Succeeded (readDocument p : StateM FileTree _) :=
  (looks_readFile p.text).bind (fun _ => looks_pure _ _ _) fun _ _ h => documentOf_succeeded h

/-- A document is read, and then steps are taken that the tree has no part in. -/
theorem looks_document {ε α : Type} (p : Path) (f : DocumentFailure → ε) (g : Value → Except ε α) :
    Looks FilesKept Succeeded (do
      let document ← (readDocument p : StateM FileTree _)
      return document.mapError f >>= g) := by
  refine (looks_readDocument p).bind (fun _ => looks_pure _ _ _) fun document t h => ?_
  rcases succeeded_bind h with ⟨v, hv⟩
  exact ⟨v, mapError_eq_ok.mp hv⟩

theorem looks_loadSettings (env : Environment) (p : Option Path) :
    Looks FilesKept Succeeded (loadSettings env p : StateM FileTree _) := by
  have hentries : Looks FilesKept Succeeded (loadSettingsEntries p : StateM FileTree _) := by
    cases p with
    | none => exact looks_pure _ _ _
    | some p => exact looks_document p _ _
  exact hentries.bind (fun _ => looks_pure _ _ _) fun _ _ h => succeeded_bind h

theorem looks_loadRequests (p : Path) : Looks FilesKept Succeeded (loadRequests p : StateM FileTree _) :=
  Looks.bind (looks_document p _ _) (fun _ => looks_pure _ _ _) fun _ _ h => succeeded_bind h

/-! ## Calls -/

variable {env : Environment} {words : List Text} {t t' : FileTree}

/-- Words that call the command for a whole file: the options of the program are in order, and the name of
    the command follows. -/
structure BatchWords (words : List Text) (t : FileTree) where
  /-- What is said before the name of the command, and the words from there on. -/
  outer : CommandLine
  /-- The words behind the name. -/
  rest : List Text
  /-- Nothing is wrong with the options of the program. -/
  opened : ((openLine programRule words : StateM FileTree _) t).1 = .ok outer
  /-- The name of the command follows. -/
  named : outer.words = ("batch" : Text) :: rest

/-- The settings that a run of the command goes by, if they load. -/
def BatchWords.loadSettings (b : BatchWords words t) (env : Environment) : Except Trouble Settings :=
  ((CallSnippets.loadSettings env ((b.outer.value? .config).map Path.ofText) : StateM FileTree _) t).1

/-- The entries of the file of settings that the words name, read from a tree. -/
def BatchWords.settingsEntries (b : BatchWords words t) (t' : FileTree) :
    Except Trouble (List (Value × Value)) :=
  ((loadSettingsEntries ((b.outer.value? .config).map Path.ofText) : StateM FileTree _) t').1

theorem BatchWords.loadSettings_eq (b : BatchWords words t) (env : Environment) :
    b.loadSettings env = b.settingsEntries t >>= settingsOf env := rfl

/-- A run of the command that has its settings and its command line. -/
structure BatchStart (env : Environment) (words : List Text) (t : FileTree) extends
    BatchWords words t where
  /-- The settings. -/
  settings : Settings
  /-- What the words behind the name say. -/
  line : CommandLine
  /-- The settings load. -/
  settled : toBatchWords.loadSettings env = .ok settings
  /-- Nothing is wrong with the words behind the name. -/
  accepted : ((openLine batchRule rest : StateM FileTree _) t).1 = .ok line

namespace BatchStart

/-- What the command line says to the command. -/
def options (b : BatchStart env words t) : BatchOptions :=
  .ofLine b.line

/-- The languages. -/
def languages (b : BatchStart env words t) : List Text :=
  b.options.languagesOr b.settings

/-- The directory to write below. -/
def output (b : BatchStart env words t) : Path :=
  b.options.outputOr b.settings

/-- The snippets are checked. -/
def isChecked (b : BatchStart env words t) : Bool :=
  b.options.check || b.settings.check

/-- The requests, if they load. -/
def loadRequests (b : BatchStart env words t) : Except Trouble (List (Text × Request)) :=
  ((CallSnippets.loadRequests b.options.source : StateM FileTree _) t).1

end BatchStart

/-- A run of the command in which everything has been read and nothing was refused. -/
structure BatchCall (env : Environment) (words : List Text) (t : FileTree) extends
    BatchStart env words t where
  /-- The requests. -/
  requests : List (Text × Request)
  /-- The grammars of the languages. -/
  grammars : List Grammar
  /-- The file of requests can be told of. -/
  tellable : IsWhole toBatchStart.options.source.text
  /-- The requests load. -/
  loaded : toBatchStart.loadRequests = .ok requests
  /-- The languages are known. -/
  known : findGrammars toBatchStart.languages = .ok grammars

/-- A run of the command, if its settings load and nothing is wrong with its command line. -/
def batchStart? (env : Environment) (words : List Text) (t : FileTree) :
    Option (BatchStart env words t) :=
  match hopened : ((openLine programRule words : StateM FileTree _) t).1 with
  | .error _ => none
  | .ok outer =>
    if hnamed : outer.words = ("batch" : Text) :: outer.words.tail then
      let b : BatchWords words t := ⟨outer, outer.words.tail, hopened, hnamed⟩
      match hsettled : b.loadSettings env with
      | .error _ => none
      | .ok settings =>
        match haccepted : ((openLine batchRule b.rest : StateM FileTree _) t).1 with
        | .error _ => none
        | .ok line => some ⟨b, settings, line, hsettled, haccepted⟩
    else none

/-- The call that such a run is, if it is one. -/
def BatchStart.call? (b : BatchStart env words t) : Option (BatchCall env words t) :=
  if htellable : IsWhole b.options.source.text then
    match hloaded : b.loadRequests with
    | .error _ => none
    | .ok requests =>
      match hknown : findGrammars b.languages with
      | .error _ => none
      | .ok grammars => some ⟨b, requests, grammars, htellable, hloaded, hknown⟩
  else none

/-- The call that a run of the command is, if it is one. -/
def batchCall? (env : Environment) (words : List Text) (t : FileTree) :
    Option (BatchCall env words t) :=
  (batchStart? env words t).bind BatchStart.call?

namespace BatchCall

/-- The items of the batch. -/
def items (call : BatchCall env words t) : List BatchItem :=
  batchItems call.requests call.grammars

/-- The path of the file for an item. -/
def pathOf (call : BatchCall env words t) (item : BatchItem) : Path :=
  call.output.join item.fileName

/-- What is stored, and the tree that is left. -/
def stored (call : BatchCall env words t) : (List Fate × Option Fault) × FileTree :=
  (storeItems call.options.append call.output call.items : StateM FileTree _) t

/-- The opening lines: the file that is loaded, how many requests it holds, and the languages. -/
def opening (call : BatchCall env words t) : Text :=
  told ["Loading " ++ call.options.source.text ++ "..."] ++
    told ["Found " ++ natText call.requests.length ++ " requests, generating for: " ++
      Text.join ", " call.languages]

/-- The remarks on the making of the snippets. -/
def remarks (call : BatchCall env words t) : Text :=
  remarked (call.outer.has .verbose) (batchRemarks call.requests call.grammars)

end BatchCall

/-- Why a run of the command is refused. -/
inductive Refuses (env : Environment) (words : List Text) (t : FileTree) : Refusal → Prop where
  /-- The settings cannot be loaded. -/
  | settings {r : Refusal} (b : BatchWords words t) (h : b.loadSettings env = .error (.refusal r)) :
      Refuses env words t r
  /-- The requests cannot be loaded. -/
  | requests {r : Refusal} (b : BatchStart env words t) (htellable : IsWhole b.options.source.text)
      (h : b.loadRequests = .error (.refusal r)) : Refuses env words t r
  /-- A language is not known. -/
  | language {r : Refusal} {requests : List (Text × Request)} (b : BatchStart env words t)
      (htellable : IsWhole b.options.source.text) (hloaded : b.loadRequests = .ok requests)
      (h : findGrammars b.languages = .error r) :
      Refuses env words t r

/-! ## How runs go on -/

/-- A run of the program on a tree of files: its outcome, and the tree that is left. -/
def runOn (env : Environment) (words : List Text) (t : FileTree) : Outcome × FileTree :=
  (runProgram env words : StateM FileTree _) t

theorem Looks.run {α : Type} {kept : FileTree → FileTree → Prop} {certain : α → Prop}
    {x : StateM FileTree α} (h : Looks kept certain x) (t : FileTree) : x t = ((x t).1, t) :=
  Prod.ext rfl (h.tree t)

/-- Words that call some command are no empty line. -/
theorem ne_nil_of_named {outer : CommandLine} {name : Text} {rest : List Text}
    (hopened : ((openLine programRule words : StateM FileTree _) t).1 = .ok outer)
    (hnamed : outer.words = name :: rest) : words.isEmpty = false := by
  cases words with
  | cons _ _ => rfl
  | nil =>
      have hempty : ((openLine programRule [] : StateM FileTree _) t).1 = .ok ⟨[], []⟩ := rfl
      have hsame : (Except.ok ⟨[], []⟩ : Except Outcome CommandLine) = .ok outer :=
        hempty.symm.trans hopened
      rw [← Except.ok.inj hsame] at hnamed
      cases hnamed

/-- A run of any command loads the settings first. -/
theorem runOn_named {outer : CommandLine} {name : Text} {rest : List Text} {command : Command}
    (hopened : ((openLine programRule words : StateM FileTree _) t).1 = .ok outer)
    (hnamed : outer.words = name :: rest) (hcommand : commands.lookup name = some command)
    (env : Environment) :
    runOn env words t =
      match ((loadSettings env ((outer.value? .config).map Path.ofText) : StateM FileTree _) t).1 with
      | .error trouble => (.troubled trouble, t)
      | .ok settings =>
        (runNamed settings (outer.has .verbose) command rest : StateM FileTree _) t := by
  rw [runOn, runProgram, ne_nil_of_named hopened hnamed, if_neg Bool.false_ne_true, run_bind,
    (looks_openLine _ _).run, hopened]
  change (runWords env outer : StateM FileTree _) t = _
  rw [runWords, hnamed]
  simp only [hcommand]
  rw [run_bind, (looks_loadSettings _ _).run]
  cases ((loadSettings env ((outer.value? .config).map Path.ofText) : StateM FileTree _) t).1 <;> rfl

/-- A run of any command then looks at its part of the command line. -/
theorem run_runNamed (settings : Settings) (verbose : Bool) (command : Command) (rest : List Text)
    (t : FileTree) :
    (runNamed settings verbose command rest : StateM FileTree _) t =
      match ((openLine command.rule rest : StateM FileTree _) t).1 with
      | .error outcome => (outcome, t)
      | .ok line => (runCommand settings verbose line command : StateM FileTree _) t := by
  rw [runNamed, run_bind, (looks_openLine _ _).run]
  cases ((openLine command.rule rest : StateM FileTree _) t).1 <;> rfl

theorem BatchWords.run_eq (b : BatchWords words t) (env : Environment) :
    runOn env words t =
      match b.loadSettings env with
      | .error trouble => (.troubled trouble, t)
      | .ok settings =>
        (runNamed settings (b.outer.has .verbose) .batch b.rest : StateM FileTree _) t :=
  runOn_named b.opened b.named (by decide) env

/-- The command for a whole file then tells of the file, and loads the requests in it. -/
theorem run_runBatch (settings : Settings) (verbose : Bool) {o : BatchOptions}
    (h : IsWhole o.source.text) (t : FileTree) :
    (runBatch settings verbose o : StateM FileTree _) t =
      match ((loadRequests o.source : StateM FileTree _) t).1 with
      | .error trouble =>
        (Outcome.after (told ["Loading " ++ o.source.text ++ "..."]) [] (.troubled trouble), t)
      | .ok requests =>
        let run := (makeBatch settings verbose o requests : StateM FileTree _) t
        (Outcome.after (told ["Loading " ++ o.source.text ++ "..."]) [] run.1, run.2) := by
  rw [runBatch, if_pos (isSome_toBytes?.mpr h), run_bind, (looks_loadRequests _).run]
  cases ((loadRequests o.source : StateM FileTree _) t).1 <;> rfl

/-- It does nothing else if it cannot tell of the file. -/
theorem run_runBatch_untold (settings : Settings) (verbose : Bool) {o : BatchOptions}
    (h : ¬IsWhole o.source.text) (t : FileTree) :
    (runBatch settings verbose o : StateM FileTree _) t = (.faulted .unencodable, t) := by
  rw [runBatch, if_neg fun hsome => h (isSome_toBytes?.mp hsome)]
  rfl

theorem BatchStart.run_eq (b : BatchStart env words t) :
    runOn env words t =
      (runBatch b.settings (b.outer.has .verbose) b.options : StateM FileTree _) t := by
  rw [b.toBatchWords.run_eq, b.settled]
  simp only
  rw [run_runNamed, Command.rule, b.accepted]
  rfl

/-- A run that cannot tell of its file ends there. -/
theorem BatchStart.run_untold (b : BatchStart env words t) (h : ¬IsWhole b.options.source.text) :
    runOn env words t = (.faulted .unencodable, t) := by
  rw [b.run_eq, run_runBatch_untold _ _ h]

/-- A call stores its items, and its outcome is told from what became of them. -/
theorem BatchCall.run_eq (call : BatchCall env words t) :
    runOn env words t =
      (Outcome.after call.opening call.remarks
        (batchOutcome call.isChecked call.output call.stored.1.1 call.stored.1.2), call.stored.2) := by
  have hloaded : ((CallSnippets.loadRequests call.options.source : StateM FileTree _) t).1 =
      .ok call.requests := call.loaded
  have hknown : findGrammars (call.options.languagesOr call.settings) = .ok call.grammars := call.known
  rw [call.toBatchStart.run_eq, run_runBatch _ _ call.tellable, hloaded]
  simp only
  rw [makeBatch, hknown]
  simp only
  rw [run_bind]
  simp only [run_pure, Outcome.after, BatchCall.opening, List.append_assoc, List.nil_append]
  rfl

/-- A run that is refused tells why, ends with the code of the refusal, and leaves the tree as it is. -/
theorem Refuses.run_eq {r : Refusal} (h : Refuses env words t r) :
    ∃ out, runOn env words t = (Outcome.after out [] (.refused r), t) := by
  cases h with
  | settings b h =>
      refine ⟨[], ?_⟩
      rw [b.run_eq env, h]
      rfl
  | requests b htellable h =>
      have hloaded : ((CallSnippets.loadRequests b.options.source : StateM FileTree _) t).1 =
          .error (.refusal r) := h
      exact ⟨_, by rw [b.run_eq, run_runBatch _ _ htellable, hloaded]; rfl⟩
  | language b htellable hloaded h =>
      have hloaded' : ((CallSnippets.loadRequests b.options.source : StateM FileTree _) t).1 =
          .ok _ := hloaded
      have hknown : findGrammars (b.options.languagesOr b.settings) = .error r := h
      refine ⟨told ["Loading " ++ b.options.source.text ++ "..."], ?_⟩
      rw [b.run_eq, run_runBatch _ _ htellable, hloaded']
      simp only
      rw [makeBatch, hknown]
      rfl

/-- A run of the command that is no call leaves the tree as it is. -/
theorem BatchWords.run_tree (b : BatchWords words t) (h : BatchCall env words t → False) :
    (runOn env words t).2 = t := by
  rw [b.run_eq env]
  cases hsettled : b.loadSettings env with
  | error trouble => rfl
  | ok settings =>
      simp only
      rw [run_runNamed, Command.rule]
      cases haccepted : ((openLine batchRule b.rest : StateM FileTree _) t).1 with
      | error outcome => rfl
      | ok line =>
          simp only [runCommand]
          by_cases htellable : IsWhole (BatchOptions.ofLine line).source.text
          · rw [run_runBatch _ _ htellable]
            cases hloaded : ((loadRequests (BatchOptions.ofLine line).source : StateM FileTree _) t).1 with
            | error trouble => rfl
            | ok requests =>
                simp only
                rw [makeBatch]
                cases hknown : findGrammars ((BatchOptions.ofLine line).languagesOr settings) with
                | error refusal => rfl
                | ok grammars =>
                    -- Everything was read and nothing refused, so this is a call after all.
                    exact (h ⟨⟨b, settings, line, hsettled, haccepted⟩, requests, grammars, htellable,
                      hloaded, hknown⟩).elim
          · rw [run_runBatch_untold _ _ htellable]

/-- A call is one in any tree in which what stands is kept and files are as they were. -/
def BatchCall.again (call : BatchCall env words t) (hkept : FilesKept t t') :
    BatchCall env words t' where
  outer := call.outer
  rest := call.rest
  opened := ((looks_openLine _ _).again t t' hkept.kinds ⟨_, call.opened⟩).trans call.opened
  named := call.named
  settings := call.settings
  line := call.line
  settled := ((looks_loadSettings _ _).again t t' hkept ⟨_, call.settled⟩).trans call.settled
  accepted := ((looks_openLine _ _).again t t' hkept.kinds ⟨_, call.accepted⟩).trans call.accepted
  requests := call.requests
  grammars := call.grammars
  tellable := call.tellable
  loaded := ((looks_loadRequests _).again t t' hkept ⟨_, call.loaded⟩).trans call.loaded
  known := call.known

/-! ## Items and their paths -/

/-- There is one item for each pair, in the order of the pairs. -/
theorem BatchCall.forall₂_items (call : BatchCall env words t) :
    List.Forall₂ IsItem (pairs call.requests call.languages) call.items :=
  forall₂_batchItems call.known

theorem length_pairs (requests : List (Text × Request)) (languages : List Text) :
    (pairs requests languages).length = requests.length * languages.length := by
  simp only [pairs, List.length_flatMap, List.length_map, List.map_const', List.sum_replicate_nat]

/-- The directory to write below is a path made of names. -/
theorem BatchStart.isProper_output (b : BatchStart env words t) : b.output.IsProper := by
  have hsettings : b.settings.outputDirectory.IsProper := isProper_outputDirectory b.settled
  rw [BatchStart.output, BatchOptions.outputOr, BatchStart.options, BatchOptions.ofLine,
    CommandLine.output?]
  cases b.line.value? .output with
  | none => exact hsettings
  | some path => exact Path.isProper_ofText path

theorem findGrammar_javaScript {language : Text} {g : Grammar} (h : findGrammar language = .ok g) :
    g = javaScript := by
  rw [findGrammar] at h
  split at h
  · rename_i found hlookup
    cases h
    rw [grammars, List.lookup_cons] at hlookup
    split at hlookup
    · exact (Option.some.inj hlookup).symm
    · cases hlookup
  · cases h

/-- An item is that of a request in the only language that there is. -/
theorem BatchCall.mem_items (call : BatchCall env words t) {item : BatchItem} (h : item ∈ call.items) :
    ∃ r ∈ call.requests, item = BatchItem.of r.1 r.2 javaScript := by
  rcases List.mem_flatMap.mp h with ⟨r, hr, hgrammars⟩
  rcases List.mem_map.mp hgrammars with ⟨g, hg, rfl⟩
  have hall : ∀ g ∈ call.grammars, g = javaScript := by
    have hknown := findGrammars_eq_ok.mp call.known
    clear h hgrammars hg
    generalize call.grammars = gs at hknown
    generalize call.languages = ls at hknown
    induction hknown with
    | nil => exact fun g hg => absurd hg List.not_mem_nil
    | cons hlanguage _ ih => exact List.forall_mem_cons.mpr ⟨findGrammar_javaScript hlanguage, ih⟩
  exact ⟨r, hr, by rw [hall g hg]⟩

theorem lower_javaScript : Text.lower javaScript.name = Text.ofString "javascript" := by rfl

/-- The path of the file for an item: below the directory to write to there is one for the language, and
    the name of the item leads on from there. -/
theorem BatchCall.pathOf_eq (call : BatchCall env words t) {item : BatchItem} (h : item ∈ call.items) :
    call.pathOf item = ⟨call.output.start, call.output.names ++ Text.lower item.language ::
      (Path.ofText (item.name ++ "." ++ item.fileExtension)).names⟩ := by
  have hstroke : CodePoint.char '/' ∉ Text.ofString "javascript" := by decide
  rcases call.mem_items h with ⟨r, _, rfl⟩
  have hlower : Text.lower (BatchItem.of r.1 r.2 javaScript).language = Text.ofString "javascript" :=
    lower_javaScript
  have hname : (BatchItem.of r.1 r.2 javaScript).fileName = Text.ofString "javascript" ++
      CodePoint.char '/' :: ((BatchItem.of r.1 r.2 javaScript).name ++ Text.ofString "." ++
        (BatchItem.of r.1 r.2 javaScript).fileExtension) := by
    rw [BatchItem.fileName, hlower]
    simp only [List.append_assoc]
    rfl
  rw [BatchCall.pathOf, hname, hlower]
  change (⟨_, call.output.names ++ (Text.splitOn '/' (Text.ofString "javascript" ++
    CodePoint.char '/' :: _)).filter Path.leads⟩ : Path) = _
  rw [splitOn_append hstroke]
  rfl

end CallSnippets
