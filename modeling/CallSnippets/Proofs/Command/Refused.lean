import CallSnippets.Proofs.Command.Single
import CallSnippets.Proofs.Files.Document
import CallSnippets.Proofs.Request.Source

/-!
# Runs with a file that is wrong

A file of requests may be wrong in many ways, and most of them are answered: loading it is refused, and a
run ends with the code for that and leaves the tree as it is. But some ways to be wrong end in a fault
instead. The document may not come about at all, because the bytes are not UTF-8 or because it names a day
that no calendar has; and an entry may hold what cannot be written, in its body or in its id.

## Main definitions

* `FailsByData`: A step fails with a fault of a value or of a type, or not at all.
* `SourceFaults`: Why loading a file of requests ends in a fault.
* `RunLoads`: A run loads a file of requests.
* `SourceAnswers`: Everything that is known of how a file that is wrong is answered.

## Theorems

* `failsByData_printWithin`, `failsByData_formWithin`: What writing and showing a value fail with.
* `loadRequests_eq_fault`: Loading a file goes by the reasons.
* `RunLoads.run_trouble`: How a run ends that cannot load its file.
* `loadRequests_answers`: How files that are wrong are answered.
* `loadRequests_undecodable`: Files that are not.
-/

namespace CallSnippets

open FileTree

variable {t : FileTree} {p : Path} {path : Text} {names : List Text} {number : Nat} {v : Value} {f : Fault}
  {r : Refusal} {e : Trouble} {env : Environment} {words : List Text}

/-! ## What cannot be written -/

/-- A fault of a value or of a type. -/
def Fault.IsOfData (f : Fault) : Prop :=
  f.kind = .badValue ∨ f.kind = .badType

/-- A step fails with such a fault or not at all. -/
def FailsByData {α : Type} (x : Except Fault α) : Prop :=
  ∀ f, x = .error f → f.IsOfData

section

variable {α β : Type}

theorem failsByData_ok (a : α) : FailsByData (.ok a) := nofun

theorem failsByData_error (h : f.IsOfData) : FailsByData (.error f : Except Fault α) := by
  intro f' hf
  cases hf
  exact h

theorem FailsByData.bind {x : Except Fault α} {g : α → Except Fault β} (hx : FailsByData x)
    (hg : ∀ a, FailsByData (g a)) : FailsByData (x >>= g) := by
  intro f hf
  rcases bind_eq_error.mp hf with herror | ⟨a, _, herror⟩
  · exact hx f herror
  · exact hg a f herror

end

theorem failsByData_intTextOrFault (n : Int) : FailsByData (intTextOrFault n) := by
  rw [intTextOrFault]
  split
  · exact failsByData_ok _
  · exact failsByData_error (.inl rfl)

theorem failsByData_keyText (v : Value) : FailsByData (Json.keyText v) := by
  rw [Json.keyText.eq_def]
  split
  case h_5 => exact failsByData_intTextOrFault _
  case h_6 => exact failsByData_error (.inr rfl)
  all_goals exact failsByData_ok _

mutual

theorem failsByData_printWithin (around : List Nat) (depth : Nat) : (v : Value) →
    FailsByData (Json.printWithin around depth v)
  | .int n => by
      rw [Json.printWithin]
      exact failsByData_intTextOrFault n
  | .list items => by
      rw [Json.printWithin]
      exact (failsByData_printAll around (depth + 1) items).bind fun _ => failsByData_ok _
  | .tuple items => by
      rw [Json.printWithin]
      exact (failsByData_printAll around (depth + 1) items).bind fun _ => failsByData_ok _
  | .map entries => by
      rw [Json.printWithin]
      exact (failsByData_printEntries around (depth + 1) entries).bind fun _ => failsByData_ok _
  | .knot label body => by
      rw [Json.printWithin]
      split
      · exact failsByData_error (.inl rfl)
      · exact failsByData_printWithin (label :: around) depth body
  | .loop _ => failsByData_error (.inl rfl)
  | .bytes _ | .date _ | .moment _ | .set _ => failsByData_error (.inr rfl)
  | .null | .bool _ | .float _ | .text _ => failsByData_ok _

theorem failsByData_printAll (around : List Nat) (depth : Nat) : (items : List Value) →
    FailsByData (Json.printAll around depth items)
  | [] => failsByData_ok _
  | v :: rest => by
      rw [Json.printAll]
      refine (failsByData_printWithin around depth v).bind fun _ => ?_
      exact (failsByData_printAll around depth rest).bind fun _ => failsByData_ok _

theorem failsByData_printEntries (around : List Nat) (depth : Nat) :
    (entries : List (Value × Value)) → FailsByData (Json.printEntries around depth entries)
  | [] => failsByData_ok _
  | (k, v) :: rest => by
      rw [Json.printEntries]
      refine (failsByData_keyText k).bind fun _ => ?_
      refine (failsByData_printWithin around depth v).bind fun _ => ?_
      exact (failsByData_printEntries around depth rest).bind fun _ => failsByData_ok _

end

mutual

theorem failsByData_formWithin (around : List (Nat × Bool)) : (v : Value) →
    FailsByData (Value.formWithin around v)
  | .int n => by
      rw [Value.formWithin]
      exact failsByData_intTextOrFault n
  | .list items => by
      rw [Value.formWithin]
      exact (failsByData_formAll around items).bind fun _ => failsByData_ok _
  | .tuple items => by
      rw [Value.formWithin]
      exact (failsByData_formAll around items).bind fun _ => failsByData_ok _
  | .map entries => by
      rw [Value.formWithin]
      exact (failsByData_formEntries around entries).bind fun _ => failsByData_ok _
  | .set members => by
      rw [Value.formWithin]
      exact (failsByData_formAll around members).bind fun _ => failsByData_ok _
  | .knot label body => by
      rw [Value.formWithin]
      split
      · exact failsByData_ok _
      · exact failsByData_formWithin _ body
  | .null | .bool _ | .float _ | .text _ | .bytes _ | .date _ | .moment _ | .loop _ => failsByData_ok _

theorem failsByData_formAll (around : List (Nat × Bool)) : (items : List Value) →
    FailsByData (Value.formAll around items)
  | [] => failsByData_ok _
  | v :: rest => by
      rw [Value.formAll]
      refine (failsByData_formWithin around v).bind fun _ => ?_
      exact (failsByData_formAll around rest).bind fun _ => failsByData_ok _

theorem failsByData_formEntries (around : List (Nat × Bool)) :
    (entries : List (Value × Value)) → FailsByData (Value.formEntries around entries)
  | [] => failsByData_ok _
  | (k, v) :: rest => by
      rw [Value.formEntries]
      refine (failsByData_formWithin around k).bind fun _ => ?_
      refine (failsByData_formWithin around v).bind fun _ => ?_
      exact (failsByData_formEntries around rest).bind fun _ => failsByData_ok _

end

theorem failsByData_display (v : Value) : FailsByData v.display := by
  rw [Value.display.eq_def]
  split
  case h_4 => exact failsByData_formWithin [] v
  all_goals exact failsByData_ok _

/-- Only a body with parts can be in the way of the fields of an entry. -/
theorem withBodyText_eq_error {entries : List (Value × Value)} :
    withBodyText entries = .error f ↔ ∃ body, Value.lookup "request_body" entries = some body ∧
      IsStructured body ∧ Json.print body = .error f := by
  rw [withBodyText]
  cases hlookup : Value.lookup "request_body" entries with
  | none => simp only [reduceCtorEq, false_and, exists_false]
  | some body =>
      simp only [Option.some.injEq, exists_eq_left']
      by_cases hparts : IsStructured body
      · rw [bodyValue_of_structured hparts]
        cases Json.print body with
        | ok text => simp only [map_ok, reduceCtorEq, and_false]
        | error f' => simp only [map_error, Except.error.injEq, hparts, true_and]
      · simp only [bodyValue_of_not_structured hparts, map_ok, reduceCtorEq, hparts, false_and]

/-- An entry that ends in a fault does so for its data. -/
theorem Stops.isOfData (h : Stops path names number v (.fault f)) : f.IsOfData := by
  cases h with
  | unwritten hmap hbody =>
      rcases withBodyText_eq_error.mp hbody with ⟨body, _, _, hprint⟩
      exact failsByData_printWithin [] 0 body f hprint
  | unshown hmap hfields hread hid hcounts hshown => exact failsByData_display _ f hshown

/-! ## Files -/

/-- Why loading the requests of a file ends in a fault. -/
inductive SourceFaults (t : FileTree) (p : Path) (f : Fault) : Prop where
  /-- The file does not come to a document, for a reason that nothing answers for. -/
  | document (h : DocumentAt t p (.error (.fault f)))
  /-- Its first entry that is not taken cannot be written. -/
  | entry {entries : List (Value × Value)} {before after : List Value} {v : Value}
      {requests : List (Text × Request)}
      (hentries : ((loadEntries p : StateM FileTree _) t).1 = .ok entries)
      (hlists : Lists entries (before ++ v :: after)) (htaken : List.Forall₂ Taken before requests)
      (hdistinct : (requests.map Prod.fst).Nodup)
      (hstops : Stops p.text (requests.map Prod.fst) (before.length + 1) v (.fault f))

theorem sourceTrouble_eq_fault {failure : DocumentFailure} :
    sourceTrouble path failure = .fault f ↔ failure = .fault f := by
  cases failure with
  | fault f' => simp only [sourceTrouble, Trouble.fault.injEq, DocumentFailure.fault.injEq]
  | unreadable e => simp only [sourceTrouble, reduceCtorEq]
  | malformed => simp only [sourceTrouble, reduceCtorEq]

theorem sourceEntries_ne_fault : sourceEntries path v ≠ .error (.fault f) := by
  rw [sourceEntries]
  cases v.entries? with
  | some entries => exact fun h => (by cases h)
  | none => exact fun h => (by cases h)

theorem requestEntries_ne_fault {entries : List (Value × Value)} :
    (requestEntries path entries).mapError Trouble.refusal ≠ .error (.fault f) := by
  cases requestEntries path entries with
  | ok values => exact fun h => (by cases h)
  | error r => exact fun h => (by cases h)

/-- The entries of a file end in a fault if its document does. -/
theorem loadEntries_eq_fault :
    ((loadEntries p : StateM FileTree _) t).1 = .error (.fault f) ↔
      DocumentAt t p (.error (.fault f)) := by
  rw [← readDocument_iff]
  change ((((readDocument p : StateM FileTree _) t).1.mapError (sourceTrouble p.text)) >>=
    sourceEntries p.text) = _ ↔ _
  cases ((readDocument p : StateM FileTree _) t).1 with
  | ok v => simp only [mapError_ok, ok_bind, sourceEntries_ne_fault, reduceCtorEq]
  | error failure =>
      simp only [mapError_error, error_bind, Except.error.injEq, sourceTrouble_eq_fault]

/-- Loading a file ends in a fault exactly for one of the reasons. -/
theorem loadRequests_eq_fault :
    ((loadRequests p : StateM FileTree _) t).1 = .error (.fault f) ↔ SourceFaults t p f := by
  have hload : ((loadRequests p : StateM FileTree _) t).1 =
      (((loadEntries p : StateM FileTree _) t).1 >>= namedRequests p.text) := rfl
  rw [hload, bind_eq_error]
  constructor
  · rintro (hentries | ⟨entries, hentries, hnamed⟩)
    · exact .document (loadEntries_eq_fault.mp hentries)
    · rcases bind_eq_error.mp hnamed with hlisted | ⟨values, hvalues, hfrom⟩
      · exact absurd hlisted requestEntries_ne_fault
      · rcases namedRequestsFrom_nil_eq_error.mp hfrom with
          ⟨before, requests, v, after, rfl, htaken, hdistinct, hstops⟩
        have hlists := requestEntries_eq_ok.mp (mapError_eq_ok.mp hvalues)
        exact .entry hentries hlists htaken hdistinct hstops
  · rintro (hdocument | ⟨hentries, hlists, htaken, hdistinct, hstops⟩)
    · exact .inl (loadEntries_eq_fault.mpr hdocument)
    · refine .inr ⟨_, hentries, ?_⟩
      rw [namedRequests_of_lists hlists]
      exact namedRequestsFrom_nil_eq_error.mpr ⟨_, _, _, _, rfl, htaken, hdistinct, hstops⟩

/-! ## Runs -/

/-- A run of one of the commands gets as far as to load a file of requests. -/
inductive RunLoads (env : Environment) (words : List Text) (t : FileTree) : Path → Prop where
  /-- It is to make the snippets of the whole file, and can tell of the file. -/
  | batch (b : BatchStart env words t) (htellable : IsWhole b.options.source.text) :
      RunLoads env words t b.options.source
  /-- It is to make one snippet. -/
  | single (start : SingleStart words t) {settings : Settings}
      (h : start.loadSettings env = .ok settings) : RunLoads env words t start.options.source

/-- A run that cannot load its file tells why, and leaves the tree as it is. -/
theorem RunLoads.run_trouble (h : RunLoads env words t p)
    (hload : ((loadRequests p : StateM FileTree _) t).1 = .error e) :
    ∃ out, runOn env words t = (Outcome.after out [] (.troubled e), t) := by
  cases h with
  | batch b htellable =>
      refine ⟨told ["Loading " ++ b.options.source.text ++ "..."], ?_⟩
      rw [b.run_eq, run_runBatch _ _ htellable, hload]
  | single start hsettings =>
      have hcommand : commands.lookup (Text.ofString "gen-snippet") = some Command.single := by decide
      have hsettled : ((CallSnippets.loadSettings env ((start.outer.value? .config).map Path.ofText) :
          StateM FileTree _) t).1 = .ok _ := hsettings
      have hrequest : start.loadRequest = .error e := by
        rw [SingleStart.loadRequest, SingleStart.loadRequests, hload, error_bind]
      -- Nothing is told before the request is loaded, which is the first thing that this command does.
      refine ⟨[], ?_⟩
      rw [runOn_named start.opened start.named hcommand env, hsettled]
      simp only
      rw [run_runNamed, Command.rule, start.accepted]
      simp only [runCommand]
      change (runSingle _ _ start.options : StateM FileTree _) t = _
      rw [runSingle, run_bind, start.run_loadRequest, hrequest]
      rfl

/-- How a file of requests that is wrong is answered. -/
structure SourceAnswers (t : FileTree) (p : Path) : Prop where
  /-- If it is refused, it is refused as a file of requests. -/
  refused : ∀ r, ((loadRequests p : StateM FileTree _) t).1 = .error (.refusal r) → r.cls = .request
  /-- It ends in a fault exactly if the document does not come about or the first entry that is not taken
      cannot be written. -/
  faulted : ∀ f, ((loadRequests p : StateM FileTree _) t).1 = .error (.fault f) ↔ SourceFaults t p f
  /-- So a file with text is loaded or refused if no value in it is missing and all of its entries can be
      written. -/
  answered : ∀ bytes s, t.read p.text = .ok bytes → Text.ofBytes? bytes = some s →
    (∀ f, Yaml.load s ≠ .error (.fault f)) →
    (∀ entries values, ((loadEntries p : StateM FileTree _) t).1 = .ok entries →
      Lists entries values → ∀ v ∈ values, IsWritable v) →
      (∃ requests, ((loadRequests p : StateM FileTree _) t).1 = .ok requests) ∨
        ∃ r, ((loadRequests p : StateM FileTree _) t).1 = .error (.refusal r)
  /-- An entry that cannot be written ends in a fault of a value or of a type. -/
  ofData : ∀ names number v f, Stops p.text names number v (.fault f) → f.IsOfData
  /-- A run that loads a file that is refused ends with the code 2. -/
  runRefused : ∀ env words r, RunLoads env words t p →
    ((loadRequests p : StateM FileTree _) t).1 = .error (.refusal r) →
      (runOn env words t).1.ending = .exit 2 ∧ (runOn env words t).2 = t
  /-- A run that loads a file that ends in a fault ends in this fault and with the code 1. -/
  runFaulted : ∀ env words f, RunLoads env words t p → SourceFaults t p f →
    (runOn env words t).1.ending = .fault f ∧ (runOn env words t).1.exitCode = 1 ∧
      (runOn env words t).1.err = [] ∧ (runOn env words t).2 = t

/-- How files of requests that are wrong are answered. -/
theorem loadRequests_answers (t : FileTree) (p : Path) : SourceAnswers t p := by
  constructor
  case refused => exact fun r h => refusesAs_loadRequests p t r h
  case faulted => exact fun f => loadRequests_eq_fault
  case answered =>
    intro bytes s hread htext hload hwritable
    cases hresult : ((loadRequests p : StateM FileTree _) t).1 with
    | ok requests => exact .inl ⟨requests, rfl⟩
    | error e =>
        cases e with
        | refusal r => exact .inr ⟨r, rfl⟩
        | fault f =>
            rcases loadRequests_eq_fault.mp hresult with hdocument | ⟨hentries, hlists, _, _, hstops⟩
            · -- The document comes about, so this is not the reason.
              cases hdocument with
              | unasked hread' _ => cases hread.symm.trans hread'
              | undecodable hread' htext' =>
                  cases hread.symm.trans hread'
                  cases htext.symm.trans htext'
              | missing hread' htext' hload' =>
                  cases hread.symm.trans hread'
                  cases htext.symm.trans htext'
                  exact absurd hload' (hload f)
            · -- The entry that stops the list can be written, so it is refused.
              have hv := hwritable _ _ hentries hlists _ (List.mem_append_right _ (List.mem_cons_self ..))
              rcases hstops.refusal hv with ⟨r, hr, _⟩
              cases hr
  case ofData => exact fun names number v f h => h.isOfData
  case runRefused =>
    intro env words r hruns hload
    rcases hruns.run_trouble hload with ⟨out, hrun⟩
    have hcls : r.cls = .request := refusesAs_loadRequests p t r hload
    have hcode : r.report.exitCode = 2 := by
      change r.cls.exitCode = 2
      rw [hcls]
      rfl
    rw [hrun]
    exact ⟨congrArg Ending.exit hcode, rfl⟩
  case runFaulted =>
    intro env words f hruns hfaults
    rcases hruns.run_trouble (loadRequests_eq_fault.mpr hfaults) with ⟨out, hrun⟩
    rw [hrun]
    exact ⟨rfl, rfl, rfl, rfl⟩

/-- A file that lacks the path of its request. -/
def incompleteTree : FileTree :=
  filesTree [("d.yaml", "method: GET\n")]

/-- A file with a byte that is not UTF-8. -/
def undecodableTree : FileTree :=
  ⟨[([Text.ofString "d.yaml"], .file ⟨#[0xff]⟩)], []⟩

/-- A call that asks for the snippet of the incomplete request. Its entry can be written, and is not taken. -/
def incompleteStart : { start : SingleStart singleWords incompleteTree //
    (start.loadSettings []).toOption.isSome ∧ start.options.source = Path.ofText "d.yaml" ∧
    (incompleteTree.read "d.yaml").toOption = some "method: GET\n".toUTF8 ∧
    (Yaml.load "method: GET\n").toOption.isSome ∧ start.loadRequests.toOption = none ∧
    ∀ entries ∈ ((loadEntries (Path.ofText "d.yaml") : StateM FileTree _) incompleteTree).1.toOption,
      ∀ values ∈ (requestEntries "d.yaml" entries).toOption, ∀ v ∈ values, IsWritable v } :=
  ⟨(singleStart? singleWords incompleteTree).get (by decide +kernel), by decide +kernel⟩

/-- The same call with the file that is not UTF-8. -/
def undecodableStart : { start : SingleStart singleWords undecodableTree //
    (start.loadSettings []).toOption.isSome ∧ start.options.source = Path.ofText "d.yaml" ∧
    errorOf? start.loadRequests = some (.fault .undecodable) } :=
  ⟨(singleStart? singleWords undecodableTree).get (by decide +kernel), by decide +kernel⟩

/-- The first file is refused and a run with it ends with the code 2; the second one ends a run with the
    code 1. -/
theorem loadRequests_answers_incomplete :
    (runOn [] singleWords incompleteTree).1.ending = .exit 2 ∧
      (runOn [] singleWords incompleteTree).2 = incompleteTree ∧
      (runOn [] singleWords undecodableTree).1.ending = .fault .undecodable ∧
      (runOn [] singleWords undecodableTree).1.exitCode = 1 := by
  have hrefused : (runOn [] singleWords incompleteTree).1.ending = .exit 2 ∧
      (runOn [] singleWords incompleteTree).2 = incompleteTree := by
    rcases incompleteStart with ⟨start, hsettings, hsource, hread, hload, hnone, hwritable⟩
    rcases Option.isSome_iff_exists.mp hsettings with ⟨settings, hsettings⟩
    rcases Option.isSome_iff_exists.mp hload with ⟨document, hload⟩
    have hruns : RunLoads [] singleWords incompleteTree (Path.ofText "d.yaml") := by
      rw [← hsource]
      exact .single start (eq_ok_of_toOption hsettings)
    have hanswered := (loadRequests_answers incompleteTree (Path.ofText "d.yaml")).answered
      "method: GET\n".toUTF8 "method: GET\n" (eq_ok_of_toOption hread) (by decide)
      (fun f hfault => by rw [eq_ok_of_toOption hload] at hfault; cases hfault)
      fun entries values hentries hlists => hwritable entries (by rw [hentries]; rfl) values
        (by rw [requestEntries_eq_ok.mpr hlists]; rfl)
    rw [SingleStart.loadRequests, hsource] at hnone
    rcases hanswered with ⟨requests, hrequests⟩ | ⟨r, hr⟩
    · rw [hrequests] at hnone
      cases hnone
    · exact (loadRequests_answers incompleteTree _).runRefused [] singleWords r hruns hr
  have hfaulted : (runOn [] singleWords undecodableTree).1.ending = .fault .undecodable ∧
      (runOn [] singleWords undecodableTree).1.exitCode = 1 := by
    rcases undecodableStart with ⟨start, hsettings, hsource, hfault⟩
    rcases Option.isSome_iff_exists.mp hsettings with ⟨settings, hsettings⟩
    have hanswers := loadRequests_answers undecodableTree start.options.source
    have hruns : RunLoads [] singleWords undecodableTree start.options.source :=
      .single start (eq_ok_of_toOption hsettings)
    rcases hanswers.runFaulted [] singleWords .undecodable hruns
      ((hanswers.faulted .undecodable).mp (errorOf?_eq_some.mp hfault)) with ⟨hending, hcode, _⟩
    exact ⟨hending, hcode⟩
  exact ⟨hrefused.1, hrefused.2, hfaulted⟩

/-! ## Files that are not answered -/

/-- A file with a day in a body. -/
def datedTree : FileTree :=
  filesTree [("d.yaml", "method: POST\npath: /me\nrequest_body: \x7bon: 2024-01-01\x7d\n")]

/-- A file with a day that no calendar has. -/
def impossibleTree : FileTree :=
  filesTree [("d.yaml", "method: GET\npath: 2024-02-30\n")]

/-- Loading a file with undecodable bytes, one with a day in a body and one with a day that does not exist,
    and the outcome of a run with the first one. -/
def unanswered : { outcome : Outcome // (runOn [] ["batch", "d.yaml"] undecodableTree).1 = outcome ∧
    outcome.exitCode = 1 ∧ (undecodableTree.look "d.yaml").toOption = some .file ∧
    errorOf? ((loadRequests (Path.ofText "d.yaml") : StateM FileTree _) undecodableTree).1 =
      some (.fault .undecodable) ∧
    errorOf? ((loadRequests (Path.ofText "d.yaml") : StateM FileTree _) datedTree).1 =
      some (.fault (.type "Object of type date is not JSON serializable")) ∧
    errorOf? ((loadRequests (Path.ofText "d.yaml") : StateM FileTree _) impossibleTree).1 =
      some (.fault (.value "day is out of range for month")) } :=
  ⟨(runOn [] ["batch", "d.yaml"] undecodableTree).1, rfl, by decide +kernel⟩

/-- A file that exists is neither loaded nor refused, and a run with it does not end with the code 2. Nor are
    the other two loaded or refused. -/
theorem loadRequests_undecodable : undecodableTree.look "d.yaml" = .ok .file ∧
    ((loadRequests (Path.ofText "d.yaml") : StateM FileTree _) undecodableTree).1 =
      .error (.fault .undecodable) ∧
    (runOn [] ["batch", "d.yaml"] undecodableTree).1.exitCode = 1 ∧
    ((loadRequests (Path.ofText "d.yaml") : StateM FileTree _) datedTree).1 =
      .error (.fault (.type "Object of type date is not JSON serializable")) ∧
    ((loadRequests (Path.ofText "d.yaml") : StateM FileTree _) impossibleTree).1 =
      .error (.fault (.value "day is out of range for month")) := by
  rcases unanswered with ⟨outcome, rfl, hcode, hlook, hundecodable, hdated, himpossible⟩
  exact ⟨eq_ok_of_toOption hlook, errorOf?_eq_some.mp hundecodable, hcode, errorOf?_eq_some.mp hdated,
    errorOf?_eq_some.mp himpossible⟩

end CallSnippets
