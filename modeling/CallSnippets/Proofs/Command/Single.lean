import CallSnippets.Proofs.Command.Batch
import CallSnippets.Proofs.Refusal.Classes

/-!
# Runs of the command for one snippet

Such a run has four steps that may fail before anything is written: the settings are loaded, the file is
read and must hold one request, the language is looked up, and the snippet is made. All of them together
either make a snippet or end in trouble, and this can be said without looking at how the run goes on.
What is then left of the run is to hand out the snippet, or to tell the trouble in a tree that is as it
was. So each statement about a run is one about these steps and one about the last one.

The last step may fail by itself. Even where files can be written, a snippet cannot be if it holds the
half of a pair, which has no form in bytes; a path in a document may be written with the escapes of such
halves, and nothing on the way to the snippet minds them. The file is opened before this is found out,
so it is left empty. The name of the file to write is another matter: it may have halves in it that stand
for bytes. Then the snippet is written, and only that it is saved cannot be told.

## Main definitions

* `SingleStart`: Words that call the command for one snippet.
* `SingleStart.make`: The snippet of a run, or the trouble that it ends in.
* `SingleStart.Makes`, `SingleStart.Refuses`: When there is a snippet, and why there is none.
* `FileTree.CanStore`: A file can be written at a path.
* `RunWrites`: A run writes a snippet.
* `SingleRuns`: Everything that is known of runs of the command.

## Theorems

* `SingleStart.make_eq_ok`, `SingleStart.make_eq_refusal`: What the steps come to.
* `SingleStart.run_eq`: What a run comes to.
* `storeText_whole`, `storeText_halves`: What is written of a text that has bytes, and of one that has not.
* `exists_start`: What the words of a plain call say.
* `runOn_single`: Runs of the command.
* `runOn_single_plain`: Runs that write their snippets, one of which cannot be told of.
* `runOn_single_split`: A run whose snippet cannot be written.
-/

namespace CallSnippets

open FileTree

variable {t t' : FileTree} {p : Path} {s : Text} {env : Environment} {words : List Text}

/-- Words that call the command for one snippet, and with which nothing is wrong. -/
structure SingleStart (words : List Text) (t : FileTree) where
  /-- What is said before the name of the command, and the words from there on. -/
  outer : CommandLine
  /-- The words behind the name. -/
  rest : List Text
  /-- What these words say. -/
  line : CommandLine
  /-- Nothing is wrong with the options of the program. -/
  opened : ((openLine programRule words : StateM FileTree _) t).1 = .ok outer
  /-- The name of the command follows. -/
  named : outer.words = ("gen-snippet" : Text) :: rest
  /-- Nothing is wrong with the words behind the name. -/
  accepted : ((openLine singleRule rest : StateM FileTree _) t).1 = .ok line

/-- The call that words are, if they are one. -/
def singleStart? (words : List Text) (t : FileTree) : Option (SingleStart words t) :=
  match hopened : ((openLine programRule words : StateM FileTree _) t).1 with
  | .error _ => none
  | .ok outer =>
    if hnamed : outer.words = ("gen-snippet" : Text) :: outer.words.tail then
      match haccepted : ((openLine singleRule outer.words.tail : StateM FileTree _) t).1 with
      | .error _ => none
      | .ok line => some ⟨outer, outer.words.tail, line, hopened, hnamed, haccepted⟩
    else none

namespace SingleStart

/-- What the command line says to the command. -/
def options (start : SingleStart words t) : SingleOptions :=
  .ofLine start.line

/-- The settings that the run goes by, if they load. -/
def loadSettings (start : SingleStart words t) (env : Environment) : Except Trouble Settings :=
  ((CallSnippets.loadSettings env ((start.outer.value? .config).map Path.ofText) :
    StateM FileTree _) t).1

/-- The requests in the file, if they load. -/
def loadRequests (start : SingleStart words t) : Except Trouble (List (Text × Request)) :=
  ((CallSnippets.loadRequests start.options.source : StateM FileTree _) t).1

/-- The only request in the file, if it holds no other. -/
def loadRequest (start : SingleStart words t) : Except Trouble Request :=
  start.loadRequests >>= onlyRequest start.options.source.text

/-- The snippet that the run makes in a language, or the trouble that it ends in instead. -/
def make (start : SingleStart words t) (env : Environment) (language : Text) : Except Trouble Text := do
  let _ ← start.loadSettings env
  let r ← start.loadRequest
  let g ← (findGrammar language).mapError .refusal
  (generate g r).unwrap.mapError fun failure => .refusal (.snippet failure)

/-- The settings load, the file holds one request, the language is known, and the snippet of the request in
    it is made. -/
def Makes (start : SingleStart words t) (env : Environment) (language snippet : Text) : Prop :=
  ∃ settings r g, start.loadSettings env = .ok settings ∧ start.loadRequests = .ok [r] ∧
    findGrammar language = .ok g ∧ (generate g r.2).unwrap = .ok snippet

/-- Why the run is refused, with the code that it ends with. -/
inductive Refuses (start : SingleStart words t) (env : Environment) (language : Text) :
    Refusal → Int → Prop where
  /-- The settings cannot be loaded. -/
  | settings {r : Refusal} (h : start.loadSettings env = .error (.refusal r)) :
      Refuses start env language r 2
  /-- The requests cannot be loaded. -/
  | requests {settings : Settings} {r : Refusal} (hsettings : start.loadSettings env = .ok settings)
      (h : start.loadRequests = .error (.refusal r)) : Refuses start env language r 2
  /-- The file holds another count of requests than one. -/
  | count {settings : Settings} {requests : List (Text × Request)}
      (hsettings : start.loadSettings env = .ok settings) (hloaded : start.loadRequests = .ok requests)
      (h : requests.length ≠ 1) :
      Refuses start env language (.notOneRequest start.options.source.text requests.length) 2
  /-- The language is not known. -/
  | language {settings : Settings} {request : Text × Request} {r : Refusal}
      (hsettings : start.loadSettings env = .ok settings)
      (hloaded : start.loadRequests = .ok [request]) (h : findGrammar language = .error r) :
      Refuses start env language r 2
  /-- The snippet cannot be made. -/
  | snippet {settings : Settings} {request : Text × Request} {g : Grammar} {failure : SnippetFailure}
      (hsettings : start.loadSettings env = .ok settings)
      (hloaded : start.loadRequests = .ok [request]) (hknown : findGrammar language = .ok g)
      (h : (generate g request.2).unwrap = .error failure) :
      Refuses start env language (.snippet failure) 3

end SingleStart

/-! ## Steps before anything is written -/

theorem onlyRequest_eq_ok {path : Text} {requests : List (Text × Request)} {r : Request} :
    onlyRequest path requests = .ok r ↔ ∃ name, requests = [(name, r)] := by
  rcases requests with _ | ⟨⟨name, request⟩, _ | ⟨second, others⟩⟩
  · simp only [onlyRequest, reduceCtorEq, List.nil_eq, exists_false]
  · simp only [onlyRequest, Except.ok.injEq, List.cons.injEq, Prod.mk.injEq, and_true,
      exists_eq_left']
  · simp only [onlyRequest, reduceCtorEq, List.cons.injEq, and_false, exists_false]

namespace SingleStart

variable {start : SingleStart words t} {language snippet : Text} {output : Path}

/-- The steps come to a snippet exactly if each of them does its part. -/
theorem make_eq_ok : start.make env language = .ok snippet ↔ start.Makes env language snippet := by
  simp only [make, loadRequest, Makes, bind_eq_ok, mapError_eq_ok, onlyRequest_eq_ok]
  constructor
  · rintro ⟨settings, hsettings, r, ⟨requests, hrequests, name, rfl⟩, g, hg, hsnippet⟩
    exact ⟨settings, (name, r), g, hsettings, hrequests, hg, hsnippet⟩
  · rintro ⟨settings, r, g, hsettings, hrequests, hg, hsnippet⟩
    exact ⟨settings, hsettings, r.2, ⟨[r], hrequests, r.1, rfl⟩, g, hg, hsnippet⟩

/-- Otherwise one of them refuses, or there is a fault. -/
theorem make_eq_refusal {r : Refusal} (h : start.make env language = .error (.refusal r)) :
    ∃ code, start.Refuses env language r code := by
  rw [make] at h
  rcases bind_eq_error.mp h with hsettings | ⟨settings, hsettings, h⟩
  · exact ⟨2, .settings hsettings⟩
  rcases bind_eq_error.mp h with hrequest | ⟨request, hrequest, h⟩
  · rcases bind_eq_error.mp hrequest with hrequests | ⟨requests, hrequests, honly⟩
    · exact ⟨2, .requests hsettings hrequests⟩
    · rcases requests with _ | ⟨first, _ | ⟨second, others⟩⟩
      · cases honly
        exact ⟨2, .count hsettings hrequests (by decide)⟩
      · cases honly
      · cases honly
        refine ⟨2, .count hsettings hrequests ?_⟩
        rw [List.length_cons, List.length_cons]
        omega
  rcases bind_eq_ok.mp hrequest with ⟨requests, hrequests, honly⟩
  rcases onlyRequest_eq_ok.mp honly with ⟨name, rfl⟩
  rcases bind_eq_error.mp h with hlanguage | ⟨g, hg, h⟩
  · cases hfound : findGrammar language with
    | ok g =>
        rw [hfound] at hlanguage
        cases hlanguage
    | error refusal =>
        rw [hfound] at hlanguage
        cases hlanguage
        exact ⟨2, .language hsettings hrequests hfound⟩
  · cases hsnippet : (generate g request).unwrap with
    | ok snippet =>
        rw [hsnippet] at h
        cases h
    | error failure =>
        rw [hsnippet] at h
        cases h
        exact ⟨3, .snippet hsettings hrequests (mapError_eq_ok.mp hg) hsnippet⟩

/-- Conversely, the steps come to the refusal of the first that refuses. -/
theorem Refuses.make_eq {r : Refusal} {code : Int} (h : start.Refuses env language r code) :
    start.make env language = .error (.refusal r) := by
  cases h with
  | settings h =>
      rw [make, h]
      rfl
  | requests hsettings h =>
      rw [make, hsettings, ok_bind, loadRequest, h]
      rfl
  | @count _ requests hsettings hloaded h =>
      rw [make, hsettings, ok_bind, loadRequest, hloaded, ok_bind]
      rcases requests with _ | ⟨first, _ | ⟨second, others⟩⟩
      · rfl
      · exact absurd rfl h
      · rfl
  | language hsettings hloaded h =>
      rw [make, hsettings, ok_bind, loadRequest, hloaded, ok_bind, onlyRequest, ok_bind, h]
      rfl
  | snippet hsettings hloaded hknown h =>
      rw [make, hsettings, ok_bind, loadRequest, hloaded, ok_bind, onlyRequest, ok_bind, hknown,
        mapError_ok, ok_bind, h]
      rfl

/-- The code is that of the class that the refusal is of. -/
theorem Refuses.exitCode {r : Refusal} {code : Int} (h : start.Refuses env language r code) :
    r.cls.exitCode = code := by
  cases h with
  | settings h =>
      have hcls : r.cls = .settings := refusesAs_loadSettings _ _ _ r h
      rw [hcls]
      rfl
  | requests _ h =>
      have hcls : r.cls = .request := refusesAs_loadRequests _ _ r h
      rw [hcls]
      rfl
  | count _ _ _ => rfl
  | language _ _ h =>
      rw [cls_findGrammar h]
      rfl
  | @snippet _ _ _ failure _ _ _ _ => cases failure <;> rfl

theorem run_loadRequest (start : SingleStart words t) :
    (CallSnippets.loadRequest start.options.source : StateM FileTree _) t = (start.loadRequest, t) := by
  rw [CallSnippets.loadRequest, run_bind, (looks_loadRequests _).run]
  rfl

/-- A run tells the trouble that it ends in, or hands out its snippet. -/
theorem run_eq (start : SingleStart words t) (env : Environment)
    (hlanguage : start.options.language? = some language) :
    ∃ err, runOn env words t =
      match start.make env language with
      | .error trouble => (Outcome.after [] err (.troubled trouble), t)
      | .ok snippet =>
        (Outcome.after [] err ((deliver start.options.output? snippet : StateM FileTree _) t).1,
          ((deliver start.options.output? snippet : StateM FileTree _) t).2) := by
  have hcommand : commands.lookup (Text.ofString "gen-snippet") = some Command.single := by decide
  have hrun := runOn_named start.opened start.named hcommand env
  have hsettings : ((CallSnippets.loadSettings env ((start.outer.value? .config).map Path.ofText) :
      StateM FileTree _) t).1 = start.loadSettings env := rfl
  rw [hsettings] at hrun
  rw [hrun, make]
  cases hloaded : start.loadSettings env with
  | error trouble => exact ⟨[], rfl⟩
  | ok settings =>
      simp only [ok_bind]
      rw [run_runNamed, Command.rule, start.accepted]
      change ∃ err, (runSingle settings (start.outer.has .verbose) start.options : StateM FileTree _) t = _
      rw [runSingle, run_bind, start.run_loadRequest]
      cases start.loadRequest with
      | error trouble => exact ⟨[], rfl⟩
      | ok r =>
          simp only [ok_bind]
          rw [makeSingle, hlanguage, Option.getD_some]
          cases findGrammar language with
          | error refusal => exact ⟨[], rfl⟩
          | ok g =>
              simp only [mapError_ok, ok_bind]
              cases (generate g r).unwrap with
              | error failure => exact ⟨_, rfl⟩
              | ok snippet => exact ⟨_, rfl⟩

end SingleStart

/-! ## Writing the snippet -/

/-- A file can be written at a path, if only one without anything in it. -/
def FileTree.CanStore (t : FileTree) (p : Path) : Prop :=
  ((storeText p [] : StateM FileTree _) t).1 = .ok ()

/-- Whether a file can be written does not depend on what is to be in it. -/
theorem exists_write {path : Text} {bytes : ByteArray} (h : t.write path bytes = .ok t')
    (bytes' : ByteArray) : ∃ u, t.write path bytes' = .ok u := by
  rw [write, bind_eq_ok] at h
  rcases h with ⟨target, hfollow, hput⟩
  cases target with
  | free place => exact ⟨_, by rw [write, hfollow]; rfl⟩
  | found place node =>
      cases node with
      | directory => cases hput
      | file old => exact ⟨_, by rw [write, hfollow]; rfl⟩

theorem toBytes?_nil : Text.toBytes? [] = some .empty := by decide

/-- Where a file can be written, the directories above it can be made, and then it can be opened. -/
theorem FileTree.CanStore.opened (h : t.CanStore p) :
    ∃ u u', (makeDirectories p.parent : StateM FileTree _) t = (.ok (), u) ∧
      u.write p.text .empty = .ok u' := by
  rw [CanStore, storeText, run_bind] at h
  generalize (makeDirectories p.parent : StateM FileTree _) t = made at h
  rcases made with ⟨_ | _, u⟩
  · cases h
  · change ((writeText p [] : StateM FileTree _) u).1 = .ok () at h
    rw [writeText, toBytes?_nil] at h
    simp only at h
    rw [run_writeFile] at h
    cases hwrite : u.write p.text .empty with
    | ok u' => exact ⟨u, u', rfl, hwrite⟩
    | error e =>
        rw [hwrite] at h
        cases h

/-- A text that has bytes is written where a file can be. -/
theorem storeText_whole (h : t.CanStore p) (hs : IsWhole s) :
    ((storeText p s : StateM FileTree _) t).1 = .ok () := by
  rcases h.opened with ⟨u, u', hmade, hwrite⟩
  rcases Option.isSome_iff_exists.mp (isSome_toBytes?.mpr hs) with ⟨bytes, hbytes⟩
  rcases exists_write hwrite bytes with ⟨u'', hwrite'⟩
  rw [storeText, run_bind, hmade]
  change ((writeText p s : StateM FileTree _) u).1 = _
  rw [writeText, hbytes]
  simp only
  rw [run_writeFile, hwrite']

/-- A text that has no bytes leaves the file empty. -/
theorem storeText_halves (hp : p.IsProper) (h : t.CanStore p) (hs : ¬IsWhole s) :
    ∃ t', (storeText p s : StateM FileTree _) t = (.error .unencodable, t') ∧
      t'.read p.text = .ok .empty := by
  rcases h.opened with ⟨u, u', hmade, hwrite⟩
  have hnone : Text.toBytes? s = none := by
    cases hbytes : Text.toBytes? s with
    | none => rfl
    | some bytes => exact absurd (isSome_toBytes?.mp (by rw [hbytes]; rfl)) hs
  refine ⟨u', ?_, read_eq_ok.mpr ⟨_, (write_changes hp hwrite).2⟩⟩
  rw [storeText, run_bind, hmade]
  change (writeText p s : StateM FileTree _) u = _
  rw [writeText, hnone]
  simp only
  rw [run_bind, run_writeFile, hwrite]
  rfl

theorem run_deliver (p : Path) (s : Text) (t : FileTree) :
    (deliver (some p) s : StateM FileTree _) t =
      match (storeText p s : StateM FileTree _) t with
      | (.ok (), t') => (.done ["Snippet saved to " ++ p.text], t')
      | (.error e, t') => (.faulted (e.fault p.text), t') := by
  rw [deliver, run_bind]
  generalize (storeText p s : StateM FileTree _) t = stored
  rcases stored with ⟨_ | _, t'⟩ <;> rfl

theorem told_ne_nil (message : Text) (rest : List Text) : told (message :: rest) ≠ [] := by
  rw [told, List.flatMap_cons, List.append_assoc]
  exact List.append_ne_nil_of_right_ne_nil _ (List.cons_ne_nil _ _)

/-- What is told of a snippet that was written. -/
def savedLine (p : Path) : Text :=
  "Snippet saved to " ++ p.text

/-- The snippet is handed out where a file can be written. -/
theorem deliver_whole (hp : p.IsProper) (h : t.CanStore p) (hs : IsWhole s) :
    ∃ t' bytes, (deliver (some p) s : StateM FileTree _) t = (.done [savedLine p], t') ∧
      Text.toBytes? s = some bytes ∧ t'.read p.text = .ok bytes := by
  have hstored := storeText_whole h hs
  generalize hresult : (storeText p s : StateM FileTree _) t = stored at hstored
  rcases stored with ⟨answer, t'⟩
  cases hstored
  rcases storeText_ok hp hresult with ⟨bytes, hbytes, hfollow⟩
  refine ⟨t', bytes, ?_, hbytes, read_eq_ok.mpr ⟨_, hfollow⟩⟩
  rw [run_deliver, hresult]
  rfl

theorem isWhole_savedLine : IsWhole (savedLine p) ↔ IsWhole p.text := by
  rw [savedLine, isWhole_append, and_iff_right (isWhole_ofString _)]

/-- That the snippet is saved is told if the path of the file has a form in bytes. -/
theorem done_saved (h : IsWhole p.text) :
    Outcome.done [savedLine p] = ⟨told [savedLine p], [], .exit 0⟩ := by
  rw [Outcome.done, Outcome.telling, if_pos (isSome_toBytes?.mpr (isWhole_savedLine.mpr h))]
  simp only [Outcome.telling, Outcome.after, List.append_nil]

theorem done_unsaved (h : ¬IsWhole p.text) : Outcome.done [savedLine p] = .faulted .unencodable := by
  rw [Outcome.done, Outcome.telling, if_neg fun hsome => h (isWhole_savedLine.mp (isSome_toBytes?.mp hsome))]

/-! ## Plain words -/

/-- Reading a path from a text takes away strokes and dots only. So if nothing is wrong with the text of the
    path, the file system can be asked about the text that it was read from. -/
theorem system_of_pathFault? {path : Text} {e : FileError}
    (h : pathFault? (Path.ofText path).text = none) (he : pathFault? path = some e) :
    ∃ error, e = .system error := by
  rw [pathFault?] at h
  split_ifs at h with hbytes hnull
  rw [Option.isNone_iff_eq_none, ← ne_eq, ← Option.isSome_iff_ne_none] at hbytes
  rw [pathFault?] at he
  split_ifs at he with hbytes' hnull'
  · -- Strokes and dots have bytes, and so has everything else in the text.
    rw [Option.isNone_iff_eq_none] at hbytes'
    refine absurd (Text.isSome_fileBytes?.mpr fun c hc => ?_) (by rw [hbytes']; exact Bool.false_ne_true)
    by_cases hstroke : c = CodePoint.char '/'
    · rw [hstroke]
      rfl
    by_cases hdot : c = CodePoint.char '.'
    · rw [hdot]
      rfl
    exact Text.isSome_fileBytes?.mp hbytes c (Path.mem_text_ofText hc hstroke hdot)
  · exact absurd (List.contains_iff_mem.mpr
      (Path.mem_text_ofText (List.contains_iff_mem.mp hnull') (by decide) (by decide))) hnull
  · cases he
    exact ⟨_, rfl⟩
  · cases he
    exact ⟨_, rfl⟩

/-- Nothing is objected to the path of a file that can be written. -/
theorem FileTree.CanStore.unobjected {parameter path : Text} (h : t.CanStore (Path.ofText path)) :
    pathObjection false parameter path (t.look path) = none := by
  rcases storeText_ok (Path.isProper_ofText path) (Prod.ext h rfl) with ⟨_, _, hfollow⟩
  have hfault : pathFault? (Path.ofText path).text = none := (follow_eq_ok.mp hfollow).1
  cases hlook : t.look path with
  | ok kind => rfl
  | error e =>
      rcases look_error hlook with herror | rfl | rfl | rfl
      · rcases system_of_pathFault? hfault herror with ⟨error, rfl⟩
        rfl
      all_goals rfl

/-- The options of a plain call. -/
def languageMention (language : Text) : Mention :=
  ⟨⟨.language, some 'l', some .text, "Target language (default: first configured language)."⟩, language⟩

def outputMention (path : Text) : Mention :=
  ⟨⟨.output, some 'o', some .path, "Write the snippet to this file instead of stdout."⟩, path⟩

/-- A file, a language and where to write: these words are read as such, unless the name of the file looks
    like an option. -/
theorem read_plain {file : Text} (hfile : CommandLine.isOptionWord file = false) (language path : Text) :
    CommandLine.read singleRule [file, "-l", language, "-o", path] =
      .ok ⟨[languageMention language, outputMention path], [file]⟩ := by
  have hend : file ≠ Text.ofString "--" := by
    rintro rfl
    cases hfile
  have hrest : CommandLine.readWords false singleRule.options ["-l", language, "-o", path] =
      .ok ⟨[languageMention language, outputMention path], []⟩ := rfl
  have houter : singleRule.isOuter = false := by decide
  rw [CommandLine.read, houter, CommandLine.readWords, if_neg hend,
    if_neg (Bool.eq_false_iff.mp hfile), if_neg Bool.false_ne_true, hrest]
  rfl

/-- The words of a plain call are accepted if the file is there and its output can be written. -/
theorem openLine_plain {file language path : Text} {kind : FileKind}
    (hfile : CommandLine.isOptionWord file = false) (hlook : t.look file = .ok kind)
    (hstore : t.CanStore (Path.ofText path)) :
    ((openLine singleRule [file, "-l", language, "-o", path] : StateM FileTree _) t).1 =
      .ok ⟨[languageMention language, outputMention path], [file]⟩ := by
  refine CommandLine.openLine_eq_ok.mpr ⟨read_plain hfile language path, rfl, ?_⟩
  refine (CommandLine.run_objection _ _ _).mpr ⟨CommandLine.optionObjection_eq_none.mpr ?_, fun _ => ?_⟩
  · intro rule hrule kind value hkind hvalue
    have hrules : rule = (languageMention language).rule ∨ rule = (outputMention path).rule := by
      simpa using hrule
    rcases hrules with rfl | rfl
    · cases hkind
      rfl
    · cases hkind
      cases hvalue
      exact hstore.unobjected
  · have hnone : ((objectionTo .presentPath "DESCRIPTOR_PATH" file : StateM FileTree _) t).1 = none := by
      change pathObjection true "DESCRIPTOR_PATH" file (t.look file) = none
      rw [hlook]
      rfl
    change ((CommandLine.wordObjection singleRule [file] : StateM FileTree _) t).1 = none
    rw [CommandLine.wordObjection.eq_def]
    simp only [singleRule]
    rw [run_bind, (looks_objectionTo _ _ _).run]
    simp only [hnone]
    rfl

/-- The words of a plain call: a file, a language, and where to write. -/
def plainCall (file language path : Text) : List Text :=
  ["gen-snippet", file, "-l", language, "-o", path]

/-- A plain call says what its words say. -/
theorem exists_start {outer : CommandLine} {file language path : Text} {kind : FileKind}
    (hopened : ((openLine programRule words : StateM FileTree _) t).1 = .ok outer)
    (hnamed : outer.words = plainCall file language path)
    (hfile : CommandLine.isOptionWord file = false) (hlook : t.look file = .ok kind)
    (hlanguage : language ≠ []) (hstore : t.CanStore (Path.ofText path)) :
    ∃ start : SingleStart words t, start.outer = outer ∧
      start.options = ⟨Path.ofText file, some language, some (Path.ofText path), false⟩ := by
  refine ⟨⟨outer, _, _, hopened, hnamed, openLine_plain hfile hlook hstore⟩, rfl, ?_⟩
  have hsome : (some language).filter (fun language => !language.isEmpty) = some language := by
    rw [Option.filter_some, if_pos]
    cases language with
    | nil => exact absurd rfl hlanguage
    | cons _ _ => rfl
  change (⟨_, (some language).filter _, _, _⟩ : SingleOptions) = _
  rw [hsome]
  rfl

/-! ## Runs -/

/-- A run that writes a snippet: it comes to its end, tells that the snippet is saved, and the file has the
    bytes of the snippet. -/
def RunWrites (env : Environment) (words : List Text) (t : FileTree) (output : Path)
    (snippet : Text) : Prop :=
  (runOn env words t).1.ending = .exit 0 ∧ (runOn env words t).1.out = told [savedLine output] ∧
    ∃ bytes, Text.toBytes? snippet = some bytes ∧ (runOn env words t).2.read output.text = .ok bytes

/-- Everything that is known of runs of the command that are to write a snippet in a language to a file. -/
structure SingleRuns (env : Environment) (words : List Text) (t : FileTree) : Prop where
  /-- Plain words call the command. -/
  called : ∀ (outer : CommandLine) (file language path : Text) (kind : FileKind),
    ((openLine programRule words : StateM FileTree _) t).1 = .ok outer →
    outer.words = plainCall file language path → CommandLine.isOptionWord file = false →
    t.look file = .ok kind → language ≠ [] → t.CanStore (Path.ofText path) →
      ∃ start : SingleStart words t, start.outer = outer ∧
        start.options = ⟨Path.ofText file, some language, some (Path.ofText path), false⟩
  /-- A snippet is written exactly if it is the one that is made and has a form in bytes. -/
  written : ∀ (start : SingleStart words t) (language : Text) (output : Path) (snippet : Text),
    start.options.language? = some language → start.options.output? = some output →
    t.CanStore output → IsWhole output.text →
      (RunWrites env words t output snippet ↔ start.Makes env language snippet ∧ IsWhole snippet)
  /-- If the path of the file has no form in bytes, the snippet is written all the same, but the run ends in
      the fault that this cannot be told. -/
  untold : ∀ (start : SingleStart words t) (language : Text) (output : Path) (snippet : Text),
    start.options.language? = some language → start.options.output? = some output →
    t.CanStore output → ¬IsWhole output.text → start.Makes env language snippet → IsWhole snippet →
      (runOn env words t).1.ending = .fault .unencodable ∧ (runOn env words t).1.out = [] ∧
        ∃ bytes, Text.toBytes? snippet = some bytes ∧ (runOn env words t).2.read output.text = .ok bytes
  /-- The snippet that is made is the result of the only item of the batch. -/
  batched : ∀ (start : SingleStart words t) (language snippet : Text),
    start.Makes env language snippet →
      ∃ requests item, start.loadRequests = .ok requests ∧
        generateBatch requests [language] = .ok [item] ∧ item.result = .ok snippet
  /-- If a snippet is made that has no form in bytes, the run ends in a fault, tells nothing, and leaves
      the file empty. -/
  halved : ∀ (start : SingleStart words t) (language : Text) (output : Path) (snippet : Text),
    start.options.language? = some language → start.options.output? = some output →
    t.CanStore output → start.Makes env language snippet → ¬IsWhole snippet →
      (runOn env words t).1.ending = .fault .unencodable ∧ (runOn env words t).1.out = [] ∧
        (runOn env words t).2.read output.text = .ok .empty
  /-- If none is made, nothing is told as the result, and the tree is as it was. -/
  unmade : ∀ (start : SingleStart words t) (language : Text),
    start.options.language? = some language → (¬∃ snippet, start.Makes env language snippet) →
      (runOn env words t).1.out = [] ∧ (runOn env words t).2 = t ∧
        ((∃ r code, start.Refuses env language r code) ∨ ∃ f, (runOn env words t).1.ending = .fault f)
  /-- A run that is refused makes none, and ends with the code that belongs to the step that refused. -/
  refused : ∀ (start : SingleStart words t) (language : Text) (r : Refusal) (code : Int),
    start.options.language? = some language → start.Refuses env language r code →
      (¬∃ snippet, start.Makes env language snippet) ∧ (runOn env words t).1.ending = .exit code

namespace SingleStart

variable {start : SingleStart words t} {language snippet : Text} {output : Path} {r : Refusal}
  {code : Int}

/-- A snippet that is made is the result of the only item of the batch. -/
theorem Makes.batch (h : start.Makes env language snippet) :
    ∃ requests item, start.loadRequests = .ok requests ∧
      generateBatch requests [language] = .ok [item] ∧ item.result = .ok snippet := by
  rcases h with ⟨settings, r, g, _, hloaded, hknown, hsnippet⟩
  refine ⟨[r], BatchItem.of r.1 r.2 g, hloaded, ?_, hsnippet⟩
  rw [generateBatch, findGrammars, hknown]
  rfl

theorem isProper_output (houtput : start.options.output? = some output) : output.IsProper := by
  rcases Option.map_eq_some_iff.mp houtput with ⟨path, _, rfl⟩
  exact Path.isProper_ofText path

section

variable (hlanguage : start.options.language? = some language)
  (houtput : start.options.output? = some output) (hstore : t.CanStore output)

include hlanguage houtput hstore

/-- A snippet that is made and has bytes is in the file, and that it is saved is told if it can be. -/
theorem Makes.stored (h : start.Makes env language snippet) (hwhole : IsWhole snippet) :
    (∃ err, (runOn env words t).1 = Outcome.after [] err (.done [savedLine output])) ∧
      ∃ bytes, Text.toBytes? snippet = some bytes ∧
        (runOn env words t).2.read output.text = .ok bytes := by
  rcases start.run_eq env hlanguage with ⟨err, hrun⟩
  rcases deliver_whole (isProper_output houtput) hstore hwhole with ⟨t', bytes, hdeliver, hbytes, hread⟩
  rw [make_eq_ok.mpr h, houtput] at hrun
  simp only [hdeliver] at hrun
  rw [hrun]
  exact ⟨⟨err, rfl⟩, bytes, hbytes, hread⟩

theorem Makes.writes (h : start.Makes env language snippet) (hwhole : IsWhole snippet)
    (hpath : IsWhole output.text) : RunWrites env words t output snippet := by
  rcases h.stored hlanguage houtput hstore hwhole with ⟨⟨err, hrun⟩, hfile⟩
  rw [RunWrites, hrun, done_saved hpath]
  exact ⟨rfl, rfl, hfile⟩

/-- One that has no bytes leaves the file empty. -/
theorem Makes.halves (h : start.Makes env language snippet) (hhalves : ¬IsWhole snippet) :
    (runOn env words t).1.ending = .fault .unencodable ∧ (runOn env words t).1.out = [] ∧
      (runOn env words t).2.read output.text = .ok .empty := by
  rcases start.run_eq env hlanguage with ⟨err, hrun⟩
  rcases storeText_halves (isProper_output houtput) hstore hhalves with ⟨t', hstored, hread⟩
  rw [make_eq_ok.mpr h, houtput] at hrun
  simp only [run_deliver, hstored] at hrun
  rw [hrun]
  exact ⟨rfl, rfl, hread⟩

/-- What is written is the snippet that was made. -/
theorem makes_of_writes (hpath : IsWhole output.text) (h : RunWrites env words t output snippet) :
    start.Makes env language snippet ∧ IsWhole snippet := by
  rcases h with ⟨hending, hout, bytes, hbytes, hread⟩
  cases hmake : start.make env language with
  | error trouble =>
      -- Nothing is told as the result then.
      rcases start.run_eq env hlanguage with ⟨err, hrun⟩
      rw [hmake] at hrun
      rw [hrun] at hout
      cases trouble <;> exact absurd hout.symm (told_ne_nil _ _)
  | ok made =>
      have hmakes := make_eq_ok.mp hmake
      by_cases hwhole : IsWhole made
      · rcases hmakes.writes hlanguage houtput hstore hwhole hpath with ⟨_, _, bytes', hbytes', hread'⟩
        rw [hread] at hread'
        cases hread'
        rw [toBytes?_inj hbytes hbytes']
        exact ⟨hmakes, hwhole⟩
      · rw [(hmakes.halves hlanguage houtput hstore hwhole).1] at hending
        cases hending

end

end SingleStart

/-- What is known of runs of the command. -/
theorem runOn_single (env : Environment) (words : List Text) (t : FileTree) :
    SingleRuns env words t := by
  constructor
  case called =>
    intro outer file language path kind hopened hnamed hfile hlook hlanguage hstore
    exact exists_start hopened hnamed hfile hlook hlanguage hstore
  case written =>
    intro start language output snippet hlanguage houtput hstore hpath
    constructor
    · exact fun hwrites => start.makes_of_writes hlanguage houtput hstore hpath hwrites
    · exact fun h => h.1.writes hlanguage houtput hstore h.2 hpath
  case untold =>
    intro start language output snippet hlanguage houtput hstore hpath hmakes hwhole
    rcases hmakes.stored hlanguage houtput hstore hwhole with ⟨⟨err, hrun⟩, hfile⟩
    rw [hrun, done_unsaved hpath]
    exact ⟨rfl, rfl, hfile⟩
  case batched => exact fun start language snippet hmakes => hmakes.batch
  case halved =>
    intro start language output snippet hlanguage houtput hstore hmakes hhalves
    exact hmakes.halves hlanguage houtput hstore hhalves
  case unmade =>
    intro start language hlanguage hnone
    rcases start.run_eq env hlanguage with ⟨err, hrun⟩
    cases hmake : start.make env language with
    | ok snippet => exact absurd ⟨snippet, SingleStart.make_eq_ok.mp hmake⟩ hnone
    | error trouble =>
        rw [hmake] at hrun
        rw [hrun]
        cases trouble with
        | refusal r => exact ⟨rfl, rfl, .inl ⟨r, SingleStart.make_eq_refusal hmake⟩⟩
        | fault f => exact ⟨rfl, rfl, .inr ⟨f, rfl⟩⟩
  case refused =>
    intro start language r code hlanguage hrefuses
    rcases start.run_eq env hlanguage with ⟨err, hrun⟩
    have hmake := hrefuses.make_eq
    refine ⟨?_, ?_⟩
    · rintro ⟨snippet, hmakes⟩
      rw [SingleStart.make_eq_ok.mpr hmakes] at hmake
      cases hmake
    · rw [hmake] at hrun
      rw [hrun, ← hrefuses.exitCode]
      rfl

/-- A file with one request. -/
def singleTree : FileTree :=
  filesTree [("d.yaml", "method: GET\npath: /me\n")]

/-- The file that the snippet is to be written to. -/
def singleOutput : Path := Path.ofText "out.js"

/-- A call that asks for the snippet of the request. -/
def singleWords : List Text :=
  plainCall "d.yaml" "js" "out.js"

/-- What the words say: the file can be written, and a snippet is made that has a form in bytes. -/
def singleStart : { start : SingleStart singleWords singleTree //
    start.outer.words = plainCall "d.yaml" "js" "out.js" ∧
    start.options.language? = some (Text.ofString "js") ∧ start.options.output? = some singleOutput ∧
    ((storeText singleOutput [] : StateM FileTree _) singleTree).1.toOption = some () ∧
    (start.make [] "js").toOption.any (fun snippet => decide (IsWhole snippet)) = true } :=
  ⟨(singleStart? singleWords singleTree).get (by decide +kernel), by decide +kernel⟩

/-- A name that ends with a byte that is no UTF-8. -/
def savedOutput : Path := Path.ofText ("out" ++ byteName)

/-- A call that asks for the same snippet in a file of this name. -/
def savedWords : List Text :=
  plainCall "d.yaml" "js" savedOutput.text

/-- What the words say: the file can be written, its path has no form in bytes, and the snippet has one. -/
def savedStart : { start : SingleStart savedWords singleTree //
    start.options.language? = some (Text.ofString "js") ∧ start.options.output? = some savedOutput ∧
    ((storeText savedOutput [] : StateM FileTree _) singleTree).1.toOption = some () ∧
    ¬IsWhole savedOutput.text ∧
    (start.make [] "js").toOption.any (fun snippet => decide (IsWhole snippet)) = true } :=
  ⟨(singleStart? savedWords singleTree).get (by decide +kernel), by decide +kernel⟩

/-- A call that asks for a language that is not known. -/
def refusedWords : List Text :=
  plainCall "d.yaml" "cobol" "out.js"

/-- What the words say: the file holds one request, and the language is refused. -/
def refusedStart : { start : SingleStart refusedWords singleTree //
    start.options.language? = some (Text.ofString "cobol") ∧ (start.loadSettings []).toOption.isSome ∧
    start.loadRequests.toOption.map List.length = some 1 ∧
    (errorOf? (findGrammar "cobol")).isSome } :=
  ⟨(singleStart? refusedWords singleTree).get (by decide +kernel), by decide +kernel⟩

/-- What the statements come to for these calls: the snippet is written by the first two of them, and the
    second one cannot tell so. -/
theorem runOn_single_plain :
    (∃ start : SingleStart singleWords singleTree, start.options.output? = some singleOutput) ∧
    (∃ snippet, RunWrites [] singleWords singleTree singleOutput snippet) ∧
    ((runOn [] savedWords singleTree).1.ending = .fault .unencodable ∧
      ∃ bytes, (runOn [] savedWords singleTree).2.read savedOutput.text = .ok bytes) ∧
    ((runOn [] refusedWords singleTree).1.ending = .exit 2 ∧
      (runOn [] refusedWords singleTree).2 = singleTree) := by
  refine ⟨?called, ?written, ?untold, ?refused⟩
  case called =>
    rcases singleStart with ⟨start, hwords, _, _, hstore, _⟩
    have hlook : singleTree.look "d.yaml" = .ok .file := eq_ok_of_toOption (by decide)
    rcases (runOn_single [] singleWords singleTree).called start.outer "d.yaml" "js" "out.js" .file
      start.opened hwords (by decide) hlook (by decide) (eq_ok_of_toOption hstore) with
      ⟨start', _, hoptions⟩
    exact ⟨start', by rw [hoptions]; rfl⟩
  case written =>
    rcases singleStart with ⟨start, _, hlanguage, houtput, hstore, hmake⟩
    rcases (Option.any_eq_true _ _).mp hmake with ⟨snippet, hsome, hwhole⟩
    have hmakes := SingleStart.make_eq_ok.mp (eq_ok_of_toOption hsome)
    exact ⟨snippet, ((runOn_single [] singleWords singleTree).written start "js" singleOutput snippet
      hlanguage houtput (eq_ok_of_toOption hstore) (by decide)).mpr ⟨hmakes, of_decide_eq_true hwhole⟩⟩
  case untold =>
    rcases savedStart with ⟨start, hlanguage, houtput, hstore, hpath, hmake⟩
    rcases (Option.any_eq_true _ _).mp hmake with ⟨snippet, hsome, hwhole⟩
    have hmakes := SingleStart.make_eq_ok.mp (eq_ok_of_toOption hsome)
    rcases (runOn_single [] savedWords singleTree).untold start "js" savedOutput snippet hlanguage houtput
      (eq_ok_of_toOption hstore) hpath hmakes (of_decide_eq_true hwhole) with
      ⟨hending, _, bytes, _, hread⟩
    exact ⟨hending, bytes, hread⟩
  case refused =>
    rcases refusedStart with ⟨start, hlanguage, hsettings, hlength, hunknown⟩
    rcases Option.isSome_iff_exists.mp hsettings with ⟨settings, hsettings⟩
    rcases Option.isSome_iff_exists.mp hunknown with ⟨r, hr⟩
    rcases Option.map_eq_some_iff.mp hlength with ⟨requests, hrequests, hone⟩
    rcases List.length_eq_one_iff.mp hone with ⟨request, rfl⟩
    have hrefuses : start.Refuses [] "cobol" r 2 :=
      .language (eq_ok_of_toOption hsettings) (eq_ok_of_toOption hrequests) (errorOf?_eq_some.mp hr)
    have hruns := runOn_single [] refusedWords singleTree
    rcases hruns.refused start "cobol" r 2 hlanguage hrefuses with ⟨hunmade, hending⟩
    exact ⟨hending, (hruns.unmade start "cobol" hlanguage hunmade).2.1⟩

/-- A file with one request, the path of which is written with the escapes of two halves. -/
def splitTree : FileTree :=
  filesTree [("d.yaml", "method: GET\npath: \"/\\ud83d\\ude00\"\n")]

/-- What the same words say there: the file can be written, and a snippet is made that has no form in
    bytes. -/
def splitStart : { start : SingleStart singleWords splitTree //
    start.options.language? = some (Text.ofString "js") ∧ start.options.output? = some singleOutput ∧
    ((storeText singleOutput [] : StateM FileTree _) splitTree).1.toOption = some () ∧
    (start.make [] "js").toOption.any (fun snippet => decide (¬IsWhole snippet)) = true } :=
  ⟨(singleStart? singleWords splitTree).get (by decide +kernel), by decide +kernel⟩

/-- Everything loads, the snippet is made and the file can be written, but no snippet is: the run ends in a
    fault and with the code 1. -/
theorem runOn_single_split : splitStart.val.options.language? = some (Text.ofString "js") ∧
    splitStart.val.options.output? = some singleOutput ∧ splitTree.CanStore singleOutput ∧
    (∃ snippet, splitStart.val.Makes [] "js" snippet) ∧
    (¬∃ snippet, RunWrites [] singleWords splitTree singleOutput snippet) ∧
    (runOn [] singleWords splitTree).1.exitCode = 1 := by
  rcases splitStart with ⟨start, hlanguage, houtput, hstore, hmake⟩
  rcases (Option.any_eq_true _ _).mp hmake with ⟨snippet, hsome, hhalves⟩
  have hmakes := SingleStart.make_eq_ok.mp (eq_ok_of_toOption hsome)
  have hending := (hmakes.halves hlanguage houtput (eq_ok_of_toOption hstore)
    (of_decide_eq_true hhalves)).1
  refine ⟨hlanguage, houtput, eq_ok_of_toOption hstore, ⟨_, hmakes⟩, ?_, ?_⟩
  · rintro ⟨snippet, hwrites, _⟩
    rw [hending] at hwrites
    cases hwrites
  · rw [Outcome.exitCode, hending]

end CallSnippets
