import CallSnippets.Proofs.Snippet.Outcome
import CallSnippets.Proofs.Steps
import CallSnippets.Snippet.Pool
import Mathlib.Data.List.Forall2

/-!
# Batches by many workers

However many workers make a batch, and whoever of them gets on first, the items are those that are made
one after the other: one for each pair of a request and a language, in the order of the pairs, and each
of them made from its own pair alone.

What one step of a worker can do is said once. It moves one ticket on, to what follows for its task, and
leaves all other tickets as they are. So the tasks stay in their places, an item that is there is
the item of its task, and each step leaves one step less to be done. As long as not all tasks are
finished, some worker can get on: either one is at a task, or none is, and then one is free to take a
task that waits. A schedule can therefore neither lose an item nor go on forever.

What the workers tell goes to the log that they share. No step looks at it.

## Main definitions

* `Follows`: What a step makes of the progress of a task.
* `Pool.Sound`: What holds of a pool at all times.
* `Pool.left`: How many steps are left to be done.
* `IsKnown`, `IsItem`: A language is known, and an item is the one of a pair.
* `Scheduled`: Everything that is known of a batch made by workers.

## Theorems

* `advance_cases`: What one step can do.
* `sound_advance`, `sound_run`: What one step and what a whole schedule keep.
* `left_run`: A schedule takes one step at a time.
* `exists_advance`: Some worker can get on unless all tasks are finished.
* `items_run`: The items at the end of a schedule.
* `generateBatch_scheduled`: Batches by many workers.
-/

namespace CallSnippets

/-- What a step makes of the progress of a task. -/
inductive Follows (task : Task) : Progress → Progress → Prop where
  /-- A worker takes it. -/
  | taken : Follows task .waiting (.running task.remarks)
  /-- The worker tells a remark. -/
  | told (remark : Remark) (untold : List Remark) :
      Follows task (.running (remark :: untold)) (.running untold)
  /-- The worker leaves the item. -/
  | left : Follows task (.running []) (.finished task.item)

/-- How many steps are left to be done for a task. -/
def Ticket.left (ticket : Ticket) : Nat :=
  match ticket.progress with
  | .waiting => ticket.task.remarks.length + 2
  | .running untold => untold.length + 1
  | .finished _ => 0

/-- How many steps are left to be done for the tasks of tickets. -/
def stepsLeft : List Ticket → Nat
  | [] => 0
  | ticket :: rest => ticket.left + stepsLeft rest

theorem stepsLeft_append (a b : List Ticket) : stepsLeft (a ++ b) = stepsLeft a + stepsLeft b := by
  induction a with
  | nil => rw [List.nil_append, stepsLeft, Nat.zero_add]
  | cons ticket rest ih => rw [List.cons_append, stepsLeft, stepsLeft, ih, Nat.add_assoc]

namespace Pool

variable {pool next : Pool} {tasks : List Task} {i : Nat} {schedule : List Nat}

/-- How many steps are left to be done for all tasks. -/
def left (pool : Pool) : Nat :=
  stepsLeft pool.tickets

/-- What holds at all times of a pool that tasks were handed in to. -/
structure Sound (tasks : List Task) (pool : Pool) : Prop where
  /-- There is a worker. -/
  manned : 0 < pool.workers
  /-- The tasks are in their places. -/
  placed : pool.tickets.map Ticket.task = tasks
  /-- An item that is there is the one of its task. -/
  made : ∀ ticket ∈ pool.tickets, ∀ item, ticket.progress.item? = some item → item = ticket.task.item

/-! ## One step -/

/-- What one step can do: it moves one ticket on, and leaves the others as they are. -/
theorem advance_cases (h : pool.advance i = some next) :
    ∃ before ticket progress after, pool.tickets = before ++ ticket :: after ∧
      Follows ticket.task ticket.progress progress ∧ next.workers = pool.workers ∧
      next.tickets = before ++ { ticket with progress } :: after := by
  rw [advance] at h
  cases hticket : pool.tickets[i]? with
  | none => simp only [hticket, reduceCtorEq] at h
  | some ticket =>
      rcases List.getElem?_eq_some_iff.mp hticket with ⟨hi, hget⟩
      have hsplit : pool.tickets = pool.tickets.take i ++ ticket :: pool.tickets.drop (i + 1) := by
        rw [← hget, List.getElem_cons_drop, List.take_append_drop]
      have hset (progress : Progress) : (pool.set i ticket progress).tickets =
          pool.tickets.take i ++ { ticket with progress } :: pool.tickets.drop (i + 1) := by
        rw [set, List.set_eq_take_append_cons_drop, if_pos hi]
      simp only [hticket] at h
      refine ⟨pool.tickets.take i, ticket, ?_⟩
      -- Each way the task can stand has one way on, and a finished one has none.
      cases hprogress : ticket.progress with
      | waiting =>
          simp only [hprogress] at h
          split at h
          · cases h
            exact ⟨_, _, hsplit, .taken, rfl, hset _⟩
          · cases h
      | running untold =>
          simp only [hprogress] at h
          cases untold with
          | nil =>
              cases h
              exact ⟨_, _, hsplit, .left, rfl, hset _⟩
          | cons remark untold =>
              cases h
              exact ⟨_, _, hsplit, .told remark untold, rfl, hset _⟩
      | finished item =>
          simp only [hprogress, reduceCtorEq] at h

/-- What is in the log makes no difference to what a step does to the tickets. -/
theorem advance_log (pool : Pool) (log : List Remark) (i : Nat) :
    ({ pool with log := log }.advance i).map Pool.tickets = (pool.advance i).map Pool.tickets := by
  have hbusy : ({ pool with log } : Pool).busy = pool.busy := rfl
  simp only [advance, hbusy]
  cases pool.tickets[i]? with
  | none => rfl
  | some ticket =>
      cases hprogress : ticket.progress with
      | waiting =>
          simp only [hprogress]
          by_cases hfree : pool.busy < pool.workers
          · rewrite [if_pos hfree, if_pos hfree]
            rfl
          · rewrite [if_neg hfree, if_neg hfree]
            rfl
      | running untold =>
          simp only [hprogress]
          cases untold <;> rfl
      | finished item => simp only [hprogress]

/-- One step keeps what holds at all times. -/
theorem sound_advance (hpool : Sound tasks pool) (h : pool.advance i = some next) :
    Sound tasks next := by
  rcases advance_cases h with ⟨before, ticket, progress, after, htickets, hfollows, hworkers, hnext⟩
  constructor
  case manned =>
    rw [hworkers]
    exact hpool.manned
  case placed =>
    rw [← hpool.placed, htickets, hnext, List.map_append, List.map_append, List.map_cons, List.map_cons]
  case made =>
    intro other hother item hitem
    rw [hnext, List.mem_append, List.mem_cons] at hother
    have hold : ∀ s ∈ before ++ ticket :: after, ∀ item, s.progress.item? = some item →
        item = s.task.item := by
      rw [← htickets]
      exact hpool.made
    rcases hother with hbefore | rfl | hafter
    · exact hold other (List.mem_append_left _ hbefore) item hitem
    · -- The ticket that was moved on has an item only if the worker left that of the task.
      rcases ticket with ⟨task, old⟩
      cases hfollows with
      | taken => cases hitem
      | told remark untold => cases hitem
      | left =>
          cases hitem
          rfl
    · exact hold other (List.mem_append_right _ (List.mem_cons_of_mem _ hafter)) item hitem

/-- One step leaves one step less to be done. -/
theorem left_advance (h : pool.advance i = some next) : pool.left = next.left + 1 := by
  rcases advance_cases h with ⟨before, ticket, progress, after, htickets, hfollows, _, hnext⟩
  have hticket : ticket.left = ({ ticket with progress } : Ticket).left + 1 := by
    rcases ticket with ⟨task, old⟩
    cases hfollows <;> rfl
  rw [left, left, htickets, hnext, stepsLeft_append, stepsLeft_append, stepsLeft, stepsLeft]
  omega

/-- Some worker can get on unless all tasks are finished. -/
theorem exists_advance (hpool : Sound tasks pool) (h : pool.isDone = false) :
    ∃ i, (pool.advance i).isSome = true := by
  by_cases hrunning : ∃ ticket ∈ pool.tickets, ticket.progress.isRunning = true
  · rcases hrunning with ⟨ticket, hmem, hticket⟩
    rcases List.mem_iff_getElem?.mp hmem with ⟨i, hi⟩
    refine ⟨i, ?_⟩
    rw [advance, hi]
    cases hprogress : ticket.progress with
    | waiting => simp only [hprogress, Progress.isRunning, Bool.false_eq_true] at hticket
    | running untold => cases untold <;> simp only [hprogress, Option.isSome_some]
    | finished item => simp only [hprogress, Progress.isRunning, Bool.false_eq_true] at hticket
  · -- No worker is at a task, so one is free for the task that is not finished.
    have hidle : pool.busy < pool.workers := by
      have hbusy : pool.busy = 0 :=
        List.countP_eq_zero.mpr fun ticket hmem hticket => hrunning ⟨ticket, hmem, hticket⟩
      rw [hbusy]
      exact hpool.manned
    rcases List.all_eq_false.mp h with ⟨ticket, hmem, hticket⟩
    rcases List.mem_iff_getElem?.mp hmem with ⟨i, hi⟩
    refine ⟨i, ?_⟩
    rw [advance, hi]
    cases hprogress : ticket.progress with
    | waiting => simp only [hprogress, if_pos hidle, Option.isSome_some]
    | running untold => exact absurd ⟨ticket, hmem, by rw [hprogress]; rfl⟩ hrunning
    | finished item =>
        exact absurd (by rw [hprogress]; rfl : ticket.progress.item?.isSome = true) hticket

/-! ## Schedules -/

theorem run_cons : pool.run (i :: schedule) = some next ↔
    ∃ mid, pool.advance i = some mid ∧ mid.run schedule = some next := by
  rw [run, Option.bind_eq_some_iff]

/-- A schedule keeps what holds at all times. -/
theorem sound_run (hpool : Sound tasks pool) (h : pool.run schedule = some next) :
    Sound tasks next := by
  induction schedule generalizing pool with
  | nil =>
      cases h
      exact hpool
  | cons i schedule ih =>
      rcases run_cons.mp h with ⟨mid, hmid, hrest⟩
      exact ih (sound_advance hpool hmid) hrest

/-- A schedule takes one step at a time. -/
theorem left_run (h : pool.run schedule = some next) : pool.left = schedule.length + next.left := by
  induction schedule generalizing pool with
  | nil =>
      cases h
      rw [List.length_nil, Nat.zero_add]
  | cons i schedule ih =>
      rcases run_cons.mp h with ⟨mid, hmid, hrest⟩
      have hstep := left_advance hmid
      have hmore := ih hrest
      rw [List.length_cons]
      omega

theorem sound_start (workers : Int) (tasks : List Task) : Sound tasks (start workers tasks) := by
  constructor
  case manned =>
    simp only [start]
    omega
  case placed =>
    simp only [start, List.map_map]
    exact List.map_id' tasks
  case made =>
    intro ticket hticket item hitem
    rcases List.mem_map.mp hticket with ⟨task, _, rfl⟩
    cases hitem

/-- The items once all tasks are finished. -/
theorem items_eq (hpool : Sound tasks pool) (h : pool.isDone = true) :
    pool.items = tasks.map Task.item := by
  rw [items, ← hpool.placed, List.map_map, ← List.filterMap_eq_map]
  refine List.filterMap_congr fun ticket hticket => ?_
  rcases Option.isSome_iff_exists.mp (List.all_eq_true.mp h ticket hticket) with ⟨item, hitem⟩
  rw [hitem, hpool.made ticket hticket item hitem, Function.comp_apply, Function.comp_apply]

/-- The items at the end of a schedule are those of the tasks, in the order of the tasks. -/
theorem items_run {workers : Int} (h : (start workers tasks).run schedule = some next)
    (hdone : next.isDone = true) : next.items = tasks.map Task.item :=
  items_eq (sound_run (sound_start workers tasks) h) hdone

end Pool

/-! ## Languages -/

/-- The language is known. -/
def IsKnown (language : Text) : Prop :=
  ∃ g, findGrammar language = .ok g

/-- The grammars of languages are theirs one by one. -/
theorem findGrammars_eq_ok {languages : List Text} {grammars : List Grammar} :
    findGrammars languages = .ok grammars ↔
      List.Forall₂ (fun language g => findGrammar language = .ok g) languages grammars := by
  induction languages generalizing grammars with
  | nil =>
      rw [findGrammars, Except.ok.injEq, List.forall₂_nil_left_iff]
      exact eq_comm
  | cons language rest ih =>
      simp only [findGrammars, bind_eq_ok, List.forall₂_cons_left_iff, ih, pure_eq_ok,
        Except.ok.injEq]
      constructor
      · rintro ⟨g, hg, gs, hgs, rfl⟩
        exact ⟨g, gs, hg, hgs, rfl⟩
      · rintro ⟨g, gs, hg, hgs, rfl⟩
        exact ⟨g, hg, gs, hgs, rfl⟩

theorem findGrammars_known {languages : List Text} (h : ∀ l ∈ languages, IsKnown l) :
    ∃ grammars, findGrammars languages = .ok grammars := by
  induction languages with
  | nil => exact ⟨[], rfl⟩
  | cons language rest ih =>
      rcases h language (List.mem_cons_self ..) with ⟨g, hg⟩
      rcases ih fun l hl => h l (List.mem_cons_of_mem language hl) with ⟨gs, hgs⟩
      exact ⟨g :: gs, by rw [findGrammars, hg, hgs]; rfl⟩

/-- A language that is not known is refused by its name. -/
theorem findGrammar_unknown {language : Text} (h : ¬IsKnown language) :
    findGrammar language = .error (.unknownLanguage language availableLanguages) := by
  rw [findGrammar]
  cases hlookup : grammars.lookup (languageKey language) with
  | none => rfl
  | some g => exact absurd ⟨g, by rw [findGrammar, hlookup]⟩ h

/-- The first language that is not known decides what all are refused for. -/
theorem findGrammars_unknown {languages : List Text} (h : ¬∀ l ∈ languages, IsKnown l) :
    ∃ before language after, languages = before ++ language :: after ∧
      (∀ l ∈ before, IsKnown l) ∧ ¬IsKnown language ∧
      findGrammars languages = .error (.unknownLanguage language availableLanguages) := by
  induction languages with
  | nil => exact absurd (fun l hl => absurd hl List.not_mem_nil) h
  | cons language rest ih =>
      by_cases hknown : IsKnown language
      · have hrest : ¬∀ l ∈ rest, IsKnown l := fun hall =>
          h (List.forall_mem_cons.mpr ⟨hknown, hall⟩)
        rcases ih hrest with ⟨before, first, after, rfl, hbefore, hfirst, herror⟩
        rcases hknown with ⟨g, hg⟩
        refine ⟨language :: before, first, after, rfl,
          List.forall_mem_cons.mpr ⟨⟨g, hg⟩, hbefore⟩, hfirst, ?_⟩
        rw [findGrammars, hg, ok_bind, herror, error_bind]
      · refine ⟨[], language, rest, rfl, fun l hl => absurd hl List.not_mem_nil, hknown, ?_⟩
        rw [findGrammars, findGrammar_unknown hknown, error_bind]

/-! ## Batches -/

/-- The pairs of requests and languages: requests in their order, and languages in theirs for each
    request. -/
def pairs (requests : List (Text × Request)) (languages : List Text) :
    List ((Text × Request) × Text) :=
  requests.flatMap fun r => languages.map fun language => (r, language)

/-- An item is the one of a pair of a request, with its name, and a language. -/
def IsItem (pair : (Text × Request) × Text) (item : BatchItem) : Prop :=
  ∃ g, findGrammar pair.2 = .ok g ∧ item.name = pair.1.1 ∧ item.language = g.name ∧
    item.fileExtension = g.fileExtension ∧ item.result = (generate g pair.1.2).unwrap

theorem map_item_batchTasks (requests : List (Text × Request)) (grammars : List Grammar) :
    (batchTasks requests grammars).map Task.item = batchItems requests grammars := by
  simp only [batchTasks, batchItems, List.map_flatMap, List.map_map]
  rfl

theorem batchItems_append (a b : List (Text × Request)) (grammars : List Grammar) :
    batchItems (a ++ b) grammars = batchItems a grammars ++ batchItems b grammars :=
  List.flatMap_append

/-- Each item is the one of the pair in its place. -/
theorem forall₂_batchItems {requests : List (Text × Request)} {languages : List Text}
    {grammars : List Grammar} (h : findGrammars languages = .ok grammars) :
    List.Forall₂ IsItem (pairs requests languages) (batchItems requests grammars) := by
  induction requests with
  | nil => exact .nil
  | cons r rest ih =>
      refine List.rel_append ?_ ih
      have hlanguages := findGrammars_eq_ok.mp h
      clear ih h
      induction hlanguages with
      | nil => exact .nil
      | cons hg _ ihlanguages => exact .cons ⟨_, hg, rfl, rfl, rfl, rfl⟩ ihlanguages

/-- Everything that is known of a batch of requests in languages that is made by workers. -/
structure Scheduled (workers : Int) (requests : List (Text × Request)) (languages : List Text) :
    Prop where
  /-- In known languages there is one item for each pair, in the order of the pairs. -/
  known : (∀ l ∈ languages, IsKnown l) → ∃ items, generateBatch requests languages = .ok items ∧
    List.Forall₂ IsItem (pairs requests languages) items
  /-- Whatever the schedule, workers come to these items: their steps are counted, some worker can get
      on until all tasks are finished, and then the items are there. -/
  scheduled : ∀ items, generateBatch requests languages = .ok items →
    ∃ pool, startBatch workers requests languages = .ok pool ∧
      ∀ schedule next, pool.run schedule = some next →
        schedule.length + next.left = pool.left ∧
        (next.isDone = false → ∃ i, (next.advance i).isSome = true) ∧
        (next.isDone = true → next.items = items)
  /-- No step looks at what other tasks have told. -/
  unshared : ∀ (pool : Pool) (log : List Remark) (i : Nat),
    ({ pool with log := log }.advance i).map Pool.tickets = (pool.advance i).map Pool.tickets
  /-- Where a language is not known, the first one is refused, and no task is handed in. -/
  unknown : (¬∀ l ∈ languages, IsKnown l) → ∃ before language after,
    languages = before ++ language :: after ∧ (∀ l ∈ before, IsKnown l) ∧ ¬IsKnown language ∧
      generateBatch requests languages = .error (.unknownLanguage language availableLanguages) ∧
      startBatch workers requests languages = .error (.unknownLanguage language availableLanguages)
  /-- The items of two rows of requests are those of the one and then those of the other. -/
  append : ∀ a b, requests = a ++ b → generateBatch requests languages = (do
    let first ← generateBatch a languages
    let second ← generateBatch b languages
    return first ++ second)
  /-- Another request in a place makes no difference to the items of the others. -/
  others : ∀ before r after, requests = before ++ r :: after →
    ∀ items, generateBatch requests languages = .ok items →
      ∃ first own last, items = first ++ own ++ last ∧ own.length = languages.length ∧
        ∀ r', ∃ own', own'.length = languages.length ∧
          generateBatch (before ++ r' :: after) languages = .ok (first ++ own' ++ last)

/-- However many workers make a batch, and whoever gets on first, its items are those of its pairs. -/
theorem generateBatch_scheduled (workers : Int) (requests : List (Text × Request))
    (languages : List Text) : Scheduled workers requests languages := by
  constructor
  case known =>
    intro hknown
    rcases findGrammars_known hknown with ⟨grammars, hgrammars⟩
    exact ⟨batchItems requests grammars, by rw [generateBatch, hgrammars, map_ok],
      forall₂_batchItems hgrammars⟩
  case scheduled =>
    intro items hitems
    rw [generateBatch] at hitems
    cases hgrammars : findGrammars languages with
    | error refusal => rw [hgrammars, map_error] at hitems; cases hitems
    | ok grammars =>
        rw [hgrammars, map_ok] at hitems
        cases hitems
        refine ⟨Pool.start workers (batchTasks requests grammars),
          by rw [startBatch, hgrammars, map_ok], ?_⟩
        intro schedule next hrun
        refine ⟨(Pool.left_run hrun).symm, fun hopen => ?_, fun hdone => ?_⟩
        · exact Pool.exists_advance (Pool.sound_run (Pool.sound_start _ _) hrun) hopen
        · rw [Pool.items_run hrun hdone, map_item_batchTasks]
  case unshared => exact Pool.advance_log
  case unknown =>
    intro hunknown
    rcases findGrammars_unknown hunknown with ⟨before, language, after, hsplit, hbefore, hlanguage, herror⟩
    refine ⟨before, language, after, hsplit, hbefore, hlanguage, ?_, ?_⟩
    · rw [generateBatch, herror, map_error]
    · rw [startBatch, herror, map_error]
  case append =>
    rintro a b rfl
    simp only [generateBatch]
    cases findGrammars languages with
    | error refusal => rfl
    | ok grammars =>
        simp only [map_ok, ok_bind, pure_eq_ok, batchItems_append]
  case others =>
    rintro before r after rfl items hitems
    rw [generateBatch] at hitems
    cases hgrammars : findGrammars languages with
    | error refusal => rw [hgrammars, map_error] at hitems; cases hitems
    | ok grammars =>
        have hlength := (findGrammars_eq_ok.mp hgrammars).length_eq
        have hown (r' : Text × Request) : (batchItems [r'] grammars).length = languages.length := by
          rw [hlength, batchItems, List.flatMap_singleton, List.length_map]
        have hsplit (r' : Text × Request) : batchItems (before ++ r' :: after) grammars =
            batchItems before grammars ++ batchItems [r'] grammars ++ batchItems after grammars := by
          rw [List.append_cons, batchItems_append, batchItems_append]
        rw [hgrammars, map_ok, hsplit] at hitems
        cases hitems
        refine ⟨_, _, _, rfl, hown r, fun r' => ⟨batchItems [r'] grammars, hown r', ?_⟩⟩
        rw [generateBatch, hgrammars, map_ok, hsplit]

/-- A request that no language has a call for. -/
def headed : Text × Request where
  fst := "head"
  snd := { versioned "v1.0" with method := "HEAD" }

/-- A schedule in which the second of two tasks, which fails, is finished before the first one is. -/
def overtaking : List Nat :=
  [0, 1, 1, 1, 1, 0, 0]

theorem generateBatch_scheduled_overtaken :
    ∃ pool next, startBatch 2 [("me", versioned "beta"), headed] [" JS "] = .ok pool ∧
      pool.run overtaking = some next ∧ next.isDone = true ∧
      generateBatch [("me", versioned "beta"), headed] [" JS "] = .ok next.items := by
  have hgrammar : findGrammar " JS " = .ok javaScript := by decide +kernel
  have hknown : ∀ l ∈ ([" JS "] : List Text), IsKnown l := by
    intro l hl
    rw [List.mem_singleton.mp hl]
    exact ⟨javaScript, hgrammar⟩
  have hscheduled := generateBatch_scheduled 2 [("me", versioned "beta"), headed] [" JS "]
  rcases hscheduled.known hknown with ⟨items, hitems, _⟩
  rcases hscheduled.scheduled items hitems with ⟨pool, hpool, hruns⟩
  have hdone : (pool.run overtaking).map Pool.isDone = some true := by
    rw [startBatch, findGrammars_eq_ok.mpr (.cons hgrammar .nil), map_ok] at hpool
    cases hpool
    decide +kernel
  rcases Option.map_eq_some_iff.mp hdone with ⟨next, hrun, hnext⟩
  refine ⟨pool, next, hpool, hrun, hnext, ?_⟩
  rw [(hruns overtaking next hrun).2.2 hnext, hitems]

end CallSnippets
