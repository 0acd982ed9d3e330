import CallSnippets.Snippet.Batch

/-!
# Pools of workers

The items of a batch may be made by several workers at a time. Each pair of a request and a grammar is
a task, for which a ticket is given out, in the order of the pairs. A worker that is free takes any task
that waits, tells its remarks one after the other, and leaves the item with the ticket. The items are
read off the tickets in their order once all tasks are finished.

Which worker gets on next is not up to the pool. A schedule says so: it is a list of the numbers of
tickets, and each time a number comes up, the worker at the task takes one step. Schedules may let later
tasks overtake earlier ones, and may let the remarks of several tasks mix.

The log is the only thing that all workers write to. None of them reads it.

## Main definitions

* `Task`, `batchTasks`: What is to be done for one pair, and for a batch.
* `Progress`, `Ticket`: How far a task has come.
* `Pool`, `Pool.start`: A pool, and what it starts with.
* `Pool.advance`, `Pool.run`: One step of the worker at a task, and the steps of a schedule.
* `Pool.items`: The items that have been made.
* `startBatch`: The pool for requests in languages.
-/

namespace CallSnippets

/-- A pair of a request, with its name, and the grammar of a language. -/
structure Task where
  /-- The name of the request. -/
  name : Text
  /-- The request. -/
  request : Request
  /-- The grammar of the language. -/
  grammar : Grammar

namespace Task

/-- What comes of a task. -/
def item (task : Task) : BatchItem :=
  BatchItem.of task.name task.request task.grammar

/-- What is told while it is done. -/
def remarks (task : Task) : List Remark :=
  renderRemarks task.grammar task.request

end Task

/-- The tasks of a batch: requests in their order, and grammars in theirs for each request. -/
def batchTasks (requests : List (Text × Request)) (grammars : List Grammar) : List Task :=
  requests.flatMap fun r => grammars.map fun g => ⟨r.1, r.2, g⟩

/-- How far a task has come. -/
inductive Progress where
  /-- No worker has taken it. -/
  | waiting
  /-- A worker is at it, and has yet to tell some remarks. -/
  | running (untold : List Remark)
  /-- Its item is there. -/
  | finished (item : BatchItem)

namespace Progress

/-- A worker is at the task. -/
def isRunning : Progress → Bool
  | running _ => true
  | _ => false

/-- The item, if it is there. -/
def item? : Progress → Option BatchItem
  | finished item => some item
  | _ => none

end Progress

/-- What is given out for a task: the task, and how far it has come. -/
structure Ticket where
  /-- The task. -/
  task : Task
  /-- How far it has come. -/
  progress : Progress

/-- Workers and the tasks that were handed in to them. -/
structure Pool where
  /-- How many workers there are. -/
  workers : Nat
  /-- The tickets of the tasks, in the order in which these were handed in. -/
  tickets : List Ticket
  /-- The remarks that were told. -/
  log : List Remark

namespace Pool

/-- A pool to which tasks were handed in. There is at least one worker. -/
def start (workers : Int) (tasks : List Task) : Pool where
  workers := (max 1 workers).toNat
  tickets := tasks.map fun task => ⟨task, .waiting⟩
  log := []

/-- How many workers are at a task. -/
def busy (pool : Pool) : Nat :=
  pool.tickets.countP fun ticket => ticket.progress.isRunning

/-- The pool with another progress on a ticket. -/
def set (pool : Pool) (i : Nat) (ticket : Ticket) (progress : Progress) : Pool :=
  { pool with tickets := pool.tickets.set i { ticket with progress } }

/-- One step of the worker at the task of a ticket. A task that waits needs a worker that is free, and
    for one that is finished there is nothing left to do. -/
def advance (pool : Pool) (i : Nat) : Option Pool :=
  match pool.tickets[i]? with
  | none => none
  | some ticket =>
    match ticket.progress with
    | .waiting =>
      if pool.busy < pool.workers then some (pool.set i ticket (.running ticket.task.remarks)) else none
    | .running (remark :: untold) =>
      some { pool.set i ticket (.running untold) with log := pool.log ++ [remark] }
    | .running [] => some (pool.set i ticket (.finished ticket.task.item))
    | .finished _ => none

/-- The steps of a schedule. -/
def run (pool : Pool) : List Nat → Option Pool
  | [] => some pool
  | i :: schedule => (pool.advance i).bind fun next => next.run schedule

/-- All tasks are finished. -/
def isDone (pool : Pool) : Bool :=
  pool.tickets.all fun ticket => ticket.progress.item?.isSome

/-- The items that have been made, in the order of the tickets. -/
def items (pool : Pool) : List BatchItem :=
  pool.tickets.filterMap fun ticket => ticket.progress.item?

end Pool

/-- The pool for requests in languages. No task is handed in unless all languages are known. -/
def startBatch (workers : Int) (requests : List (Text × Request)) (languages : List Text) :
    Except Refusal Pool :=
  (findGrammars languages).map fun grammars => Pool.start workers (batchTasks requests grammars)

end CallSnippets
