import CallSnippets.Fault
import CallSnippets.Refusal.Basic
import CallSnippets.Snippet.Remark
import CallSnippets.Text.Encoding
import CallSnippets.Text.Terminal

/-!
# Outcomes of a run

What is left of a run besides the files it wrote: what it told on either stream, and how it ended. A
run that ends in a fault keeps what it had told until then.

What is told goes to files and pipes as well as to terminals, so control sequences are taken out of
it. It goes there as bytes: what is told beside the result shows the halves of pairs as escapes, but a
result is told as it is or not at all.

## Main definitions

* `Ending`, `Outcome`: The outcome of a run.
* `Outcome.exitCode`: The code that the program ends with.
* `told`: Lines as they are told.
* `Outcome.telling`: The outcome of a run that tells its result line by line.
-/

namespace CallSnippets

/-- How a run ended. -/
inductive Ending where
  /-- It came to its end, with a code. -/
  | exit (code : Int)
  /-- A fault ended it. -/
  | fault (f : Fault)
  deriving DecidableEq, Repr

/-- The outcome of a run. -/
structure Outcome where
  /-- What was told as the result. -/
  out : Text
  /-- What was told beside it. -/
  err : Text
  /-- How the run ended. -/
  ending : Ending
  deriving DecidableEq, Repr

/-- Messages as they are told, each on a line of its own. -/
def told (messages : List Text) : Text :=
  messages.flatMap fun message => Text.escapeHalves (Text.plain message) ++ "\n"

/-- Remarks as they are told, to one who wants to see everything or only what matters. -/
def remarked (verbose : Bool) (remarks : List Remark) : Text :=
  Text.escapeHalves ((remarks.filter (Remark.isShown verbose)).flatMap Remark.line)

namespace Outcome

/-- The code that the program ends with. -/
def exitCode (o : Outcome) : Int :=
  match o.ending with
  | .exit code => code
  | .fault _ => 1

/-- A run that a fault ended before anything was told. -/
def faulted (f : Fault) : Outcome :=
  ⟨[], [], .fault f⟩

/-- A run that ended with a refusal before anything was told. -/
def refused (r : Refusal) : Outcome :=
  ⟨[], told ["Error: " ++ r.report.message], .exit r.report.exitCode⟩

/-- A run that ended with a refusal or a fault before anything was told. -/
def troubled : Trouble → Outcome
  | .refusal r => refused r
  | .fault f => faulted f

/-- The outcome with something told before the rest. -/
def after (out err : Text) (o : Outcome) : Outcome :=
  { o with out := out ++ o.out, err := err ++ o.err }

/-- The outcome with messages told as the result before the rest. The first one that has no form in
    bytes ends the run. -/
def telling : List Text → Outcome → Outcome
  | [], o => o
  | message :: rest, o =>
    if (Text.toBytes? message).isSome then after (told [message]) [] (telling rest o)
    else faulted .unencodable

/-- A run that came to its end with nothing to tell beside the result. -/
def done (messages : List Text) : Outcome :=
  telling messages ⟨[], [], .exit 0⟩

end Outcome

end CallSnippets
