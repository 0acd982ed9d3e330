import CallSnippets.Command.Batch
import CallSnippets.Command.Help
import CallSnippets.Command.Value

/-!
# Runs of the program

A run starts with the options of the program and the name of a command. The settings are read once
the command is known, and before its own part of the command line is looked at, so that wrong
settings are told whatever follows.

## Main definitions

* `Command`: The commands.
* `openLine`: What a command line says, if nothing is wrong with it.
* `runProgram`: A run.
-/

namespace CallSnippets

/-- The commands. -/
inductive Command where
  /-- Makes the snippets of a whole file. -/
  | batch
  /-- Makes one snippet. -/
  | single
  /-- Lists the languages. -/
  | languages
  deriving DecidableEq, Repr

/-- What a command takes. -/
def Command.rule : Command → CommandRule
  | batch => batchRule
  | single => singleRule
  | languages => languagesRule

/-- The commands under their names, in the order of the names. -/
def commands : List (Text × Command) :=
  [("batch", .batch), ("gen-snippet", .single), ("languages", .languages)]

/-- The commands with what they take. -/
def commandRules : List (Text × CommandRule) :=
  commands.map fun c => (c.1, c.2.rule)

/-- The help page of a command; that of the program lists the commands. -/
def pageOf (c : CommandRule) : List Text :=
  helpPage c (if c.isOuter then commandRules else [])

namespace Outcome

/-- A run that ended because the command line is wrong. -/
def misused (c : CommandRule) (misuse : Misuse) : Outcome :=
  ⟨[], told (misuse.report c), .exit 2⟩

/-- A run that did not start for an objection to its command line. -/
def objected (c : CommandRule) : Objection → Outcome
  | .misuse misuse => misused c misuse
  | .fault f => faulted f

/-- A run that was given nothing to do. -/
def idle : Outcome :=
  ⟨[], told (pageOf programRule), .exit 2⟩

end Outcome

section

variable {m : Type → Type} [Monad m] [FileSystem m]

/-- What a command line says to a command, or the outcome of a run that does not get further. A help
    page is shown whatever the values of other options are. -/
def openLine (c : CommandRule) (words : List Text) : m (Except Outcome CommandLine) :=
  match CommandLine.read c words with
  | .error misuse => return .error (.misused c misuse)
  | .ok line =>
    if line.has .help then return .error (.done (pageOf c))
    else do
      match ← line.objection c with
      | some objection => return .error (.objected c objection)
      | none => return .ok line

/-- A run of a command with a command line that nothing is wrong with. -/
def runCommand (settings : Settings) (verbose : Bool) (line : CommandLine) : Command → m Outcome
  | .batch => runBatch settings verbose (.ofLine line)
  | .single => runSingle settings verbose (.ofLine line)
  | .languages => return .done availableLanguages

/-- A run of a command in settings. -/
def runNamed (settings : Settings) (verbose : Bool) (command : Command) (words : List Text) :
    m Outcome := do
  match ← openLine command.rule words with
  | .error outcome => return outcome
  | .ok line => runCommand settings verbose line command

/-- The answer to the name of a command that is not known. What looks like an option is first read as
    one. -/
def runUnknown (name : Text) (words : List Text) : m Outcome := do
  match ← openLine programRule (name :: words) with
  | .error outcome => return outcome
  | .ok _ => return .misused programRule (.unknownCommand name)

/-- A run of what stands behind the options of the program. -/
def runWords (env : Environment) (outer : CommandLine) : m Outcome :=
  match outer.words with
  | [] => return .misused programRule .commandMissing
  | name :: words =>
    match commands.lookup name with
    | none => runUnknown name words
    | some command => do
      match ← loadSettings env ((outer.value? .config).map Path.ofText) with
      | .error trouble => return .troubled trouble
      | .ok settings => runNamed settings (outer.has .verbose) command words

/-- A run of the program in an environment. -/
def runProgram (env : Environment) (words : List Text) : m Outcome :=
  if words.isEmpty then return .idle
  else do
    match ← openLine programRule words with
    | .error outcome => return outcome
    | .ok outer => runWords env outer

end

end CallSnippets
