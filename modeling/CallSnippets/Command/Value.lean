import CallSnippets.Command.Line
import CallSnippets.Files.System

/-!
# Values on a command line

The values of options and the operand are checked before a command starts: the options in the order
in which they are first mentioned, each by its last value, then the operand, and at last that nothing
is left over. The first thing that is wrong is answered.

## Main definitions

* `Objection`: Why a command does not start.
* `objectionTo`: What is wrong with one value.
* `CommandLine.objection`: What is wrong with a command line.
-/

namespace CallSnippets

/-- Why a command does not start. -/
inductive Objection where
  /-- The command line is wrong. -/
  | misuse (m : Misuse)
  /-- A value cannot even be checked. -/
  | fault (f : Fault)
  deriving DecidableEq, Repr

/-- What is wrong with a value that has to be a whole number from one on. -/
def countMisuse (parameter value : Text) : Option Misuse :=
  match readInt 10 value with
  | .number n => if n < 1 then some (.belowOne parameter n) else none
  | _ => some (.notWhole parameter value)

/-- What is wrong with a path of which the file system has said what it leads to. -/
def pathObjection (mustLead : Bool) (parameter path : Text) :
    Except FileError FileKind → Option Objection
  | .ok _ => none
  | .error (.system _) => if mustLead then some (.misuse (.nothingAt parameter path)) else none
  | .error e => some (.fault (e.fault path))

section

variable {m : Type → Type} [Monad m] [FileSystem m]

/-- What is wrong with a value of a kind. -/
def objectionTo (kind : ValueKind) (parameter value : Text) : m (Option Objection) :=
  match kind with
  | .text => return none
  | .path => return pathObjection false parameter value (← FileSystem.look value)
  | .presentPath => return pathObjection true parameter value (← FileSystem.look value)
  | .count => return (countMisuse parameter value).map .misuse

namespace CommandLine

/-- What is wrong with the values of options. -/
def optionObjection (line : CommandLine) : List OptionRule → m (Option Objection)
  | [] => return none
  | rule :: rest =>
    match rule.kind?, line.value? rule.name with
    | some kind, some value => do
      match ← objectionTo kind rule.name.longName value with
      | some objection => return some objection
      | none => optionObjection line rest
    | _, _ => optionObjection line rest

/-- What is wrong with the number of words. -/
def surplusObjection : List Text → Option Objection
  | [] => none
  | words => some (.misuse (.surplus words))

/-- What is wrong with the words that are no options. -/
def wordObjection (c : CommandRule) (words : List Text) : m (Option Objection) :=
  match c.operand?, words with
  | none, words => return surplusObjection words
  | some operand, [] => return some (.misuse (.operandMissing operand))
  | some operand, word :: rest => do
    match ← objectionTo .presentPath operand word with
    | some objection => return some objection
    | none => return surplusObjection rest

/-- What is wrong with a command line. The words of an outer command are left to an inner one. -/
def objection (c : CommandRule) (line : CommandLine) : m (Option Objection) := do
  match ← optionObjection line (line.mentions.map Mention.rule).eraseDups with
  | some objection => return some objection
  | none => if c.isOuter then return none else wordObjection c line.words

end CommandLine

end

end CallSnippets
