import CallSnippets.Command.Rule
import CallSnippets.Files.Name
import CallSnippets.Number.Decimal
import CallSnippets.Text.Quoted

/-!
# Misuse of commands

What may be wrong with a command line, and how the user is told. Beside what is wrong, the answer
says how the command is used; only an option that lacks its value, or is given one that it does not
take, is answered without that.

## Main definitions

* `Misuse`: What is wrong with a command line.
* `Misuse.message`: What is wrong, in words.
* `Misuse.report`: The answer to the user.
-/

namespace CallSnippets

/-- What is wrong with a command line. -/
inductive Misuse where
  /-- There is no such option. -/
  | unknownOption (option : Text)
  /-- An option takes a value and has none. -/
  | valueMissing (option : Text)
  /-- An option takes no value and is given one. -/
  | valueUnwanted (option : Text)
  /-- No command is named. -/
  | commandMissing
  /-- There is no such command. -/
  | unknownCommand (name : Text)
  /-- What the command takes besides options is missing. -/
  | operandMissing (operand : Text)
  /-- There are more words than the command takes. -/
  | surplus (words : List Text)
  /-- Nothing is at a path that has to lead to something. -/
  | nothingAt (parameter path : Text)
  /-- A value is no whole number. -/
  | notWhole (parameter value : Text)
  /-- A whole number is less than one. -/
  | belowOne (parameter : Text) (n : Int)
  deriving DecidableEq, Repr

namespace Misuse

/-- What is wrong with the value of a parameter. -/
def ofValue (parameter words : Text) : Text :=
  "Invalid value for '" ++ parameter ++ "': " ++ words

/-- What is wrong, in words. -/
def message : Misuse → Text
  | unknownOption option => "No such option " ++ Text.quoted option ++ "."
  | valueMissing option => "Option " ++ Text.quoted option ++ " requires an argument."
  | valueUnwanted option => "Option " ++ Text.quoted option ++ " does not take a value."
  | commandMissing => "Missing command."
  | unknownCommand name => "No such command " ++ Text.quoted name ++ "."
  | operandMissing operand => "Missing argument '" ++ operand ++ "'."
  | surplus [word] => "Got unexpected extra argument (" ++ word ++ ")"
  | surplus words => "Got unexpected extra arguments (" ++ Text.join " " words ++ ")"
  | nothingAt parameter path =>
    ofValue parameter ("Path " ++ Text.quoted (Text.readable path) ++ " does not exist.")
  | notWhole parameter value =>
    ofValue parameter (Text.quoted value ++ " is not a valid integer range.")
  | belowOne parameter n => ofValue parameter (intText n ++ " is not in the range x>=1.")

/-- The answer also says how the command is used. -/
def showsUsage : Misuse → Bool
  | valueMissing _ => false
  | valueUnwanted _ => false
  | _ => true

/-- The answer to the user of a command, line by line. -/
def report (c : CommandRule) (m : Misuse) : List Text :=
  (if m.showsUsage then
    [c.usage, "Try '" ++ c.title ++ " --help' for help.", []]
  else []) ++ ["Error: " ++ m.message]

end Misuse

end CallSnippets
