import CallSnippets.Text.Basic

/-!
# Rules of commands

What a command takes: options, each with a long name and maybe a letter, and at most one operand. An
option is a flag or takes a value of some kind. Reading a command line, checking its values and the
help pages all go by these rules.

## Main definitions

* `OptionName`: The options.
* `ValueKind`, `OptionRule`, `CommandRule`: What a command takes.
* `programRule`, `languagesRule`, `singleRule`, `batchRule`: The commands.
-/

namespace CallSnippets

/-- The options that some command takes. -/
inductive OptionName where
  /-- Everything is told. -/
  | verbose
  /-- The file of settings. -/
  | config
  /-- A language. -/
  | language
  /-- Where to write. -/
  | output
  /-- How many snippets are made at a time. -/
  | workers
  /-- Files that are there are kept. -/
  | append
  /-- Snippets are checked. -/
  | check
  /-- A help page is shown. -/
  | help
  deriving DecidableEq, Repr

/-- The long name of an option. -/
def OptionName.longName : OptionName → Text
  | verbose => "--verbose"
  | config => "--config"
  | language => "--language"
  | output => "--output"
  | workers => "--workers"
  | append => "--append"
  | check => "--check"
  | help => "--help"

/-- The kinds of values that options take. -/
inductive ValueKind where
  /-- Any text. -/
  | text
  /-- A path. -/
  | path
  /-- The path of something that is there. -/
  | presentPath
  /-- A whole number from one on. -/
  | count
  deriving DecidableEq, Repr

/-- What help pages call a value. -/
def ValueKind.label : ValueKind → Text
  | text => "TEXT"
  | path => "PATH"
  | presentPath => "PATH"
  | count => "INTEGER RANGE"

/-- An option as a command takes it. -/
structure OptionRule where
  /-- Which option it is. -/
  name : OptionName
  /-- The letter that may stand for it. -/
  letter? : Option CodePoint
  /-- The kind of its value, if it takes one. -/
  kind? : Option ValueKind
  /-- What it does. -/
  purpose : Text
  deriving DecidableEq, Repr

/-- The option that every command has. -/
def helpRule : OptionRule :=
  ⟨.help, none, none, "Show this message and exit."⟩

/-- A command. -/
structure CommandRule where
  /-- The words that call it. -/
  words : List Text
  /-- The options it takes. -/
  options : List OptionRule
  /-- The path that it takes besides options, as messages call it. -/
  operand? : Option Text
  /-- What it does. -/
  purpose : Text
  deriving DecidableEq, Repr

namespace CommandRule

/-- The words that call a command, in one text. -/
def title (c : CommandRule) : Text :=
  Text.join " " c.words

/-- The command takes other commands: it has no operand of its own, and words of its command line
    that are no options are left to them. -/
def isOuter (c : CommandRule) : Bool :=
  c.words.length = 1

/-- How a command is used. -/
def usage (c : CommandRule) : Text :=
  let words : Text :=
    if c.isOuter then " COMMAND [ARGS]..."
    else match c.operand? with
      | some operand => " " ++ operand
      | none => []
  "Usage: " ++ c.title ++ " [OPTIONS]" ++ words

end CommandRule

/-- The name of the program. -/
def programName : Text := "api-snippet-gen"

/-- The program itself, whose options stand before the name of a command. -/
def programRule : CommandRule where
  words := [programName]
  options :=
    [⟨.verbose, some 'v', none, "Enable debug logging."⟩,
      ⟨.config, none, some .presentPath, "YAML settings file."⟩, helpRule]
  operand? := none
  purpose := "API Snippet Gen — render REST request descriptors as SDK code snippets."

/-- The command that lists the languages. -/
def languagesRule : CommandRule where
  words := [programName, "languages"]
  options := [helpRule]
  operand? := none
  purpose := "List the languages snippets can be generated for."

/-- The command that makes one snippet. -/
def singleRule : CommandRule where
  words := [programName, "gen-snippet"]
  options :=
    [⟨.language, some 'l', some .text, "Target language (default: first configured language)."⟩,
      ⟨.output, some 'o', some .path, "Write the snippet to this file instead of stdout."⟩,
      ⟨.check, none, none, "Run structural checks on the generated snippet."⟩, helpRule]
  operand? := some "DESCRIPTOR_PATH"
  purpose := "Generate one snippet from a single request descriptor file."

/-- The command that makes the snippets of a whole file. -/
def batchRule : CommandRule where
  words := [programName, "batch"]
  options :=
    [⟨.language, some 'l', some .text, "Target language; repeat for several."⟩,
      ⟨.output, some 'o', some .path, "Output directory for generated snippets."⟩,
      ⟨.workers, none, some .count, "Number of worker threads.  [x>=1]"⟩,
      ⟨.append, none, none, "Keep existing snippet files instead of overwriting them."⟩,
      ⟨.check, none, none, "Run structural checks on generated snippets."⟩, helpRule]
  operand? := some "DESCRIPTORS_PATH"
  purpose := "Generate snippets for every request in a file, for every language."

end CallSnippets
