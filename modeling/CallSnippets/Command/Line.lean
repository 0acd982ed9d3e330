import CallSnippets.Command.Misuse

/-!
# Command lines

The words of a command line are read from left to right. A word that starts with a stroke stands for
options: two strokes and a name for one, which may have its value behind an equals sign, or one
stroke and letters for several, of which one that takes a value has the rest of the word for it.
Where an option still lacks its value, it takes the next word, whatever that is. Two strokes alone
end the options.

An outer command also ends its options at the first other word, for the rest is the command line of
an inner one.

## Main definitions

* `Mention`, `CommandLine`: What a command line says.
* `CommandLine.read`: What the words of a command line say.
* `CommandLine.has`, `CommandLine.values`, `CommandLine.value?`: What is said about an option.
-/

namespace CallSnippets

/-- An option that is mentioned, with its value; that of a flag is empty. -/
structure Mention where
  /-- The option. -/
  rule : OptionRule
  /-- Its value. -/
  value : Text
  deriving DecidableEq, Repr

/-- What a command line says. -/
structure CommandLine where
  /-- The options it mentions, in order. -/
  mentions : List Mention
  /-- The other words. -/
  words : List Text
  deriving DecidableEq, Repr

/-- What one word says: options, and maybe one more that takes the next word for its value. -/
structure OptionWord where
  /-- The options that are complete. -/
  mentions : List Mention
  /-- The option that lacks its value, and how it was written. -/
  waiting? : Option (OptionRule × Text)

namespace OptionWord

/-- The word with one more option before the others. -/
def before (m : Mention) (w : OptionWord) : OptionWord :=
  { w with mentions := m :: w.mentions }

/-- What letters behind a stroke say. -/
def ofLetters (rules : List OptionRule) : Text → Except Misuse OptionWord
  | [] => .ok ⟨[], none⟩
  | c :: rest =>
    match rules.find? fun rule => rule.letter? = some c with
    | none => .error (.unknownOption ['-', c])
    | some rule =>
      if rule.kind?.isNone then (ofLetters rules rest).map (before ⟨rule, []⟩)
      else if rest.isEmpty then .ok ⟨[], some (rule, ['-', c])⟩
      else .ok ⟨[⟨rule, rest⟩], none⟩

/-- A word in two at its first equals sign, if it has one. -/
def splitValue (word : Text) : Text × Option Text :=
  match word.spanAt '=' with
  | (name, _ :: value) => (name, some value)
  | (name, []) => (name, none)

/-- What a word says that starts with a stroke. Only a word with two strokes has to be a long name; any
    other one that is none is read by its letters. -/
def ofWord (rules : List OptionRule) (word : Text) : Except Misuse OptionWord :=
  let (name, value) := splitValue word
  match rules.find? fun rule => rule.name.longName = name with
  | some rule =>
    match rule.kind?, value with
    | none, none => .ok ⟨[⟨rule, []⟩], none⟩
    | none, some _ => .error (.valueUnwanted name)
    | some _, none => .ok ⟨[], some (rule, name)⟩
    | some _, some value => .ok ⟨[⟨rule, value⟩], none⟩
  | none =>
    match word with
    | '-' :: '-' :: _ => .error (.unknownOption name)
    | _ => ofLetters rules word.tail

end OptionWord

namespace CommandLine

/-- The line with more options before the others. -/
def after (mentions : List Mention) (line : CommandLine) : CommandLine :=
  { line with mentions := mentions ++ line.mentions }

/-- The word stands for options. -/
def isOptionWord (word : Text) : Bool :=
  word.head? = some '-' && 1 < word.length

/-- What the words of a command line say, where the line of an outer command ends with the first word
    that is no option. -/
def readWords (outer : Bool) (rules : List OptionRule) : List Text → Except Misuse CommandLine
  | [] => .ok ⟨[], []⟩
  | word :: rest =>
    if word = "--" then .ok ⟨[], rest⟩
    else if isOptionWord word then
      match OptionWord.ofWord rules word with
      | .error misuse => .error misuse
      | .ok ⟨mentions, none⟩ => (readWords outer rules rest).map (after mentions)
      | .ok ⟨mentions, some (rule, form)⟩ =>
        match rest with
        | [] => .error (.valueMissing form)
        | value :: rest =>
          (readWords outer rules rest).map (after (mentions ++ [⟨rule, value⟩]))
    else if outer then .ok ⟨[], word :: rest⟩
    else
      (readWords outer rules rest).map fun line => { line with words := word :: line.words }

/-- What the words of a command line say to a command. -/
def read (c : CommandRule) (words : List Text) : Except Misuse CommandLine :=
  readWords c.isOuter c.options words

/-- The values of an option, one for each mention. -/
def values (line : CommandLine) (name : OptionName) : List Text :=
  (line.mentions.filter fun m => m.rule.name = name).map Mention.value

/-- The option is mentioned. -/
def has (line : CommandLine) (name : OptionName) : Bool :=
  !(line.values name).isEmpty

/-- The value of an option: of several mentions the last one counts. -/
def value? (line : CommandLine) (name : OptionName) : Option Text :=
  (line.values name).getLast?

end CommandLine

end CallSnippets
