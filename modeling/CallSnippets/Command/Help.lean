import CallSnippets.Command.Rule
import CallSnippets.Text.Basic

/-!
# Help pages

A help page says how a command is used, what it does, and what its options do; that of the program
also lists the commands. Options and commands stand in two columns, of which the second is as wide as
a line of 78 characters lets it be, and text that does not fit is broken between words.

## Main definitions

* `rows`: Two columns.
* `helpPage`: The help page of a command.
-/

namespace CallSnippets

/-- The width of a help page. -/
def pageWidth : Nat := 78

/-- Words in lines of at most a given width, where a line has begun. A word that is wider has a line of
    its own. -/
def fillLines (width : Nat) (line : Text) : List Text → List Text
  | [] => [line]
  | word :: rest =>
    if line.length + 1 + word.length ≤ width then
      fillLines width (line ++ " " ++ word) rest
    else line :: fillLines width word rest

/-- A text in lines of at most a given width. -/
def wrapped (width : Nat) (t : Text) : List Text :=
  match Text.splitOn ' ' t with
  | [] => []
  | word :: rest => fillLines width word rest

/-- A text with blanks behind it up to a width. -/
def filledUp (width : Nat) (t : Text) : Text :=
  t ++ Text.repeated (width - t.length) ' '

/-- The width of the widest text. -/
def widest (ts : List Text) : Nat :=
  ts.foldl (fun width t => max width t.length) 0

/-- One row of two columns, of which the first has a width: further lines of the second are set in. -/
def row (width : Nat) (r : Text × Text) : List Text :=
  match wrapped (pageWidth - width - 4) r.2 with
  | [] => ["  " ++ r.1]
  | line :: rest =>
    ("  " ++ filledUp width r.1 ++ "  " ++ line) ::
      rest.map fun line => Text.repeated (width + 4) ' ' ++ line

/-- Two columns under a title. -/
def rows (title : Text) (entries : List (Text × Text)) : List Text :=
  (title ++ ":") :: entries.flatMap (row (widest (entries.map Prod.fst)))

/-- An option as help pages list it. -/
def OptionRule.listed (o : OptionRule) : Text :=
  (match o.letter? with
  | some c => ['-', c, ',', ' ']
  | none => []) ++ o.name.longName ++
    match o.kind? with
    | some kind => ' ' :: kind.label
    | none => []

/-- The most words of a text that have room before dots, with the room that is left. -/
def wordsWithin : Nat → List Text → List Text
  | _, [] => []
  | room, word :: rest =>
    if word.length ≤ room then word :: wordsWithin (room - word.length - 1) rest else []

/-- A text in one line of at most a given width, with dots for what is left out. -/
def shortened (width : Nat) (t : Text) : Text :=
  if t.length ≤ width then t
  else Text.join " " (wordsWithin (width - 3) (Text.splitOn ' ' t)) ++ "..."

/-- What a command does, as the page of the program lists it. -/
def listedCommands (commands : List (Text × CommandRule)) : List (Text × Text) :=
  let width := pageWidth - 6 - widest (commands.map Prod.fst)
  commands.map fun c => (c.1, shortened width c.2.purpose)

/-- The help page of a command, line by line, with the commands that it takes. -/
def helpPage (c : CommandRule) (commands : List (Text × CommandRule)) : List Text :=
  [c.usage, [], "  " ++ c.purpose, []] ++
    rows "Options" (c.options.map fun o => (o.listed, o.purpose)) ++
    if commands.isEmpty then [] else [] :: rows "Commands" (listedCommands commands)

end CallSnippets
