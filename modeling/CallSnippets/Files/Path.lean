import CallSnippets.Text.Basic

/-!
# Paths

A path is where it starts and the names that lead on from there. Empty names and single dots lead
nowhere and are left out, so two spellings that differ in them alone are one path. A pair of dots is
kept, because where it leads depends on what the names before it stand for.

A path that starts with exactly two strokes is a path of its own kind; more strokes count as one.

## Main definitions

* `PathStart`, `Path`: A path.
* `Path.ofText`, `Path.text`: A path from and as its text.
* `Path.parent`, `Path.join`: Moving up and down.
-/

namespace CallSnippets

/-- Where a path starts. -/
inductive PathStart where
  /-- At the working directory. -/
  | here
  /-- At the root. -/
  | root
  /-- At the root, written with two strokes. -/
  | doubleRoot
  deriving DecidableEq, Repr

/-- The text of a start. -/
def PathStart.text : PathStart → Text
  | here => []
  | root => "/"
  | doubleRoot => "//"

/-- A path. -/
structure Path where
  /-- Where it starts. -/
  start : PathStart
  /-- The names that lead on from there. -/
  names : List Text
  deriving DecidableEq, Repr

namespace Path

/-- The start of a path that is given as text. -/
def startOf : Text → PathStart
  | '/' :: '/' :: '/' :: _ => .root
  | '/' :: '/' :: _ => .doubleRoot
  | '/' :: _ => .root
  | _ => .here

/-- A name leads somewhere: it is neither empty nor a single dot. -/
def leads (name : Text) : Bool :=
  !name.isEmpty && name ≠ "."

/-- The path that a text stands for. -/
def ofText (t : Text) : Path :=
  ⟨startOf t, (Text.splitOn '/' t).filter leads⟩

/-- The text of a path. One without names that starts at the working directory is a single dot. -/
def text (p : Path) : Text :=
  match p.start, p.names with
  | .here, [] => ['.']
  | start, names => start.text ++ Text.join ['/'] names

/-- The path without its last name. -/
def parent (p : Path) : Path :=
  { p with names := p.names.dropLast }

/-- The path that a text leads to from another path. A text that starts at the root leaves that path
    behind. -/
def join (p : Path) (t : Text) : Path :=
  match startOf t with
  | .here => { p with names := p.names ++ (ofText t).names }
  | _ => ofText t

end Path

end CallSnippets
