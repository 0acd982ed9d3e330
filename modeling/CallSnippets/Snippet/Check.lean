import CallSnippets.Number.Decimal
import CallSnippets.Text.Blank

/-!
# Checking a snippet

A snippet is checked for what can be seen from its characters alone: that brackets are closed in
order, that strings end, and that the last statement is terminated. Brackets inside of strings do not
count, and a backslash inside of a string takes the next character with it.

A closing bracket that does not fit is noted and otherwise passed over, so that one mistake does not
spoil the brackets around it.

## Main definitions

* `Flaw`: What is wrong with a snippet.
* `ScanState`, `ScanState.step`, `scan`: The walk over the characters.
* `flaws`: Everything that is wrong with a snippet.
* `putFile`, `flawedFiles`: Several files, and those of them that have flaws.
-/

namespace CallSnippets

/-- What is wrong with a snippet. -/
inductive Flaw where
  /-- There is nothing in it. -/
  | empty
  /-- A bracket closes nothing. -/
  | unmatched (closer : CodePoint) (line : Nat)
  /-- A string does not end. -/
  | unterminated (mark : CodePoint) (line : Nat)
  /-- A bracket is not closed. -/
  | unclosed (opener : CodePoint) (line : Nat)
  /-- The last statement is not terminated. -/
  | unfinished
  deriving DecidableEq, Repr

/-- A line as messages name it. -/
def lineText (line : Nat) : Text :=
  " (line " ++ natText line ++ ")"

/-- The flaw in words. -/
def Flaw.message : Flaw → Text
  | empty => "snippet is empty"
  | unmatched c line => "unmatched '" ++ [c] ++ "'" ++ lineText line
  | unterminated c line => "unterminated " ++ [c] ++ " string" ++ lineText line
  | unclosed c line => "unclosed '" ++ [c] ++ "'" ++ lineText line
  | unfinished => "last statement is not terminated with ';'"

/-- The character opens a string and closes it. -/
def isMark (c : CodePoint) : Bool :=
  c = '\'' || c = '"' || c = '`'

/-- The character is an opening bracket. -/
def isOpener (c : CodePoint) : Bool :=
  c = '(' || c = '[' || c = '{'

/-- The bracket that a closing bracket closes. -/
def openerOf? (c : CodePoint) : Option CodePoint :=
  if c = ')' then some '(' else if c = ']' then some '[' else if c = '}' then some '{' else none

/-- Where the walk is. -/
inductive ScanMode where
  /-- Outside of strings. -/
  | code
  /-- Inside of a string with a mark, opened on a line; the last character may have been a backslash
      that takes the next one with it. -/
  | string (mark : CodePoint) (line : Nat) (escaped : Bool)
  deriving DecidableEq, Repr

/-- What the walk knows. -/
structure ScanState where
  /-- Where the walk is. -/
  mode : ScanMode
  /-- The line that the walk is on. -/
  line : Nat
  /-- The brackets that are open, the innermost first. -/
  openers : List (CodePoint × Nat)
  /-- The brackets that closed nothing, the last first. -/
  unmatched : List (CodePoint × Nat)
  deriving DecidableEq, Repr

namespace ScanState

/-- The walk at the start of a snippet. -/
def start : ScanState :=
  ⟨.code, 1, [], []⟩

/-- One character outside of strings. -/
def stepCode (s : ScanState) (c : CodePoint) : ScanState :=
  if isMark c then { s with mode := .string c s.line false }
  else if isOpener c then { s with openers := (c, s.line) :: s.openers }
  else
    match openerOf? c with
    | none => s
    | some o =>
      match s.openers with
      | (p, line) :: outer =>
        if p = o then { s with openers := outer }
        else { s with openers := (p, line) :: outer, unmatched := (c, s.line) :: s.unmatched }
      | [] => { s with unmatched := (c, s.line) :: s.unmatched }

/-- One character inside of a string. -/
def stepString (s : ScanState) (mark : CodePoint) (line : Nat) (escaped : Bool) (c : CodePoint) : ScanState :=
  if escaped then { s with mode := .string mark line false }
  else if c = '\\' then { s with mode := .string mark line true }
  else if c = mark then { s with mode := .code }
  else s

/-- The line that a character is on, given the line before it. A line feed is on the next one. -/
def lineAt (line : Nat) (c : CodePoint) : Nat :=
  if c = '\n' then line + 1 else line

/-- One character. -/
def step (s : ScanState) (c : CodePoint) : ScanState :=
  let s := { s with line := lineAt s.line c }
  match s.mode with
  | .code => s.stepCode c
  | .string mark line escaped => s.stepString mark line escaped c

end ScanState

/-- The walk over a text. -/
def scan (s : ScanState) (t : Text) : ScanState :=
  t.foldl ScanState.step s

/-- The string that the walk ends in. -/
def ScanMode.flaw? : ScanMode → Option Flaw
  | code => none
  | string mark line _ => some (.unterminated mark line)

/-- The last statement of a snippet is terminated. -/
def isTerminated (t : Text) : Bool :=
  Text.endsWith ";" (Text.trimEnd t)

/-- Everything that is wrong with a snippet, in a fixed order: brackets that close nothing, the string
    that does not end, brackets that are not closed, and the end of the last statement. -/
def flaws (t : Text) : List Flaw :=
  if Text.allBlank t then [.empty]
  else
    let s := scan .start t
    s.unmatched.reverse.map (fun p => .unmatched p.1 p.2) ++ s.mode.flaw?.toList ++
      s.openers.reverse.map (fun p => .unclosed p.1 p.2) ++
      (if isTerminated t then [] else [.unfinished])

/-- The flaws of a snippet in words. -/
def flawMessages (t : Text) : List Text :=
  (flaws t).map Flaw.message

/-- Files with one more written: a new one goes last, a known one keeps its place. -/
def putFile (name content : Text) : List (Text × Text) → List (Text × Text)
  | [] => [(name, content)]
  | f :: rest => if f.1 = name then (name, content) :: rest else f :: putFile name content rest

/-- The files that have flaws, each with its flaws in words. -/
def flawedFiles (files : List (Text × Text)) : List (Text × Text) :=
  (files.filter fun f => !(flaws f.2).isEmpty).map fun f =>
    (f.1, Text.join "; " (flawMessages f.2))

end CallSnippets
