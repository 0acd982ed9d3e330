import CallSnippets.Text.Digit
import CallSnippets.Yaml.Cursor

/-!
# Scalars of lines

A scalar may consist of the lines that follow its mark, all set in by the same indent. The lines are
kept as they are, or folded: the end of a line between two that start with words counts as a blank.
An indicator behind the mark says what becomes of the ends of lines after the last word, another one
how far the lines are set in.

## Main definitions

* `Yaml.Chomping`, `Yaml.BlockHeader`: The indicators.
* `Yaml.readBlockHeader`: Reads the indicators.
* `Yaml.BlockText`, `Yaml.readBlockLines`: The lines.
* `Yaml.readBlock`: Reads a scalar of lines.
-/

namespace CallSnippets

namespace Yaml

/-- What becomes of the ends of lines after the last word. -/
inductive Chomping where
  /-- All of them are dropped. -/
  | strip
  /-- The first one is kept. -/
  | clip
  /-- All of them are kept. -/
  | keep
  deriving DecidableEq, Repr

/-- The indicators behind the mark of a scalar. -/
structure BlockHeader where
  /-- What becomes of the last ends of lines. -/
  chomping : Chomping
  /-- How far the lines are set in, if that is said. -/
  increment : Option Nat
  deriving DecidableEq, Repr

/-- The chomping that a character asks for. -/
def chompingOf? (c : Option CodePoint) : Option Chomping :=
  match c with
  | some '+' => some .keep
  | some '-' => some .strip
  | _ => none

/-- The digit that a character is, which may not be zero, and the place behind it. -/
def readIncrement (c : Cursor) : Except Failure (Option Nat × Cursor) :=
  match c.peek.bind Text.asciiDigit with
  | none => .ok (none, c)
  | some 0 => .error .malformed
  | some d => .ok (some d, c.next)

/-- Reads the indicators, in either order. -/
def readIndicators (c : Cursor) : Except Failure (BlockHeader × Cursor) := do
  match chompingOf? c.peek with
  | some chomping =>
    let (increment, c) ← readIncrement c.next
    return (⟨chomping, increment⟩, c)
  | none =>
    let (increment, c) ← readIncrement c
    match increment, chompingOf? c.peek with
    | some d, some chomping => return (⟨chomping, some d⟩, c.next)
    | increment, _ => return (⟨.clip, increment⟩, c)

/-- The place behind the rest of a line that may hold blanks and a remark. -/
def skipLineRest (c : Cursor) : Except Failure Cursor :=
  let c := c.skipBlanks.skipRemark
  if c.atEnd then .ok c
  else
    match c.takeBreak? with
    | some (_, c) => .ok c
    | none => .error .malformed

/-- Reads the indicators and the rest of their line. -/
def readBlockHeader (c : Cursor) : Except Failure (BlockHeader × Cursor) := do
  let (header, c) ← readIndicators c
  if !endOr (fun ch => ch = ' ' || isBreak ch) c.peek then .error .malformed
  else return (header, ← skipLineRest c)

/-- The empty lines before the first word, and how far the furthest of them is set in. -/
def leadingLines (fuel : Nat) (furthest : Nat) (c : Cursor) : Text × Nat × Cursor :=
  match fuel with
  | 0 => ([], furthest, c)
  | fuel + 1 =>
    if c.peek = some ' ' then
      let c := c.next
      leadingLines fuel (max furthest c.column) c
    else
      match c.takeBreak? with
      | none => ([], furthest, c)
      | some (b, c) =>
        let (more, furthest, c) := leadingLines fuel furthest c
        (b ++ more, furthest, c)

/-- The place behind blanks, up to a column. -/
def skipIndent (fuel : Nat) (indent : Nat) (c : Cursor) : Cursor :=
  match fuel with
  | 0 => c
  | fuel + 1 =>
    if c.column < indent && c.peek = some ' ' then skipIndent fuel indent c.next else c

/-- The empty lines from here on, and the place where the next line with words starts. -/
def emptyLines (fuel : Nat) (indent : Nat) (c : Cursor) : Text × Cursor :=
  let c := skipIndent indent indent c
  match fuel with
  | 0 => ([], c)
  | fuel + 1 =>
    match c.takeBreak? with
    | none => ([], c)
    | some (b, c) =>
      let (more, c) := emptyLines fuel indent c
      (b ++ more, c)

/-- The lines of a scalar. -/
structure BlockText where
  /-- The text up to the last word. -/
  text : Text
  /-- The end of the last line with words. -/
  lastBreak : Text
  /-- The ends of the empty lines behind it. -/
  breaks : Text
  /-- The place behind them. -/
  cursor : Cursor

/-- A line of the scalar starts here. -/
def atBlockLine (indent : Nat) (c : Cursor) : Bool :=
  c.column = indent && !c.atEnd

/-- The line that starts here starts with a word. -/
def startsWithWord (c : Cursor) : Bool :=
  !(c.peek.any isSpace)

/-- Reads the lines of a scalar, given the ends of the empty lines before the first of them. -/
def readBlockLines (fuel : Nat) (folded : Bool) (indent : Nat) (breaks : Text) (c : Cursor) :
    BlockText :=
  match fuel with
  | 0 => ⟨[], [], breaks, c⟩
  | fuel + 1 =>
    if !atBlockLine indent c then ⟨[], [], breaks, c⟩
    else
      let word := startsWithWord c
      let (line, c) := c.spanWhile (!isBreak ·)
      let (lastBreak, c) := c.takeBreak?.getD ([], c)
      let (between, c) := emptyLines (c.rest.length + 1) indent c
      if !atBlockLine indent c then ⟨breaks ++ line, lastBreak, between, c⟩
      else
        let joint : Text :=
          if folded && lastBreak = "\n" && word && startsWithWord c then
            if between.isEmpty then " " else []
          else lastBreak
        let more := readBlockLines fuel folded indent between c
        { more with text := breaks ++ line ++ joint ++ more.text }

/-- The text of a scalar with its last ends of lines. -/
def BlockText.chomped (b : BlockText) : Chomping → Text
  | .strip => b.text
  | .clip => b.text ++ b.lastBreak
  | .keep => b.text ++ b.lastBreak ++ b.breaks

/-- Reads a scalar of lines from behind its mark, inside of lines that are set in by an indent. -/
def readBlock (folded : Bool) (indent : Int) (c : Cursor) : Except Failure (Text × Cursor) := do
  let (header, c) ← readBlockHeader c
  let least := (max 1 (indent + 1)).toNat
  let (breaks, indent, c) :=
    match header.increment with
    | none =>
      let (breaks, furthest, c) := leadingLines (c.rest.length + 1) 0 c
      (breaks, max least furthest, c)
    | some n =>
      let indent := least + n - 1
      let (breaks, c) := emptyLines (c.rest.length + 1) indent c
      (breaks, indent, c)
  let b := readBlockLines (c.rest.length + 1) folded indent breaks c
  return (b.chomped header.chomping, b.cursor)

end Yaml

end CallSnippets
