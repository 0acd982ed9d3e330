import CallSnippets.Yaml.Cursor

/-!
# Quoted scalars

A scalar between quotation marks may run over several lines. The end of a line with the blanks around
it counts as one blank, and empty lines count as ends of lines. Between single marks only the mark
itself is written specially, twice; between double marks a backslash starts an escape.

## Main definitions

* `Yaml.escapeOf?`, `Yaml.codeLength?`: The escapes.
* `Yaml.readEscape`: Reads an escape.
* `Yaml.readQuoted`: Reads a scalar up to its closing mark.
-/

namespace CallSnippets

namespace Yaml

/-- The character that a letter behind a backslash stands for. -/
def escapeOf? (c : CodePoint) : Option CodePoint :=
  let table : List (CodePoint × Nat) :=
    [('0', 0), ('a', 7), ('b', 8), ('t', 9), ('\t', 9), ('n', 10), ('v', 11), ('f', 12), ('r', 13),
      ('e', 27), (' ', 32), ('"', 34), ('\\', 92), ('/', 47), ('N', 0x85), ('_', 0xA0),
      ('L', 0x2028), ('P', 0x2029)]
  (table.lookup c).map CodePoint.ofNat

/-- How many digits follow a letter behind a backslash that starts a code. -/
def codeLength? : CodePoint → Option Nat
  | 'x' => some 2
  | 'u' => some 4
  | 'U' => some 8
  | _ => none

/-- The fault of a code that belongs to no character. -/
def codeFault (n : Nat) : Fault :=
  if n < Nat.pow 2 31 then .value "chr() arg not in range(0x110000)" else ⟨.overflow, []⟩

/-- Reads the digits of a code. Two codes for the halves of a pair stay two code points. -/
def readCode (count : Nat) (c : Cursor) : Except Failure (Text × Cursor) :=
  match Text.hexNumber? count 0 c.rest with
  | none => .error .malformed
  | some (n, _) =>
    if 0x10FFFF < n then .error (.fault (codeFault n)) else .ok ([CodePoint.ofNat n], c.skip count)

/-- Reads the empty lines and blanks behind the end of a line inside of a quoted scalar. -/
def readFoldedBreaks (fuel : Nat) (c : Cursor) : Except Failure (Text × Cursor) :=
  match fuel with
  | 0 => .ok ([], c)
  | fuel + 1 =>
    if c.atSeparator then .error .malformed
    else
      let c := c.skipWhile isSpace
      match c.takeBreak? with
      | none => .ok ([], c)
      | some (b, c) => do
        let (more, c) ← readFoldedBreaks fuel c
        return (b ++ more, c)

/-- Reads an escape from behind its backslash. -/
def readEscape (c : Cursor) : Except Failure (Text × Cursor) :=
  match c.peek with
  | none => .error .malformed
  | some ch =>
    match escapeOf? ch with
    | some e => .ok ([e], c.next)
    | none =>
      match codeLength? ch with
      | some count => readCode count c.next
      | none =>
        match c.takeBreak? with
        | some (_, c) => readFoldedBreaks (c.rest.length + 1) c
        | none => .error .malformed

/-- Reads blanks and ends of lines inside of a quoted scalar. -/
def readQuotedGap (c : Cursor) : Except Failure (Text × Cursor) :=
  let (blanks, c) := c.spanWhile isSpace
  if c.atEnd then .error .malformed
  else
    match c.takeBreak? with
    | none => .ok (blanks, c)
    | some (b, c) => do
      let (breaks, c) ← readFoldedBreaks (c.rest.length + 1) c
      return ((if b ≠ "\n" then b else if breaks.isEmpty then " " else [] : Text) ++ breaks, c)

/-- Reads a quoted scalar from behind its opening mark to behind its closing one. -/
def readQuoted (fuel : Nat) (double : Bool) (c : Cursor) : Except Failure (Text × Cursor) :=
  match fuel with
  | 0 => .error .malformed
  | fuel + 1 => do
    match c.peek with
    | none => .error .malformed
    | some ch =>
      if ch = (if double then '"' else '\'') then
        if !double && c.peekAt 1 = some '\'' then
          let (more, c) ← readQuoted fuel double (c.skip 2)
          return (ch :: more, c)
        else return ([], c.next)
      else
        let (t, c) ←
          if double && ch = '\\' then readEscape c.next
          else if isGap ch then readQuotedGap c
          else .ok ([ch], c.next)
        let (more, c) ← readQuoted fuel double c
        return (t ++ more, c)

end Yaml

end CallSnippets
