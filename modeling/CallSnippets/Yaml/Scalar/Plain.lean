import CallSnippets.Yaml.Cursor

/-!
# Plain scalars

A scalar without quotation marks goes on until something ends it: a colon or a remark behind a blank,
a line that is set in no further than the lines around it, and inside of brackets the marks that
brackets and entries are made of. Ends of lines inside of it are folded as in quoted scalars.

## Main definitions

* `Yaml.plainRun`: The characters up to the next blank or mark.
* `Yaml.PlainGap`, `Yaml.plainGap`: The blanks and ends of lines behind them.
* `Yaml.PlainScalar`, `Yaml.readPlain`: A whole scalar.
-/

namespace CallSnippets

namespace Yaml

/-- The characters that end a plain scalar inside of brackets. -/
def endsInFlow (c : CodePoint) : Bool :=
  c = ',' || c = '?' || c = '[' || c = ']' || c = '{' || c = '}'

/-- The characters that a colon inside of brackets may be followed by, if it ends a key. -/
def endsFlowKey (c : CodePoint) : Bool :=
  c = ',' || c = '[' || c = ']' || c = '{' || c = '}'

/-- The characters of a plain scalar up to the next blank or mark. -/
def plainRun (inFlow : Bool) : Text → Text
  | [] => []
  | c :: rest =>
    if isGap c then []
    else if c = ':' && endOr (fun d => isGap d || (inFlow && endsFlowKey d)) rest.head? then []
    else if inFlow && endsInFlow c then []
    else c :: plainRun inFlow rest

/-- What stands between two runs of a plain scalar. -/
structure PlainGap where
  /-- The text that it stands for, unless the scalar ends here. -/
  text : Option Text
  /-- A line has ended in it. -/
  endsLine : Bool
  /-- The place behind it. -/
  cursor : Cursor

/-- The empty lines and blanks behind the end of a line, and whether a line that separates documents
    follows one of them. -/
def plainBreaks (fuel : Nat) (c : Cursor) : Option Text × Cursor :=
  match fuel with
  | 0 => (some [], c)
  | fuel + 1 =>
    if c.peek = some ' ' then plainBreaks fuel c.next
    else
      match c.takeBreak? with
      | none => (some [], c)
      | some (b, c) =>
        if c.atSeparator then (none, c)
        else
          let (more, c) := plainBreaks fuel c
          (more.map (b ++ ·), c)

/-- The blanks and ends of lines behind a run of a plain scalar. -/
def plainGap (c : Cursor) : PlainGap :=
  let (blanks, c) := c.spanWhile (· = ' ')
  match c.takeBreak? with
  | none => ⟨if blanks.isEmpty then none else some blanks, false, c⟩
  | some (b, c) =>
    if c.atSeparator then ⟨none, true, c⟩
    else
      match plainBreaks (c.rest.length + 1) c with
      | (none, c) => ⟨none, true, c⟩
      | (some breaks, c) =>
        ⟨some ((if b ≠ "\n" then b else if breaks.isEmpty then " " else [] : Text) ++ breaks), true, c⟩

/-- A plain scalar that was read. -/
structure PlainScalar where
  /-- The text of the scalar. -/
  text : Text
  /-- A line has ended behind its last character. -/
  endsLine : Bool
  /-- The place behind it. -/
  cursor : Cursor

/-- Reads runs of a plain scalar that goes on only in the given column or further right. -/
def readRuns (fuel : Nat) (inFlow : Bool) (least : Int) (gap : Text) (endsLine : Bool)
    (c : Cursor) : PlainScalar :=
  match fuel with
  | 0 => ⟨[], endsLine, c⟩
  | fuel + 1 =>
    let run := plainRun inFlow c.rest
    if c.peek = some '#' || run.isEmpty then ⟨[], endsLine, c⟩
    else
      let g := plainGap (c.skip run.length)
      match g.text with
      | none => ⟨gap ++ run, g.endsLine, g.cursor⟩
      | some t =>
        if g.cursor.peek = some '#' || (!inFlow && (g.cursor.column : Int) < least) then
          ⟨gap ++ run, g.endsLine, g.cursor⟩
        else
          let more := readRuns fuel inFlow least t g.endsLine g.cursor
          ⟨gap ++ run ++ more.text, more.endsLine, more.cursor⟩

/-- Reads a plain scalar inside of lines that are set in by the given indent. -/
def readPlain (inFlow : Bool) (indent : Int) (c : Cursor) : PlainScalar :=
  readRuns (c.rest.length + 1) inFlow (indent + 1) [] false c

end Yaml

end CallSnippets
