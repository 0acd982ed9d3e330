import CallSnippets.Fault
import CallSnippets.Text.Code

/-!
# Places in a document

A document is read from left to right. A cursor holds the rest of the document together with its
place, for the place decides what the rest means: the column of a line says where it belongs, and
what stands on an earlier line is settled.

## Main definitions

* `Yaml.Failure`: Why a document cannot be read.
* `Yaml.isBreak`, `Yaml.isGap`: The characters that end lines and words.
* `Yaml.Cursor`: A place in a document with the rest from there.
* `Cursor.next`, `Cursor.skip`: Moving on.
* `Cursor.takeBreak?`: The end of a line.
-/

namespace CallSnippets

namespace Yaml

/-- Why a document cannot be read. -/
inductive Failure where
  /-- It does not keep to the grammar, or says something that has no meaning. -/
  | malformed
  /-- A value in it leads to a fault. -/
  | fault (f : Fault)
  deriving DecidableEq, Repr

/-- The character ends a line. -/
def isBreak (c : CodePoint) : Bool :=
  c = '\n' || c = '\r' || c.toNat = 0x85 || c.toNat = 0x2028 || c.toNat = 0x2029

/-- The character is a blank or a tab. -/
def isSpace (c : CodePoint) : Bool :=
  c = ' ' || c = '\t'

/-- The character ends a word: it is a blank, a tab or the end of a line. -/
def isGap (c : CodePoint) : Bool :=
  isSpace c || isBreak c

/-- Whether a test holds for the next character, where the end of the document counts as passing. -/
def endOr (test : CodePoint → Bool) (c : Option CodePoint) : Bool :=
  match c with
  | none => true
  | some c => test c

/-- A place in a document with the rest from there. -/
structure Cursor where
  /-- The rest of the document. -/
  rest : Text
  /-- How many characters come before. -/
  index : Nat
  /-- How many lines come before. -/
  line : Nat
  /-- How many characters of the line come before. -/
  column : Nat
  deriving DecidableEq, Repr

namespace Cursor

/-- The start of a document. -/
def start (t : Text) : Cursor :=
  ⟨t, 0, 0, 0⟩

/-- The next character. -/
def peek (c : Cursor) : Option CodePoint :=
  c.rest.head?

/-- The character after some others. -/
def peekAt (c : Cursor) (n : Nat) : Option CodePoint :=
  c.rest[n]?

/-- The document is at its end. -/
def atEnd (c : Cursor) : Bool :=
  c.rest.isEmpty

/-- The place behind the next character. A byte order mark takes no column. -/
def next (c : Cursor) : Cursor :=
  match c.rest with
  | [] => c
  | ch :: rest =>
    if isBreak ch && !(ch = '\r' && rest.head? = some '\n') then ⟨rest, c.index + 1, c.line + 1, 0⟩
    else if ch = Text.byteOrderMark then ⟨rest, c.index + 1, c.line, c.column⟩
    else ⟨rest, c.index + 1, c.line, c.column + 1⟩

/-- The place behind a count of characters. -/
def skip : Nat → Cursor → Cursor
  | 0, c => c
  | n + 1, c => skip n c.next

/-- The characters from here on that pass a test, and the place behind them. -/
def spanWhile (test : CodePoint → Bool) (c : Cursor) : Text × Cursor :=
  let t := c.rest.takeWhile test
  (t, c.skip t.length)

/-- The place behind the characters that pass a test. -/
def skipWhile (test : CodePoint → Bool) (c : Cursor) : Cursor :=
  (c.spanWhile test).2

/-- The place behind blanks. -/
def skipBlanks (c : Cursor) : Cursor :=
  c.skipWhile (· = ' ')

/-- The place behind a remark up to the end of its line, if one starts here. -/
def skipRemark (c : Cursor) : Cursor :=
  if c.peek = some '#' then c.skipWhile (!isBreak ·) else c

/-- The end of a line, if it is here, with the text that it stands for and the place behind it. -/
def takeBreak? (c : Cursor) : Option (Text × Cursor) :=
  match c.rest with
  | '\r' :: '\n' :: _ => some (['\n'], c.skip 2)
  | ch :: _ =>
    if isBreak ch then
      some (if ch.toNat = 0x2028 ∨ ch.toNat = 0x2029 then [ch] else ['\n'], c.next)
    else none
  | [] => none

/-- A line that separates documents starts here with one of the given characters three times. -/
def atMarker (marker : CodePoint) (c : Cursor) : Bool :=
  c.rest.take 3 = [marker, marker, marker] && endOr isGap (c.peekAt 3)

/-- A line that separates documents starts here. -/
def atSeparator (c : Cursor) : Bool :=
  c.atMarker '-' || c.atMarker '.'

end Cursor

end Yaml

end CallSnippets
