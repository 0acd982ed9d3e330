import CallSnippets.Yaml.Property
import CallSnippets.Yaml.Scalar.Plain
import CallSnippets.Yaml.Scalar.Quoted

/-!
# The tokens of a document

The tokens are found from left to right, with two things that reach back. A mapping is announced by
the colon behind its first key, so every place where a key could start is remembered until a colon
follows it or its line ends; the tokens that say so are then put in front of what stands there. And a
line that is set in less than those before it closes the collections that were set in further.

A token in front of which something may still be put is not settled. Where the document cannot be
read on, the tokens that are settled are answered with the failure that follows them.

## Main definitions

* `Yaml.KeyPlace`: A place where a key could start.
* `Yaml.Scan`: What is known on the way.
* `Scan.step`: Finds the next token.
* `Yaml.Tokens`, `Yaml.tokensOf`: The tokens of a document.
-/

namespace CallSnippets

namespace Yaml

/-- A place where a key could start. -/
structure KeyPlace where
  /-- How many tokens come before. -/
  position : Nat
  /-- Nothing but a key can stand there. -/
  required : Bool
  /-- Where it is. -/
  cursor : Cursor

/-- What is known on the way through a document. -/
structure Scan where
  /-- The place that was reached. -/
  cursor : Cursor
  /-- How far the lines around are set in, or -1 outside of collections. -/
  indent : Int
  /-- The same for the collections further out. -/
  outer : List Int
  /-- The place where a key could start, for the innermost brackets, then for those around them, and
      last for the lines. -/
  keys : List (Option KeyPlace)
  /-- A key could start here. -/
  allowKey : Bool
  /-- The tokens found so far, the last one first. -/
  found : List Token

namespace Scan

/-- The start of a document. -/
def start (t : Text) : Scan :=
  ⟨.start t, -1, [], [none], true, []⟩

/-- The place is inside of brackets. -/
def inFlow (s : Scan) : Bool :=
  1 < s.keys.length

/-- One more token. -/
def add (token : Token) (s : Scan) : Scan :=
  { s with found := token :: s.found }

/-- One more token in front of those from a position on. -/
def insertAt (position : Nat) (token : Token) (s : Scan) : Scan :=
  let behind := s.found.length - position
  { s with found := s.found.take behind ++ token :: s.found.drop behind }

/-- Sets the place where a key could start inside of the innermost brackets. -/
def setKey (key : Option KeyPlace) (s : Scan) : Scan :=
  { s with keys := key :: s.keys.drop 1 }

/-- The place where a key could start inside of the innermost brackets. -/
def key? (s : Scan) : Option KeyPlace :=
  (s.keys.head?).join

/-- The place can no longer be that of a key. -/
def isStale (s : Scan) (key : KeyPlace) : Bool :=
  key.cursor.line ≠ s.cursor.line || 1024 < s.cursor.index - key.cursor.index

/-- Drops the places that can no longer be those of keys. One that has to be is a failure. -/
def dropStale (s : Scan) : Except Failure Scan :=
  if s.keys.any fun k => k.any fun k => s.isStale k && k.required then .error .malformed
  else .ok { s with keys := s.keys.map fun k => k.filter fun k => !s.isStale k }

/-- Gives up the place where a key could start. One that has to be is a failure. -/
def dropKey (s : Scan) : Except Failure Scan :=
  if s.key?.any fun k => k.required then .error .malformed else .ok (s.setKey none)

/-- Remembers that a key could start here. -/
def saveKey (s : Scan) : Except Failure Scan :=
  if !s.allowKey then .ok s
  else do
    let required := !s.inFlow && s.indent = s.cursor.column
    let s ← s.dropKey
    return s.setKey (some ⟨s.found.length, required, s.cursor⟩)

/-- Closes the collections that are set in further than a column. -/
def closeFurther (column : Int) (s : Scan) : List Int → Scan
  | [] => s
  | out :: rest =>
    if s.indent ≤ column then s
    else closeFurther column { (s.add .blockEnd) with indent := out, outer := rest } rest

/-- Closes the collections that end where the next token stands in a column. -/
def close (column : Int) (s : Scan) : Scan :=
  if s.inFlow then s else closeFurther column s s.outer

/-- Whether a collection starts with a token in a column, and what is known then. -/
def openAt (column : Int) (s : Scan) : Bool × Scan :=
  if s.indent < column then
    (true, { s with indent := column, outer := s.indent :: s.outer })
  else (false, s)

/-- Moves on to the next token. Behind the end of a line a key could start. -/
def skipGap (fuel : Nat) (s : Scan) : Scan :=
  match fuel with
  | 0 => s
  | fuel + 1 =>
    let c := s.cursor.skipBlanks.skipRemark
    match c.takeBreak? with
    | none => { s with cursor := c }
    | some (_, c) => skipGap fuel { s with cursor := c, allowKey := s.allowKey || !s.inFlow }

/-- Moves on to the next token, over a byte order mark at the start. -/
def toNextToken (s : Scan) : Scan :=
  let c := s.cursor
  let c := if c.index = 0 && c.peek = some Text.byteOrderMark then c.next else c
  skipGap (c.rest.length + 1) { s with cursor := c }

/-- The place behind a count of characters. -/
def skip (n : Nat) (s : Scan) : Scan :=
  { s with cursor := s.cursor.skip n }

/-- The end of the document. -/
def finish (s : Scan) : Except Failure Scan := do
  let s ← (s.close (-1)).dropKey
  return s.add .streamEnd

/-- A directive. -/
def directive (s : Scan) : Except Failure Scan := do
  let s ← (s.close (-1)).dropKey
  let (token, c) ← readDirective s.cursor
  return { (s.add token) with allowKey := false, cursor := c }

/-- A line that separates documents. -/
def separator (token : Token) (s : Scan) : Except Failure Scan := do
  let s ← (s.close (-1)).dropKey
  return { ((s.skip 3).add token) with allowKey := false }

/-- An opening bracket. -/
def flowStart (token : Token) (s : Scan) : Except Failure Scan := do
  let s ← s.saveKey
  return { ((s.skip 1).add token) with allowKey := true, keys := none :: s.keys }

/-- A closing bracket, which has to be inside of brackets. -/
def flowEnd (token : Token) (s : Scan) : Except Failure Scan := do
  let s ← s.dropKey
  if !s.inFlow then .error .malformed
  else return { ((s.skip 1).add token) with allowKey := false, keys := s.keys.drop 1 }

/-- A comma inside of brackets. -/
def flowEntry (s : Scan) : Except Failure Scan := do
  let s ← s.dropKey
  return { ((s.skip 1).add .flowEntry) with allowKey := true }

/-- A mark at the start of a line that may open a collection of lines. -/
def openLines (opening : Token) (s : Scan) : Except Failure Scan :=
  if s.inFlow then .ok s
  else if !s.allowKey then .error .malformed
  else
    let (opened, s) := s.openAt s.cursor.column
    .ok (if opened then s.add opening else s)

/-- A hyphen before an item. -/
def blockEntry (s : Scan) : Except Failure Scan := do
  let s ← s.openLines .blockListStart
  let s ← s.dropKey
  return { ((s.skip 1).add .blockEntry) with allowKey := true }

/-- A question mark before a key. -/
def keyMark (s : Scan) : Except Failure Scan := do
  let s ← s.openLines .blockMapStart
  let s ← s.dropKey
  return { ((s.skip 1).add .key) with allowKey := !s.inFlow }

/-- A colon before a value. If a key could have started before it, it did. -/
def valueMark (s : Scan) : Except Failure Scan := do
  match s.key? with
  | some key =>
    let s := (s.setKey none).insertAt key.position .key
    let (opened, s) := if s.inFlow then (false, s) else s.openAt key.cursor.column
    let s := if opened then s.insertAt key.position .blockMapStart else s
    return { ((s.skip 1).add .value) with allowKey := false }
  | none =>
    let s ← s.openLines .blockMapStart
    let s ← s.dropKey
    return { ((s.skip 1).add .value) with allowKey := !s.inFlow }

/-- The mark of a name with the name behind it. -/
def anchor (token : Text → Token) (s : Scan) : Except Failure Scan := do
  let s ← s.saveKey
  let (name, c) ← readAnchorName s.cursor.next
  return { (s.add (token name)) with allowKey := false, cursor := c }

/-- A tag. -/
def tag (s : Scan) : Except Failure Scan := do
  let s ← s.saveKey
  let (token, c) ← readTag s.cursor
  return { (s.add token) with allowKey := false, cursor := c }

/-- A scalar of lines. -/
def block (folded : Bool) (s : Scan) : Except Failure Scan := do
  let s ← s.dropKey
  let (t, c) ← readBlock folded s.indent s.cursor.next
  return { (s.add (.scalar t false)) with allowKey := true, cursor := c }

/-- A quoted scalar. -/
def quoted (double : Bool) (s : Scan) : Except Failure Scan := do
  let s ← s.saveKey
  let c := s.cursor.next
  let (t, c) ← readQuoted (c.rest.length + 1) double c
  return { (s.add (.scalar t false)) with allowKey := false, cursor := c }

/-- A plain scalar. -/
def plain (s : Scan) : Except Failure Scan := do
  let s ← s.saveKey
  let p := readPlain s.inFlow s.indent s.cursor
  return { (s.add (.scalar p.text true)) with allowKey := p.endsLine, cursor := p.cursor }

/-- The characters that start something else than a plain scalar. -/
def isIndicator (c : CodePoint) : Bool :=
  ("-?:,[]\x7b\x7d#&*!|>'\"%@" : Text).contains c || c = '`'

/-- A plain scalar starts with a character that another one follows. -/
def startsPlain (inFlow : Bool) (c : CodePoint) (next : Option CodePoint) : Bool :=
  (!isGap c && !isIndicator c) ||
    (!endOr isGap next && (c = '-' || (!inFlow && (c = '?' || c = ':'))))

/-- Finds the next token, given the character that it starts with. -/
def token (s : Scan) (ch : CodePoint) : Except Failure Scan :=
  let c := s.cursor
  let next := c.peekAt 1
  let beforeGap := endOr isGap next
  if ch = '%' && c.column = 0 then s.directive
  else if c.column = 0 && c.atMarker '-' then s.separator .documentStart
  else if c.column = 0 && c.atMarker '.' then s.separator .documentEnd
  else if ch = '[' then s.flowStart .flowListStart
  else if ch = '{' then s.flowStart .flowMapStart
  else if ch = ']' then s.flowEnd .flowListEnd
  else if ch = '}' then s.flowEnd .flowMapEnd
  else if ch = ',' then s.flowEntry
  else if ch = '-' && beforeGap then s.blockEntry
  else if ch = '?' && (s.inFlow || beforeGap) then s.keyMark
  else if ch = ':' && (s.inFlow || beforeGap) then s.valueMark
  else if ch = '*' then s.anchor .alias
  else if ch = '&' then s.anchor .anchor
  else if ch = '!' then s.tag
  else if ch = '|' && !s.inFlow then s.block false
  else if ch = '>' && !s.inFlow then s.block true
  else if ch = '\'' then s.quoted false
  else if ch = '"' then s.quoted true
  else if startsPlain s.inFlow ch next then s.plain
  else .error .malformed

/-- Finds the next token, with those that close collections before it. -/
def step (s : Scan) : Except Failure Scan := do
  let s ← s.toNextToken.dropStale
  let s := s.close s.cursor.column
  match s.cursor.peek with
  | none => s.finish
  | some ch => s.token ch

/-- The last token has been found. -/
def isDone (s : Scan) : Bool :=
  s.found.head? = some .streamEnd

/-- The tokens in front of which nothing can be put any more. -/
def settled (s : Scan) : List Token :=
  let open_ := s.keys.filterMap fun k => k.filter fun k => !s.isStale k
  let first := open_.foldl (fun n k => min n k.position) s.found.length
  s.found.reverse.take first

end Scan

/-- The tokens of a document, up to a failure if there is one. -/
structure Tokens where
  /-- The tokens. -/
  tokens : List Token
  /-- What follows them if they do not end. -/
  failure : Failure

/-- The tokens from a place on, each found in one step. -/
def tokensFrom (fuel : Nat) (s : Scan) : Tokens :=
  match fuel with
  | 0 => ⟨s.settled, .malformed⟩
  | fuel + 1 =>
    match s.step with
    | .error failure => ⟨s.settled, failure⟩
    | .ok s => if s.isDone then ⟨s.found.reverse, .malformed⟩ else tokensFrom fuel s

/-- The character may stand in a document. -/
def isAllowed (c : CodePoint) : Bool :=
  let n := c.toNat
  n = 0x09 || n = 0x0A || n = 0x0D || (0x20 ≤ n && n ≤ 0x7E) || n = 0x85 ||
    (0xA0 ≤ n && n ≤ 0xD7FF) || (0xE000 ≤ n && n ≤ 0xFFFD) || 0x10000 ≤ n

/-- The tokens of a document. Every step takes at least one character, so their count bounds the
    steps. -/
def tokensOf (t : Text) : Tokens :=
  if t.all isAllowed then tokensFrom (t.length + 2) (.start t) else ⟨[], .malformed⟩

end Yaml

end CallSnippets
