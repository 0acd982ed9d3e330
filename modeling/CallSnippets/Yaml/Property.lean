import CallSnippets.Number.Decimal
import CallSnippets.Text.Encoding
import CallSnippets.Yaml.Scalar.Block
import CallSnippets.Yaml.Token

/-!
# Anchors, tags and directives

A node may carry a name and a tag. A tag is written with a handle, which stands for its start, or in
full between angle brackets; characters that cannot stand in it are given by their bytes. Directives
say at the start of a document what its handles stand for.

## Main definitions

* `Yaml.readAnchorName`: Reads the name of a node.
* `Yaml.readUri`: Reads the characters of a tag.
* `Yaml.readTag`: Reads a tag.
* `Yaml.readDirective`: Reads a directive.
-/

namespace CallSnippets

namespace Yaml

/-- The character is a letter, a digit, a hyphen or a low line of ASCII. -/
def isNameChar (c : CodePoint) : Bool :=
  ('0' ≤ c && c ≤ '9') || ('A' ≤ c && c ≤ 'Z') || ('a' ≤ c && c ≤ 'z') || c = '-' || c = '_'

/-- The characters that the name of a node may be followed by, apart from gaps. -/
def followsAnchor (c : CodePoint) : Bool :=
  isGap c || c = '?' || c = ':' || c = ',' || c = ']' || c = '}' || c = '%' || c = '@' || c = '`'

/-- Reads the name of a node from behind its mark. -/
def readAnchorName (c : Cursor) : Except Failure (Text × Cursor) :=
  let (name, c) := c.spanWhile isNameChar
  if name.isEmpty || !endOr followsAnchor c.peek then .error .malformed else .ok (name, c)

/-- The characters that may stand in a tag as they are. -/
def isUriChar (c : CodePoint) : Bool :=
  isNameChar c || ("-;/?:@&=+$,_.!~*'()[]" : Text).contains c

/-- The bytes that are given by a percent sign and two digits each, and what follows them. -/
def uriBytes (fuel : Nat) (t : Text) : Option (List UInt8 × Text) :=
  match fuel, t with
  | fuel + 1, '%' :: rest =>
    match Text.hexNumber? 2 0 rest with
    | some (n, rest) => (uriBytes fuel rest).map fun p => (n.toUInt8 :: p.1, p.2)
    | none => none
  | _, t => some ([], t)

/-- The characters of a tag at the start of a text, and what follows them. -/
def uriChars (fuel : Nat) (t : Text) : Option (Text × Text) :=
  match fuel, t with
  | 0, t => some ([], t)
  | _ + 1, [] => some ([], [])
  | fuel + 1, c :: rest =>
    if c = '%' then
      match uriBytes (c :: rest).length (c :: rest) with
      | none => none
      | some (bytes, after) =>
        match Text.decode? ⟨bytes.toArray⟩ with
        | none => none
        | some decoded => (uriChars fuel after).map fun p => (decoded ++ p.1, p.2)
    else if isUriChar c then (uriChars fuel rest).map fun p => (c :: p.1, p.2)
    else some ([], c :: rest)

/-- Reads the characters of a tag, of which there must be some. -/
def readUri (c : Cursor) : Except Failure (Text × Cursor) :=
  match uriChars (c.rest.length + 1) c.rest with
  | none => .error .malformed
  | some (uri, after) =>
    let taken := c.rest.length - after.length
    if taken = 0 then .error .malformed else .ok (uri, c.skip taken)

/-- Reads a handle: a mark alone, or a name between two marks. -/
def readHandle (c : Cursor) : Except Failure (Text × Cursor) :=
  if c.peek ≠ some '!' then .error .malformed
  else if c.peekAt 1 = some ' ' then .ok (['!'], c.next)
  else
    let (name, c) := c.next.spanWhile isNameChar
    if c.peek = some '!' then .ok ("!" ++ name ++ "!", c.next) else .error .malformed

/-- The character is a blank or the end of a line. -/
def isBlankOrBreak (c : CodePoint) : Bool :=
  c = ' ' || isBreak c

/-- Another mark follows in the same word. -/
def hasSecondMark (t : Text) : Bool :=
  (t.takeWhile (!isBlankOrBreak ·)).contains '!'

/-- Reads the parts of a tag from its mark on. -/
def readTagParts (c : Cursor) : Except Failure (Option Text × Text × Cursor) :=
  match c.peekAt 1 with
  | some '<' => do
    let (uri, c) ← readUri (c.skip 2)
    if c.peek = some '>' then return (none, uri, c.next) else .error .malformed
  | next =>
    if endOr isGap next then .ok (none, ['!'], c.next)
    else do
      let (handle, c) ← if hasSecondMark c.next.rest then readHandle c else .ok (['!'], c.next)
      let (suffix, c) ← readUri c
      return (some handle, suffix, c)

/-- Reads a tag from its mark on. -/
def readTag (c : Cursor) : Except Failure (Token × Cursor) := do
  let (handle, suffix, c) ← readTagParts c
  if endOr isBlankOrBreak c.peek then return (.tag handle suffix, c) else .error .malformed

/-- Reads one of the numbers of a version. -/
def readVersionNumber (c : Cursor) : Except Failure (Nat × Cursor) :=
  let (digits, c) := c.spanWhile Text.isAsciiDigit
  if digits.isEmpty then .error .malformed
  else if digitLimit < digits.length then .error (.fault (.tooManyDigitsToRead digits.length))
  else .ok (ofDigits 10 (digits.map fun d => d.toNat - 48), c)

/-- Reads the version that a directive names. -/
def readVersion (c : Cursor) : Except Failure (Directive × Cursor) := do
  let (major, c) ← readVersionNumber c.skipBlanks
  if c.peek ≠ some '.' then .error .malformed
  let (_, c) ← readVersionNumber c.next
  if endOr isBlankOrBreak c.peek then return (.version major, c) else .error .malformed

/-- Reads the handle that a directive names, and what it stands for. -/
def readHandleMeaning (c : Cursor) : Except Failure (Directive × Cursor) := do
  let (handle, c) ← readHandle c.skipBlanks
  if c.peek ≠ some ' ' then .error .malformed
  let (start, c) ← readUri c.skipBlanks
  if endOr isBlankOrBreak c.peek then return (.handle handle start, c) else .error .malformed

/-- Reads a directive from its mark on to the end of its line. -/
def readDirective (c : Cursor) : Except Failure (Token × Cursor) := do
  let (name, c) := c.next.spanWhile isNameChar
  if name.isEmpty || !endOr isBlankOrBreak c.peek then .error .malformed
  let (d, c) ←
    if name = "YAML" then readVersion c
    else if name = "TAG" then readHandleMeaning c
    else .ok (.other, c.skipWhile (!isBreak ·))
  return (.directive d, ← skipLineRest c)

end Yaml

end CallSnippets
