import CallSnippets.Text.Quoted

/-!
# Texts as bytes

Files hold bytes. A file is read as UTF-8, and every way to end a line (a line feed, a carriage
return, or both) becomes a line feed; a text is written as UTF-8 without any change to its lines.
The halves of pairs have no bytes, so a text that holds one cannot be written.

## Main definitions

* `unifyLines`: Every end of a line turned into a line feed.
* `ofBytes?`: The text of a file, if its bytes are UTF-8.
* `toString?`: The string of a text, if it has no halves of pairs.
* `toBytes?`: The bytes of a text, if it has any.
* `escapeHalves`: A text with the halves of pairs written as escapes.
* `replaceHalves`: A text with the mark for what cannot be read in place of the halves of pairs.
-/

namespace CallSnippets

namespace Text

/-- Every end of a line turned into a line feed. -/
def unifyLines : Text → Text
  | [] => []
  | '\r' :: '\n' :: rest => '\n' :: unifyLines rest
  | c :: rest => (if c = '\r' then '\n' else c) :: unifyLines rest

/-- The characters that bytes encode, if they are UTF-8. -/
def decode? (bytes : ByteArray) : Option Text :=
  (String.fromUTF8? bytes).map ofString

/-- The text of a file, if its bytes are UTF-8. -/
def ofBytes? (bytes : ByteArray) : Option Text :=
  (decode? bytes).map unifyLines

/-- The character that a code point is, unless it is a half of a pair. -/
def toChar? : CodePoint → Option Char
  | .char c => some c
  | .half _ => none

/-- The string of a text, if it has no halves of pairs. -/
def toString? (t : Text) : Option String :=
  (t.mapM toChar?).map String.ofList

/-- The bytes of a text, if it has no halves of pairs. -/
def toBytes? (t : Text) : Option ByteArray :=
  (toString? t).map String.toUTF8

/-- A half of a pair as an escape, and a character as it is. -/
def escapeHalf (c : CodePoint) : Text :=
  if c.isHalf then codeEscape c.toNat else [c]

/-- The text with the halves of pairs written as escapes, so that it has bytes. -/
def escapeHalves (t : Text) : Text :=
  t.flatMap escapeHalf

/-- The mark for a byte that cannot be read. -/
def replacementMark : CodePoint := CodePoint.ofNat 0xFFFD

/-- The text with the mark for what cannot be read in place of each of the three bytes that a half of a
    pair would take. -/
def replaceHalves (t : Text) : Text :=
  t.flatMap fun c => if c.isHalf then repeated 3 replacementMark else [c]

end Text

end CallSnippets
