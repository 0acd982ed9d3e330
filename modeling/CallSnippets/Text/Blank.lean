import CallSnippets.Text.Basic

/-!
# Blank characters

The white space that is cut off at the ends of a method, a body or a language name, and that may
stand between a key and its colon. It is the Unicode white space together with the four separator
controls from U+001C to U+001F; the zero-width space and the byte order mark are not in it.

## Main definitions

* `isBlank`: The character is white space.
* `isSpace`, `trimSpace`: The same without the four controls, as it goes for numbers.
* `trimStart`, `trimEnd`, `trim`: A text without the white space at its ends.
* `allBlank`: Nothing is left of the text once it is trimmed.
-/

namespace CallSnippets

namespace Text

/-- The character is white space. -/
def isBlank (c : CodePoint) : Bool :=
  let n := c.toNat
  (0x09 ≤ n && n ≤ 0x0D) || (0x1C ≤ n && n ≤ 0x20) || n == 0x85 || n == 0xA0 || n == 0x1680 ||
    (0x2000 ≤ n && n ≤ 0x200A) || n == 0x2028 || n == 0x2029 || n == 0x202F || n == 0x205F ||
    n == 0x3000

/-- The character is white space to Unicode, which the four separator controls are not. -/
def isSpace (c : CodePoint) : Bool :=
  isBlank c && !(0x1C ≤ c.toNat && c.toNat ≤ 0x1F)

/-- The text without its leading white space. -/
def trimStart (t : Text) : Text :=
  t.dropWhile isBlank

/-- The text without its trailing white space. -/
def trimEnd (t : Text) : Text :=
  (t.reverse.dropWhile isBlank).reverse

/-- The text without the white space at either end. -/
def trim (t : Text) : Text :=
  trimEnd (trimStart t)

/-- The text without the characters at either end that are white space to Unicode. -/
def trimSpace (t : Text) : Text :=
  ((t.dropWhile isSpace).reverse.dropWhile isSpace).reverse

/-- The text has no other characters than white space. -/
def allBlank (t : Text) : Bool :=
  t.all isBlank

end Text

end CallSnippets
