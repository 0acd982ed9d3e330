import CallSnippets.Text.Basic
import CallSnippets.Text.Printable

/-!
# Quoted texts

A text between quotation marks, as messages show it: what cannot be printed is written as an escape.
The mark is the single one unless the text holds a single mark and no double one.

## Main definitions

* `hexText`: A number in hexadecimal with a least number of digits.
* `codeEscape`: The escape of a character by its code point.
* `quoteMark`: The mark that needs the fewer escapes.
* `quoted`: The text between its marks.
* `quotedAscii`: The same with every character outside ASCII escaped.
* `quotedBytes`: Bytes between marks.
-/

namespace CallSnippets

namespace Text

/-- The digits in small letters of a number below sixteen. -/
def hexDigit (n : Nat) : CodePoint :=
  if n < 10 then CodePoint.ofNat (48 + n) else CodePoint.ofNat (87 + n)

/-- A number in hexadecimal with exactly the given number of digits. -/
def hexText : Nat → Nat → Text
  | 0, _ => []
  | width + 1, n => hexText width (n / 16) ++ [hexDigit (n % 16)]

/-- The escape of a code point: two, four or eight hexadecimal digits, as few as it needs. -/
def codeEscape (n : Nat) : Text :=
  if n ≤ 0xFF then "\\x" ++ hexText 2 n
  else if n ≤ 0xFFFF then "\\u" ++ hexText 4 n
  else "\\U" ++ hexText 8 n

/-- The quotation mark around a text. -/
def quoteMark (t : Text) : CodePoint :=
  if t.contains '\'' && !t.contains '"' then '"' else '\''

/-- A character inside quotation marks: as it is where that is safe, else escaped. -/
def quotedChar (mark : CodePoint) (safe : CodePoint → Bool) (c : CodePoint) : Text :=
  if c = mark ∨ c = '\\' then ['\\', c]
  else if c = '\t' then "\\t"
  else if c = '\n' then "\\n"
  else if c = '\r' then "\\r"
  else if safe c then [c]
  else codeEscape c.toNat

/-- The text between quotation marks. -/
def quoted (t : Text) : Text :=
  let mark := quoteMark t
  mark :: t.flatMap (quotedChar mark isPrintable) ++ [mark]

/-- The text between quotation marks, in ASCII alone. -/
def quotedAscii (t : Text) : Text :=
  let mark := quoteMark t
  mark :: t.flatMap (quotedChar mark fun c => isPrintable c && c.toNat < 128) ++ [mark]

/-- Bytes between quotation marks, each one outside ASCII escaped, after the letter b. -/
def quotedBytes (bytes : List UInt8) : Text :=
  let t := bytes.map fun b => CodePoint.ofNat b.toNat
  let mark := quoteMark t
  "b" ++ mark :: t.flatMap (quotedChar mark fun c => 32 ≤ c.toNat && c.toNat < 127) ++ [mark]

end Text

end CallSnippets
