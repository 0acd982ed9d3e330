import CallSnippets.Text.Basic

/-!
# Characters by their codes

Escapes name characters by the hexadecimal digits of their code points. A character beyond the first
plane may be named by the two halves of its pair, where the format has it so.

## Main definitions

* `hexValue`: The value of a hexadecimal digit.
* `hexNumber?`: The number that hexadecimal digits stand for.
* `isHighHalf`, `isLowHalf`, `joinHalves`: The two halves of a character.
-/

namespace CallSnippets

namespace Text

/-- The value of a hexadecimal digit. -/
def hexValue (c : CodePoint) : Option Nat :=
  if '0' ≤ c ∧ c ≤ '9' then some (c.toNat - 48)
  else if 'a' ≤ c ∧ c ≤ 'f' then some (c.toNat - 87)
  else if 'A' ≤ c ∧ c ≤ 'F' then some (c.toNat - 55)
  else none

/-- The number that a count of hexadecimal digits at the start of a text stand for, and the text
    behind them. -/
def hexNumber? (count : Nat) (value : Nat) (t : Text) : Option (Nat × Text) :=
  match count, t with
  | 0, t => some (value, t)
  | _ + 1, [] => none
  | count + 1, c :: rest =>
    match hexValue c with
    | some d => hexNumber? count (value * 16 + d) rest
    | none => none

/-- The code point is the first half of a pair. -/
def isHighHalf (n : Nat) : Bool :=
  0xD800 ≤ n && n ≤ 0xDBFF

/-- The code point is the second half of a pair. -/
def isLowHalf (n : Nat) : Bool :=
  0xDC00 ≤ n && n ≤ 0xDFFF

/-- The character that two halves make together. -/
def joinHalves (high low : Nat) : CodePoint :=
  CodePoint.ofNat (0x10000 + (high - 0xD800) * 0x400 + (low - 0xDC00))

/-- The mark that some editors put before a text. -/
def byteOrderMark : CodePoint := CodePoint.ofNat 0xFEFF

end Text

end CallSnippets
