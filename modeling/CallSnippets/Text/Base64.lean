import CallSnippets.Text.Basic

/-!
# Bytes in base 64

Bytes are written with four characters of six bits each for three bytes, and filled up with equals
signs where the last group is short. Reading passes over every character that is none of the 64 and
stops where the filling makes a group complete.

## Main definitions

* `base64Value?`: The six bits of a character.
* `ofBase64?`: The bytes that a text stands for.
-/

namespace CallSnippets

namespace Text

/-- The six bits that a character stands for. -/
def base64Value? (c : CodePoint) : Option Nat :=
  if 'A' ≤ c ∧ c ≤ 'Z' then some (c.toNat - 65)
  else if 'a' ≤ c ∧ c ≤ 'z' then some (c.toNat - 71)
  else if '0' ≤ c ∧ c ≤ '9' then some (c.toNat + 4)
  else if c = '+' then some 62
  else if c = '/' then some 63
  else none

/-- The bytes from a place on, given how many characters of the group came before, the bits that are
    left of them, and how many signs of the filling came directly before. -/
def base64From (place left filled : Nat) : Text → Option (List UInt8)
  | [] => if place = 0 then some [] else none
  | c :: rest =>
    if c = '=' then
      if 2 ≤ place && 4 ≤ place + filled + 1 then some []
      else base64From place left (if 2 ≤ place then filled + 1 else filled) rest
    else
      match base64Value? c with
      | none => base64From place left filled rest
      | some v =>
        if place = 0 then base64From 1 v 0 rest
        else if place = 1 then
          (base64From 2 (v % 16) 0 rest).map ((left * 4 + v / 16).toUInt8 :: ·)
        else if place = 2 then
          (base64From 3 (v % 4) 0 rest).map ((left * 16 + v / 4).toUInt8 :: ·)
        else (base64From 0 0 0 rest).map ((left * 64 + v).toUInt8 :: ·)

/-- The bytes that a text stands for. -/
def ofBase64? (t : Text) : Option (List UInt8) :=
  base64From 0 0 0 t

end Text

end CallSnippets
