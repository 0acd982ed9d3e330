import CallSnippets.Number.Shortest

/-!
# Numbers with a chosen count of digits

A number can be asked for with a fixed count of places after the point, in the scientific form with
a fixed count of digits, or in the general form, which takes the one of the two that suits its size.
The value is taken exactly and rounded once, from the middle to the even digit.

## Main definitions

* `fixedText`: A count of places after the point.
* `scientificText`: One digit before the point, a count of places after it, and an exponent.
* `generalText`: A count of significant digits in the form that suits the size.
-/

namespace CallSnippets

/-- Puts a point before the last `places` digits, of which there are more than `places`. Without
    places the point is left out unless it is to be kept. -/
def withPoint (keepPoint : Bool) (places : Nat) (digits : Text) : Text :=
  let cut := digits.length - places
  if places = 0 then digits ++ (if keepPoint then "." else "" : Text)
  else digits.take cut ++ "." ++ digits.drop cut

/-- The text filled up on the left with zeros to a least length. -/
def zeroFilled (length : Nat) (digits : Text) : Text :=
  Text.repeated (length - digits.length) '0' ++ digits

/-- The fraction `num / den` with a count of places after the point. -/
def fixedText (keepPoint : Bool) (places num den : Nat) : Text :=
  let digits := natText (roundDiv (num * Nat.pow 10 places) den)
  withPoint keepPoint places (zeroFilled (places + 1) digits)

/-- The digits of `num / den` rounded to `places + 1` of them, and the exponent of the first. -/
def scientificDigits (places num den : Nat) : Nat × Int :=
  if num = 0 then (0, 0)
  else
    let e := decimalOrder num den - 1
    let (a, b) := scaleBy 10 (places - e) num den
    let n := roundDiv a b
    if n = Nat.pow 10 (places + 1) then (Nat.pow 10 places, e + 1) else (n, e)

/-- The text without the zeros at its end, and without the point if nothing is left behind it. -/
def withoutTrailingZeros (t : Text) : Text :=
  match Text.dropLeading '0' t.reverse with
  | '.' :: rest => rest.reverse
  | rest => rest.reverse

/-- The fraction `num / den` with one digit before the point, a count of places after it, and an
    exponent. -/
def scientificText (letter : CodePoint) (keepPoint : Bool) (places num den : Nat) : Text :=
  let (n, e) := scientificDigits places num den
  withPoint keepPoint places (zeroFilled (places + 1) (natText n)) ++ exponentText letter e

/-- The fraction `num / den` with a count of significant digits, in the fixed form where the
    exponent is at least -4 and below that count, else in the scientific form. Zeros at the end are
    left out unless they are to be kept. -/
def generalText (letter : CodePoint) (keepZeros : Bool) (count num den : Nat) : Text :=
  let count := max count 1
  let (n, e) := scientificDigits (count - 1) num den
  let shown (t : Text) : Text :=
    if keepZeros || !t.contains '.' then t else withoutTrailingZeros t
  if -4 ≤ e ∧ e < count then
    shown (fixedText keepZeros ((count : Int) - 1 - e).toNat num den)
  else
    shown (withPoint keepZeros (count - 1) (zeroFilled count (natText n))) ++ exponentText letter e

end CallSnippets
