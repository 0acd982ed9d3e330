import CallSnippets.Number.Binary64
import CallSnippets.Number.Decimal
import CallSnippets.Text.Case

/-!
# Numbers with a fraction in texts

A number with a fraction is written with digits of any script, a point, an exponent, or as one of the
words for infinity and for the value that is no number, in whatever case. White space around it and a
sign before it are allowed.

## Main definitions

* `Decimal.readUnsigned?`: Reads a number without its sign.
* `Binary64.ofText?`: Reads a number.
-/

namespace CallSnippets

namespace Decimal

/-- The values of the digits at the start of a text, and what follows them. -/
def digitValues : Text → List Nat × Text
  | [] => ([], [])
  | c :: rest =>
    match Text.digitValue c with
    | none => ([], c :: rest)
    | some d =>
      let (ds, after) := digitValues rest
      (d :: ds, after)

/-- The exponent that a text consists of, where an empty text is none. -/
def exponent? : Text → Option Int
  | [] => some 0
  | e :: rest =>
    if e = 'e' ∨ e = 'E' then
      let (negative, digits) := splitSign rest
      match digitValues digits with
      | (d :: ds, []) =>
        let n : Int := ofDigits 10 (d :: ds)
        some (if negative then -n else n)
      | _ => none
    else none

/-- The words for infinity. -/
def infinityWords : List Text := ["inf", "infinity"]

/-- The number that a text without a sign stands for, given the sign. -/
def readUnsigned? (negative : Bool) (t : Text) : Option Binary64 :=
  let word := Text.asciiLower t
  if infinityWords.contains word then some (.infinite negative)
  else if word = "nan" then some .nan
  else
    let (whole, rest) := digitValues t
    let (fraction, rest) := match rest with
      | '.' :: rest => digitValues rest
      | rest => ([], rest)
    if whole.isEmpty && fraction.isEmpty then none
    else
      (exponent? rest).map fun e =>
        .ofDecimal negative (ofDigits 10 (whole ++ fraction)) (e - fraction.length)

end Decimal

/-- The number with a fraction that a text stands for. -/
def Binary64.ofText? (t : Text) : Option Binary64 :=
  let (negative, body) := Decimal.splitSign (Text.trimSpace t)
  Decimal.readUnsigned? negative body

end CallSnippets
