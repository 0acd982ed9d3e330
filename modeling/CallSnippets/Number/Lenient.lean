import CallSnippets.Number.Decimal

/-!
# Whole numbers as people write them

A whole number in a text is read in two attempts. The first takes the text as it is and knows one
spelling for each number: digits without a zero before others, and a minus where it is negative. Its
digits are counted before it is looked at what follows them, so that a text which is far too long is
refused for that reason alone.

The second attempt is for people. Blanks around the number, a plus, zeros before it, zeros behind a
point, and single low lines between digits are taken away one after the other, and what is left has to
be in the one spelling. A text that fails here is no number, for whatever reason.

Zeros are taken away together with low lines, and up to a minus too if one comes then, which thus may
stand behind them.

## Main definitions

* `Lenient.plainInt?`: The number with the one spelling.
* `Lenient.cleaned?`: A text with everything taken away that may be.
* `Lenient.readInt`: Reads a whole number.
-/

namespace CallSnippets

namespace Lenient

/-- Splits a minus off: whether there is one, and what follows it. -/
def splitMinus : Text → Bool × Text
  | '-' :: rest => (true, rest)
  | t => (false, t)

/-- The digits of a number with the one spelling at the start of a text, and what follows them. -/
def spanPlain : Text → Text × Text
  | '0' :: rest => ("0", rest)
  | t => t.span Text.isAsciiDigit

/-- How many characters a number with the one spelling has at the start of a text. -/
def plainLength (t : Text) : Nat :=
  t.length - (spanPlain (splitMinus t).2).2.length

/-- The number with the one spelling that a text consists of. -/
def plainInt? (t : Text) : Option Int :=
  let (negative, body) := splitMinus t
  match spanPlain body with
  | (c :: digits, []) =>
    let n : Int := ofDigits 10 ((c :: digits).map fun d => d.toNat - 48)
    some (if negative then -n else n)
  | _ => none

/-- The text without a plus at its start, behind which no minus may stand. -/
def dropPlus? : Text → Option Text
  | '+' :: '-' :: _ => none
  | '+' :: rest => some rest
  | t => some t

/-- The character starts what is left of a number without zeros before it. -/
def startsPlain (c : CodePoint) : Bool :=
  ('1' ≤ c && c ≤ '9') || c = '-'

/-- The text without zeros and low lines before a number, given the last of them. Before a point, and
    where nothing follows, that one is kept. -/
def dropZerosAfter? (last : CodePoint) : Text → Option Text
  | [] => some [last]
  | c :: rest =>
    if c = '0' ∨ c = '_' then dropZerosAfter? c rest
    else if startsPlain c then some (c :: rest)
    else if c = '.' then some (last :: c :: rest)
    else none

/-- The text without zeros before a number. -/
def dropZeros? : Text → Option Text
  | [] => none
  | c :: rest =>
    if c = '0' then dropZerosAfter? c rest
    else if startsPlain c then some (c :: rest)
    else none

/-- The text without a point that only zeros follow. -/
def dropZeroFraction (t : Text) : Text :=
  match t.spanAt '.' with
  | (whole, _ :: c :: fraction) => if (Text.dropLeading '0' (c :: fraction)).isEmpty then whole else t
  | _ => t

/-- Two low lines stand side by side. -/
def hasDoubleLine : Text → Bool
  | [] => false
  | '_' :: '_' :: _ => true
  | _ :: rest => hasDoubleLine rest

/-- The text without low lines, each of which has to stand alone between other characters. -/
def dropLines? (t : Text) : Option Text :=
  if t.head? = some '_' ∨ t.getLast? = some '_' ∨ hasDoubleLine t then none
  else some (t.without '_')

/-- The text with everything taken away that may be around a number and in it. -/
def cleaned? (t : Text) : Option Text := do
  let t ← dropPlus? (Text.trimSpace t)
  let (negative, body) := splitMinus t
  let body ← dropZeros? body
  let body ← dropLines? (dropZeroFraction body)
  return if negative then '-' :: body else body

/-- Reads a whole number. The limit is on the characters of the number. -/
def readInt (t : Text) : IntRead :=
  if digitLimit < plainLength t then .tooLong (plainLength t)
  else
    match plainInt? t with
    | some n => .number n
    | none =>
      match cleaned? t with
      | none => .malformed
      | some t =>
        if digitLimit < plainLength t then .malformed
        else
          match plainInt? t with
          | some n => .number n
          | none => .malformed

end Lenient

end CallSnippets
