import CallSnippets.Number.Lenient
import CallSnippets.Number.Word
import CallSnippets.Record.Reading
import CallSnippets.Text.Case

/-!
# Reading numbers and truth values

Whole numbers and truth values are read leniently: a number without a fraction is a whole number
whatever its form, and texts are accepted that plainly say what they mean. A whole number that comes
from a number with a binary exponent has to lie in the range of 64 bits, one that is given as such
may have any size.

## Main definitions

* `readInt64OfFloat`: The whole number that a number with a fraction stands for.
* `intOfText`: The whole number that a text stands for.
* `readWhole`: Reads a whole number.
* `readTruth`: Reads a truth value.
-/

namespace CallSnippets

/-- The whole number that a number with a fraction stands for, strictly between the two powers that
    bound 64 bits. -/
def readInt64OfFloat (x : Binary64) : Reading Int :=
  match x with
  | .nan => Reading.fail .notFinite
  | .infinite _ => Reading.fail .notFinite
  | x =>
    match x.toInt? with
    | none => Reading.fail .intWithFraction
    | some n =>
      if -wordBound < n ∧ n < wordBound then .ok n else Reading.fail .intBeyondRange

/-- The whole number that a text stands for. A text with a half of a pair is not even looked at. -/
def intOfText (t : Text) : Reading Int :=
  if t.any CodePoint.isHalf then Reading.fail .notUnicode
  else
    match Lenient.readInt t with
    | .number n => .ok n
    | .malformed => Reading.fail .unreadableInt
    | .tooLong _ => Reading.fail .intBeyondRange

/-- Reads a whole number. -/
def readWhole : Value → Reading Int
  | .int n => .ok n
  | .bool b => .ok (if b then 1 else 0)
  | .float x => readInt64OfFloat x
  | .text t => intOfText t
  | .bytes b =>
    match textOfBytes? b with
    | some t => intOfText t
    | none => Reading.fail .unreadableInt
  | _ => Reading.fail .notInt

/-- The texts that say that something holds, in small letters. -/
def trueWords : List Text := ["1", "on", "t", "true", "y", "yes"]

/-- The texts that say that something does not hold, in small letters. -/
def falseWords : List Text := ["0", "off", "f", "false", "n", "no"]

/-- The truth value that a text stands for. A text with a half of a pair is not even looked at. -/
def truthOfText (t : Text) : Reading Bool :=
  let word := Text.asciiLower t
  if t.any CodePoint.isHalf then Reading.fail .notUnicode
  else if trueWords.contains word then .ok true
  else if falseWords.contains word then .ok false
  else Reading.fail .unreadableBool

/-- The truth value that a whole number stands for. -/
def truthOfInt (n : Int) : Reading Bool :=
  if n = 1 then .ok true else if n = 0 then .ok false else Reading.fail .unreadableBool

/-- Reads a truth value. -/
def readTruth : Value → Reading Bool
  | .bool b => .ok b
  | .int n => if fitsWord n then truthOfInt n else Reading.fail .notBool
  | .float x =>
    match readInt64OfFloat x with
    | .ok n => truthOfInt n
    | .error _ => Reading.fail .notBool
  | .text t => truthOfText t
  | .bytes b =>
    match textOfBytes? b with
    | some t => truthOfText t
    | none => Reading.fail .unreadableBool
  | _ => Reading.fail .notBool

end CallSnippets
