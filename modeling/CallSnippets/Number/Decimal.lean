import CallSnippets.Text.Blank
import CallSnippets.Text.Digit

/-!
# Whole numbers in texts

Whole numbers are written in decimal, and read in base 2, 8, 10 or 16. Conversions between decimal
text and number are refused beyond a fixed count of digits, because their cost grows with the square
of the count; the other bases have no such limit.

## Main definitions

* `digitLimit`: The most digits a conversion in decimal may have.
* `natText`, `intText`: The decimal text of a number.
* `basedText`: The text of a number in another base.
* `intText?`: The same under the limit.
* `IntRead`: What comes of reading a whole number.
* `readInt`: Reads a whole number with sign, base mark and single low lines between digits.
-/

namespace CallSnippets

/-- The most digits that a conversion between decimal text and number may have. -/
def digitLimit : Nat := 4300

/-- The decimal text of a natural number. -/
def natText (n : Nat) : Text :=
  n.repr

/-- The text of a natural number in a base, with small letters for the digits beyond nine. -/
def basedText (base n : Nat) : Text :=
  (Nat.toDigits base n).map CodePoint.char

/-- The decimal text of a whole number. -/
def intText : Int → Text
  | .ofNat n => natText n
  | .negSucc n => '-' :: natText (n + 1)

/-- The decimal text of a whole number, unless it has more digits than the limit allows. -/
def intText? (n : Int) : Option Text :=
  if (natText n.natAbs).length ≤ digitLimit then some (intText n) else none

/-- The number with the given digits, most significant first, continuing from a value. -/
def digitsFrom (base : Nat) (value : Nat) (digits : List Nat) : Nat :=
  digits.foldl (fun n d => n * base + d) value

/-- The number with the given digits, most significant first. -/
def ofDigits (base : Nat) (digits : List Nat) : Nat :=
  digitsFrom base 0 digits

/-- What comes of reading a whole number. -/
inductive IntRead where
  /-- The number that was read. -/
  | number (n : Int)
  /-- The text is no whole number in the base. -/
  | malformed
  /-- The text has this many digits, more than the limit allows. -/
  | tooLong (digits : Nat)
  deriving DecidableEq, Repr

namespace Decimal

/-- The value of a digit of any script, or of a letter used as a digit beyond nine. -/
def digitOf (c : CodePoint) : Option Nat :=
  match Text.digitValue c with
  | some d => some d
  | none =>
    if 'a' ≤ c ∧ c ≤ 'f' then some (c.toNat - 87)
    else if 'A' ≤ c ∧ c ≤ 'F' then some (c.toNat - 55)
    else none

/-- The value of a digit that is allowed in the base. -/
def digitIn (base : Nat) (c : CodePoint) : Option Nat :=
  (digitOf c).filter (· < base)

/-- The digits of a text in which single low lines may stand between digits. -/
def spacedDigits (base : Nat) : Text → Option (List Nat)
  | [] => none
  | [c] => (digitIn base c).map ([·])
  | c :: '_' :: rest => do
    let d ← digitIn base c
    let ds ← spacedDigits base rest
    return d :: ds
  | c :: rest => do
    let d ← digitIn base c
    let ds ← spacedDigits base rest
    return d :: ds

/-- Splits a sign off: whether it is a minus, and what follows it. -/
def splitSign : Text → Bool × Text
  | '-' :: rest => (true, rest)
  | '+' :: rest => (false, rest)
  | t => (false, t)

/-- The letter that marks a base after a zero, in both cases. -/
def baseMarks : Nat → List CodePoint
  | 2 => ['b', 'B']
  | 8 => ['o', 'O']
  | 16 => ['x', 'X']
  | _ => []

/-- Drops a mark of the base behind a zero of any script. A low line may follow the mark. -/
def dropBaseMark (base : Nat) : Text → Text
  | zero :: c :: rest =>
    if Text.digitValue zero = some 0 ∧ (baseMarks base).contains c then
      match rest with
      | '_' :: digits => digits
      | digits => digits
    else zero :: c :: rest
  | t => t

/-- The characters that a number in the base is made of at the start of a text, and what follows
    them. -/
def spanNumber (base : Nat) (t : Text) : Text × Text :=
  t.span fun c => (digitIn base c).isSome || c = '_'

/-- The limit on digits applies to the base. -/
def isLimited (base : Nat) : Bool :=
  base == 10

end Decimal

/-- Reads a whole number in a base. White space around it, a sign, the mark of the base and single
    low lines between digits are allowed. The digits are counted before it is looked at what follows
    them. -/
def readInt (base : Nat) (t : Text) : IntRead :=
  let (negative, body) := Decimal.splitSign (Text.trimSpace t)
  let (number, rest) := Decimal.spanNumber base (Decimal.dropBaseMark base body)
  match Decimal.spacedDigits base number with
  | none => .malformed
  | some digits =>
    if Decimal.isLimited base && digitLimit < digits.length then .tooLong digits.length
    else if !rest.isEmpty then .malformed
    else
      let n : Int := ofDigits base digits
      .number (if negative then -n else n)

end CallSnippets
