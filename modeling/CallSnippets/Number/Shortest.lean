import CallSnippets.Number.Binary64
import CallSnippets.Number.Decimal

/-!
# Numbers by their fewest digits

A binary number is shown with the fewest decimal digits that read back as the same number, and among
those the ones nearest to it. The search is over grids of decimals: for one digit, two digits and so
on, the number lies between two neighbours of the grid, and the first grid on which one of them
reads back gives the answer.

## Main definitions

* `decimalOrder`: How many digits stand before the point.
* `Digits`: A decimal number as digits and a power of ten.
* `shortest`: The fewest digits that read back.
* `Digits.text`: The digits laid out, with a point or with an exponent.
* `Binary64.text`: A number as documents and messages show it.
-/

namespace CallSnippets

/-- The decimal number `digits * 10 ^ power`. -/
structure Digits where
  /-- The digits as a whole number. -/
  digits : Nat
  /-- The power of ten of the last digit. -/
  power : Int
  deriving DecidableEq, Repr

/-- The `e` with `10 ^ (e - 1) ≤ num / den < 10 ^ e`, for a positive fraction. -/
def decimalOrder (num den : Nat) : Int :=
  let e : Int := (num.repr.length : Int) - (den.repr.length : Int)
  let (a, b) := scaleBy 10 (-e) num den
  if b ≤ a then e + 1 else e

/-- The neighbour of `num / den` on the grid of multiples of `10 ^ power` that reads back as the
    number, the nearer one if both do, and the even one if both are as near. -/
def onGrid? (num den : Nat) (x : Binary64) (power : Int) : Option Digits :=
  let (a, b) := scaleBy 10 (-power) num den
  let low := a / b
  let readsBack (d : Nat) : Bool := Binary64.ofDecimal false d power == x
  let pick (d : Nat) : Option Digits := some ⟨d, power⟩
  match readsBack low, readsBack (low + 1) with
  | false, false => none
  | true, false => pick low
  | false, true => pick (low + 1)
  | true, true => pick (roundDiv a b)

/-- The first of the grids with the given powers that holds a decimal reading back. -/
def firstOnGrid (num den : Nat) (x : Binary64) : List Int → Digits
  | [] => ⟨0, 0⟩
  | power :: rest => (onGrid? num den x power).getD (firstOnGrid num den x rest)

/-- The digits without the zeros at their end. -/
def Digits.strip (fuel : Nat) (d : Digits) : Digits :=
  match fuel with
  | 0 => d
  | fuel + 1 =>
    if d.digits ≠ 0 ∧ d.digits % 10 = 0 then Digits.strip fuel ⟨d.digits / 10, d.power + 1⟩ else d

/-- The fewest digits that read back as the number with this mantissa and exponent. Seventeen always
    do. -/
def shortest (mantissa : Nat) (exponent : Int) : Digits :=
  if mantissa = 0 then ⟨0, 0⟩
  else
    let (num, den) := Binary64.fraction mantissa exponent
    let order := decimalOrder num den
    let powers := (List.range 17).map fun (n : Nat) => order - 1 - (n : Int)
    (firstOnGrid num den (.finite false mantissa exponent) powers).strip 20

/-- An exponent of ten: the letter, the sign, and two digits or more. -/
def exponentText (letter : CodePoint) (e : Int) : Text :=
  let digits := natText e.natAbs
  letter :: (if e < 0 then '-' else '+') ::
    (if digits.length < 2 then '0' :: digits else digits)

/-- The digits laid out: with a point for numbers from 10^-4 up to 10^16, and with an exponent
    outside of that. A whole number written with a point has one zero after it. -/
def Digits.text (d : Digits) : Text :=
  let s := natText d.digits
  let point : Int := s.length + d.power
  if -4 < point ∧ point ≤ 16 then
    if point ≤ 0 then "0." ++ Text.repeated (-point).toNat '0' ++ s
    else if 0 ≤ d.power then s ++ Text.repeated d.power.toNat '0' ++ ".0"
    else s.take point.toNat ++ "." ++ s.drop point.toNat
  else
    s.take 1 ++ (if s.length = 1 then [] else '.' :: s.drop 1 : Text) ++ exponentText 'e' (point - 1)

namespace Binary64

/-- The number as messages show it, with the words given for the values without digits. -/
def textWith (nanWord infinityWord : Text) : Binary64 → Text
  | nan => nanWord
  | infinite s => (if s then "-" else "" : Text) ++ infinityWord
  | finite s m q => (if s then "-" else "" : Text) ++ (shortest m q).text

/-- The number as messages show it. -/
def text (x : Binary64) : Text :=
  textWith "nan" "inf" x

end Binary64

end CallSnippets
