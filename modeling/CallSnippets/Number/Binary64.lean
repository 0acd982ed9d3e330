/-!
# Binary numbers of 64 bits

The numbers with a fraction that documents hold: a sign, a whole mantissa below 2^53 and a power of
two, with infinities and one value that is not a number. All arithmetic is done exactly on fractions
and rounded once, to the nearest number and to the even mantissa from the middle, so each operation
is a rounding of the exact result by construction.

## Main definitions

* `Binary64`: The numbers.
* `roundDiv`: A quotient rounded to the nearest whole number, the middle going to the even one.
* `Binary64.round`: The nearest number to a fraction.
* `Binary64.ofDecimal`: The nearest number to a decimal.
* `Binary64.ofInt?`: The nearest number to a whole number, if it is not out of range.
* `Binary64.add`, `Binary64.mul`: Sum and product.
* `Binary64.same`: Equality as numbers, with the two zeros equal.
-/

namespace CallSnippets

/-- A binary number of 64 bits. A finite one stands for `mantissa * 2 ^ exponent`, with the mantissa
    at least 2^52 unless the exponent is -1074, the least. -/
inductive Binary64 where
  /-- The value that is not a number. -/
  | nan
  /-- An infinity. -/
  | infinite (negative : Bool)
  /-- A number with a sign, which zero has too. -/
  | finite (negative : Bool) (mantissa : Nat) (exponent : Int)
  deriving DecidableEq, Repr

/-- A quotient rounded to the nearest whole number, from the middle to the even one. -/
def roundDiv (num den : Nat) : Nat :=
  let q := num / den
  let r := num % den
  if 2 * r < den then q
  else if den < 2 * r then q + 1
  else if q % 2 = 0 then q else q + 1

/-- The fraction `num / den` times a power of a base, as numerator and denominator. -/
def scaleBy (base : Nat) (power : Int) (num den : Nat) : Nat × Nat :=
  if 0 ≤ power then (num * Nat.pow base power.toNat, den)
  else (num, den * Nat.pow base (-power).toNat)

namespace Binary64

/-- The exponent of the least numbers. -/
def leastExponent : Int := -1074

/-- The exponent of the greatest numbers. -/
def greatestExponent : Int := 971

/-- Zero with a sign. -/
def zero (negative : Bool) : Binary64 :=
  .finite negative 0 leastExponent

/-- The greatest `k` with `2 ^ k ≤ num / den`, for a positive fraction. -/
def binaryOrder (num den : Nat) : Int :=
  let k : Int := (num.log2 : Int) - (den.log2 : Int)
  let (a, b) := scaleBy 2 (-k) num den
  if b ≤ a then k else k - 1

/-- The nearest number to the fraction `num / den`, with a sign. -/
def round (negative : Bool) (num den : Nat) : Binary64 :=
  if num = 0 then zero negative
  else
    let q := max leastExponent (binaryOrder num den - 52)
    let (a, b) := scaleBy 2 (-q) num den
    let m := roundDiv a b
    let (m, q) := if m = Nat.pow 2 53 then (Nat.pow 2 52, q + 1) else (m, q)
    if greatestExponent < q then .infinite negative else .finite negative m q

/-- The nearest number to `digits * 10 ^ power`. Beyond the range the answer is known from the count
    of digits alone, so that a huge power is never computed. -/
def ofDecimal (negative : Bool) (digits : Nat) (power : Int) : Binary64 :=
  let order : Int := (digits.repr.length : Int) + power
  if digits = 0 ∨ order < -400 then zero negative
  else if 400 < order then .infinite negative
  else
    let (num, den) := scaleBy 10 power digits 1
    round negative num den

/-- The nearest number to a whole number, if that is finite. -/
def ofInt? (n : Int) : Option Binary64 :=
  match round (n < 0) n.natAbs 1 with
  | .infinite _ => none
  | x => some x

/-- The fraction that the size of a finite number stands for. -/
def fraction (mantissa : Nat) (exponent : Int) : Nat × Nat :=
  scaleBy 2 exponent mantissa 1

/-- The number with the opposite sign. -/
def neg : Binary64 → Binary64
  | nan => nan
  | infinite s => infinite !s
  | finite s m q => finite (!s) m q

/-- The product, rounded. -/
def mul : Binary64 → Binary64 → Binary64
  | nan, _ => nan
  | _, nan => nan
  | infinite s, infinite t => infinite (s != t)
  | infinite s, finite t m _ => if m = 0 then nan else infinite (s != t)
  | finite s m _, infinite t => if m = 0 then nan else infinite (s != t)
  | finite s m q, finite t n p =>
    let (num, den) := scaleBy 2 (q + p) (m * n) 1
    round (s != t) num den

/-- A finite number as a whole multiple of `2 ^ least`, for an exponent not below `least`. -/
def asMultiple (least : Int) (negative : Bool) (mantissa : Nat) (exponent : Int) : Int :=
  let size : Int := mantissa * Nat.pow 2 (exponent - least).toNat
  if negative then -size else size

/-- The sum, rounded. A sum of zeros is negative only where both are. -/
def add : Binary64 → Binary64 → Binary64
  | nan, _ => nan
  | _, nan => nan
  | infinite s, infinite t => if s = t then infinite s else nan
  | infinite s, finite .. => infinite s
  | finite .., infinite t => infinite t
  | finite s m q, finite t n p =>
    let least := min q p
    let sum := asMultiple least s m q + asMultiple least t n p
    if sum = 0 then zero (s && t)
    else
      let (num, den) := scaleBy 2 least sum.natAbs 1
      round (sum < 0) num den

/-- Equality as numbers: the two zeros are equal, and what is not a number equals itself here
    because one such value serves for all. -/
def same (x y : Binary64) : Bool :=
  match x, y with
  | .finite _ 0 _, .finite _ 0 _ => true
  | x, y => x == y

/-- The number is zero. -/
def isZero : Binary64 → Bool
  | .finite _ 0 _ => true
  | _ => false

/-- The whole number that a number is equal to, if it has no fraction. -/
def toInt? : Binary64 → Option Int
  | .finite s m q =>
    let (num, den) := fraction m q
    if num % den = 0 then
      let n : Int := (num / den : Nat)
      some (if s then -n else n)
    else none
  | _ => none

end Binary64

end CallSnippets
