import CallSnippets.Number.Reading
import CallSnippets.Text.Quoted
import CallSnippets.Yaml.Cursor

/-!
# Numbers in documents

The value of a scalar that is known to be a number, by its form or by its tag. A tag may be given to
any text, so each text that is no number after all leads to a fault that shows it.

## Main definitions

* `Yaml.intOf`: The whole number that a scalar stands for.
* `Yaml.floatOf`: The number with a fraction that a scalar stands for.
-/

namespace CallSnippets

namespace Yaml

/-- The fault of a position beyond the end of a text. -/
def beyondEnd : Fault :=
  ⟨.badIndex, "string index out of range"⟩

/-- The fault of a text that is no whole number in a base. Of a long text only the start is shown. -/
def notWhole (base : Nat) (t : Text) : Fault :=
  .value ("invalid literal for int() with base " ++ natText base ++ ": " ++
    (Text.quoted t).take 200)

/-- The whole number that a text stands for in a base. -/
def wholeIn (base : Nat) (t : Text) : Except Fault Int :=
  match readInt base t with
  | .number n => .ok n
  | .malformed => .error (notWhole base t)
  | .tooLong digits => .error (.tooManyDigitsToRead digits)

/-- The whole numbers that texts stand for. -/
def wholeAll : List Text → Except Fault (List Int)
  | [] => .ok []
  | t :: rest => do
    let n ← wholeIn 10 t
    let ns ← wholeAll rest
    return n :: ns

/-- The whole number that a scalar without its sign and its low lines stands for. -/
def intBody (t : Text) : Except Fault Int :=
  match t with
  | [] => .error beyondEnd
  | ['0'] => .ok 0
  | '0' :: 'b' :: rest => wholeIn 2 rest
  | '0' :: 'x' :: rest => wholeIn 16 rest
  | '0' :: rest => wholeIn 8 ('0' :: rest)
  | t =>
    if t.contains ':' then do
      let places ← wholeAll (Text.splitOn ':' t)
      return places.foldl (fun n d => n * 60 + d) 0
    else wholeIn 10 t

/-- The whole number that a scalar stands for. -/
def intOf (t : Text) : Except Fault Int :=
  match t.without '_' with
  | [] => .error beyondEnd
  | t =>
    let (negative, body) := Decimal.splitSign t
    (intBody body).map fun n => if negative then -n else n

/-- The number with a fraction that a text stands for. -/
def fractionIn (t : Text) : Except Fault Binary64 :=
  match Binary64.ofText? t with
  | some x => .ok x
  | none => .error (.value ("could not convert string to float: " ++ Text.quoted t))

/-- The numbers with a fraction that texts stand for. -/
def fractionAll : List Text → Except Fault (List Binary64)
  | [] => .ok []
  | t :: rest => do
    let x ← fractionIn t
    let xs ← fractionAll rest
    return x :: xs

/-- The sum of places in base sixty, the last one first, from a power of sixty on. -/
def sumOfPlaces (power : Nat) (sum : Binary64) : List Binary64 → Except Fault Binary64
  | [] => .ok sum
  | x :: rest =>
    match Binary64.ofInt? power with
    | none => .error ⟨.overflow, []⟩
    | some p => sumOfPlaces (power * 60) (sum.add (x.mul p)) rest

/-- The word for infinity. -/
def infinityWord : Text := ".inf"

/-- The word for the value that is no number. -/
def nanWord : Text := ".nan"

/-- The text is the word for the value that is no number, however it is written. -/
def isNanWord (t : Text) : Bool :=
  (Decimal.splitSign (Text.lower (t.without '_'))).2 = nanWord

/-- The number with a fraction that a scalar without its sign and its low lines stands for. -/
def floatBody (t : Text) : Except Fault Binary64 :=
  if t = infinityWord then .ok (.infinite false)
  else if t = nanWord then .ok .nan
  else if t.contains ':' then do
    let places ← fractionAll (Text.splitOn ':' t)
    sumOfPlaces 1 (.zero false) places.reverse
  else fractionIn t

/-- The number with a fraction that a scalar stands for. -/
def floatOf (t : Text) : Except Fault Binary64 :=
  match Text.lower (t.without '_') with
  | [] => .error beyondEnd
  | t =>
    let (negative, body) := Decimal.splitSign t
    (floatBody body).map fun x => if negative then x.neg else x

end Yaml

end CallSnippets
