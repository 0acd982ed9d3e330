import CallSnippets.Number.Decimal
import CallSnippets.Value.Calendar

/-!
# Days and moments in documents

A day is written with its year, month and day, a moment with a time of day behind them, which may
have a fraction of a second and a distance from universal time. Whether there is such a day is only
asked when the value is made.

## Main definitions

* `Yaml.Stamp`: The parts as they are written.
* `Yaml.readStamp?`: The parts that a text consists of.
* `Yaml.Stamp.moment`: The day or moment with these parts.
-/

namespace CallSnippets

namespace Yaml

/-- The distance of a moment from universal time as it is written. -/
inductive Zone where
  /-- None. -/
  | none
  /-- Universal time. -/
  | universal
  /-- A distance in minutes. -/
  | offset (minutes : Int)
  deriving DecidableEq, Repr

/-- A time of day as it is written. -/
structure ClockTime where
  /-- The hour. -/
  hour : Nat
  /-- The minute. -/
  minute : Nat
  /-- The second. -/
  second : Nat
  /-- The digits of the fraction. -/
  fraction : Text
  /-- The distance from universal time. -/
  zone : Zone
  deriving DecidableEq, Repr

/-- A day with or without a time as it is written. -/
structure Stamp where
  /-- The year. -/
  year : Nat
  /-- The month. -/
  month : Nat
  /-- The day. -/
  day : Nat
  /-- The time of day. -/
  clock : Option ClockTime
  deriving DecidableEq, Repr

/-- The number that digits from 0 to 9 stand for. -/
def digitsValue (t : Text) : Nat :=
  ofDigits 10 (t.map fun c => c.toNat - 48)

/-- A count of digits between two bounds at the start of a text: their number and what follows. -/
def takeDigits (least most : Nat) (t : Text) : Option (Nat × Text) :=
  let digits := (t.takeWhile Text.isAsciiDigit).take most
  if digits.length < least then none else some (digitsValue digits, t.drop digits.length)

/-- The character may fill the gap between the parts of a moment. -/
def isStampBlank (c : CodePoint) : Bool :=
  c = ' ' || c = '\t'

/-- What follows a character at the start of a text. -/
def takeChar (c : CodePoint) : Text → Option Text
  | [] => none
  | d :: rest => if d = c then some rest else none

/-- The distance from universal time that a text consists of. -/
def readZone? (t : Text) : Option Zone :=
  match t.dropWhile isStampBlank with
  | [] => if t.isEmpty then some .none else none
  | ['Z'] => some .universal
  | sign :: rest =>
    if sign = '+' ∨ sign = '-' then do
      let (hours, rest) ← takeDigits 1 2 rest
      let minutes ← match rest with
        | [] => some 0
        | ':' :: rest =>
          match takeDigits 2 2 rest with
          | some (m, []) => some m
          | _ => none
        | _ => none
      let size : Int := (hours * 60 + minutes : Nat)
      return .offset (if sign = '-' then -size else size)
    else none

/-- The time of day that a text consists of. -/
def readClock? (t : Text) : Option ClockTime := do
  let (hour, rest) ← takeDigits 1 2 t
  let rest ← takeChar ':' rest
  let (minute, rest) ← takeDigits 2 2 rest
  let rest ← takeChar ':' rest
  let (second, rest) ← takeDigits 2 2 rest
  let (fraction, rest) := match rest with
    | '.' :: rest => (rest.takeWhile Text.isAsciiDigit, rest.dropWhile Text.isAsciiDigit)
    | rest => ([], rest)
  let zone ← readZone? rest
  return ⟨hour, minute, second, fraction, zone⟩

/-- What follows the mark or the blanks between a day and a time. -/
def dropClockMark? : Text → Option Text
  | [] => none
  | c :: rest =>
    if c = 'T' ∨ c = 't' then some rest
    else if isStampBlank c then some (rest.dropWhile isStampBlank)
    else none

/-- The parts of a day or a moment that a text consists of. -/
def readStamp? (t : Text) : Option Stamp := do
  let (year, rest) ← takeDigits 4 4 t
  let rest ← takeChar '-' rest
  let (month, rest) ← takeDigits 1 2 rest
  let rest ← takeChar '-' rest
  let (day, rest) ← takeDigits 1 2 rest
  if rest.isEmpty then return ⟨year, month, day, none⟩
  let rest ← dropClockMark? rest
  let clock ← readClock? rest
  return ⟨year, month, day, some clock⟩

/-- The millionths of a second that the digits of a fraction stand for. -/
def microOf (fraction : Text) : Nat :=
  let digits := fraction.take 6
  digitsValue (digits ++ Text.repeated (6 - digits.length) '0')

/-- The day or moment with these parts, if there is one. -/
def Stamp.value (s : Stamp) : Except Fault (Date ⊕ Moment) :=
  match s.clock with
  | none => (Date.of s.year s.month s.day).map .inl
  | some k =>
    let offset := match k.zone with
      | .none => none
      | .universal => some 0
      | .offset minutes => some minutes
    (Moment.of s.year s.month s.day k.hour k.minute k.second (microOf k.fraction) offset).map .inr

end Yaml

end CallSnippets
