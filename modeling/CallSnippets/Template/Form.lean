import CallSnippets.Number.Word
import CallSnippets.Template.Problem

/-!
# Forms of fields

The form of a field says how its argument is laid out: a character to fill up with, the side to keep
the argument on, a sign, a least width, groups of digits, a count of digits, and a letter for the
kind of form.

## Main definitions

* `Template.Form`: The parts of a form.
* `Template.readForm`: Reads a form, and checks what does not depend on the argument.
-/

namespace CallSnippets

namespace Template

/-- The side on which an argument is kept. -/
inductive Side where
  /-- On the left. -/
  | left
  /-- On the right. -/
  | right
  /-- In the middle. -/
  | middle
  /-- On the right, with the sign on the left. -/
  | afterSign
  deriving DecidableEq, Repr

/-- The side that a character of a form means. -/
def sideOf? : CodePoint → Option Side
  | '<' => some .left
  | '>' => some .right
  | '^' => some .middle
  | '=' => some .afterSign
  | _ => none

/-- The parts of a form. -/
structure Form where
  /-- The character to fill up with. -/
  fill : CodePoint
  /-- The side on which the argument is kept. -/
  side : Side
  /-- The sign that is asked for, if any. -/
  sign : Option CodePoint
  /-- A zero is to be without a minus. -/
  positiveZero : Bool
  /-- The alternate form is asked for. -/
  alternate : Bool
  /-- The least width, if one is given. -/
  width : Option Nat
  /-- The character between groups of digits, if they are asked for. -/
  separator : Option CodePoint
  /-- How many digits make a group. -/
  group : Nat
  /-- The count of digits, if one is given. -/
  precision : Option Nat
  /-- The letter for the kind of form. -/
  letter : CodePoint
  deriving DecidableEq, Repr

/-- The greatest position in a text. -/
def maxPosition : Nat := wordBound - 1

/-- Reads the digits that a text starts with, and how many there are. -/
def readDigits (value : Nat) : Text → Except Problem (Nat × Nat × Text)
  | [] => .ok (value, 0, [])
  | c :: rest =>
    match Text.digitValue c with
    | none => .ok (value, 0, c :: rest)
    | some d =>
      if maxPosition < value * 10 + d then .error .tooManyDigits
      else do
        let (n, count, rest) ← readDigits (value * 10 + d) rest
        return (n, count + 1, rest)

/-- Reads a number that may be missing. -/
def readNumber? (t : Text) : Except Problem (Option Nat × Text) := do
  let (n, count, rest) ← readDigits 0 t
  return (if count = 0 then none else some n, rest)

/-- Reads a fill character and a side, of which the first needs the second. -/
def readSide (fill : CodePoint) (side : Side) (t : Text) : CodePoint × Side × Bool × Bool × Text :=
  match t with
  | a :: b :: rest =>
    match sideOf? b with
    | some s => (a, s, true, true, rest)
    | none =>
      match sideOf? a with
      | some s => (fill, s, false, true, b :: rest)
      | none => (fill, side, false, false, t)
  | [a] =>
    match sideOf? a with
    | some s => (fill, s, false, true, [])
    | none => (fill, side, false, false, t)
  | [] => (fill, side, false, false, [])

/-- The characters that ask for a sign. -/
def signs : List CodePoint :=
  ['+', '-', ' ']

/-- Reads the character that asks for a sign, if there is one. -/
def readSign : Text → Option CodePoint × Text
  | [] => (none, [])
  | c :: rest => if signs.contains c then (some c, rest) else (none, c :: rest)

/-- Drops a character from the start, and says whether it was there. -/
def readFlag (flag : CodePoint) : Text → Bool × Text
  | [] => (false, [])
  | c :: rest => if c = flag then (true, rest) else (false, c :: rest)

/-- Reads the signs between groups of digits, of which only one may be given. -/
def readSeparator (t : Text) : Except Problem (Option CodePoint × Text) :=
  let (comma, t) := readFlag ',' t
  let (low, t) := readFlag '_' t
  if comma && low then .error .bothSeparators
  else if low && t.head? = some ',' then .error .bothSeparators
  else .ok (if comma then some ',' else if low then some '_' else none, t)

/-- The letters with which groups of digits may be asked for, besides those of other bases. The null
    character is among them: it says that there is no letter, so what is wrong with it is found only
    where the letter is needed. -/
def groupedLetters : List CodePoint :=
  ['d', 'e', 'f', 'g', 'E', 'G', '%', 'F', '\x00']

/-- The letters of the forms in other bases. -/
def basedLetters : List CodePoint :=
  ['b', 'o', 'x', 'X']

/-- How many digits make a group with a sign between them and a letter. -/
def groupSize (separator : Option CodePoint) (letter : CodePoint) : Except Problem Nat :=
  match separator with
  | none => .ok 0
  | some s =>
    if groupedLetters.contains letter then .ok 3
    else if s = '_' && basedLetters.contains letter then .ok 4
    else .error (.separatorWith s letter)

/-- The letter that a form without one has. -/
def plainLetter : ArgumentType → CodePoint
  | .text => 's'
  | .int => 'd'

/-- The side on which an argument is kept unless its form says otherwise. -/
def plainSide : ArgumentType → Side
  | .text => .left
  | .int => .right

/-- Reads a form for an argument of a type. -/
def readForm (type : ArgumentType) (form : Text) : Except Problem Form := do
  let (fill, chosen, filled, sided, t) := readSide ' ' (plainSide type) form
  let (sign, t) := readSign t
  let (positiveZero, t) := readFlag 'z' t
  let (alternate, t) := readFlag '#' t
  let (zeros, t) := if filled then (false, t) else readFlag '0' t
  let fill : CodePoint := if zeros then '0' else fill
  let chosen := if zeros && !sided && type = .int then Side.afterSign else chosen
  let (width, t) ← readNumber? t
  let (separator, t) ← readSeparator t
  let (precision, t) ←
    match t with
    | '.' :: rest =>
      match readNumber? rest with
      | .error p => .error p
      | .ok (none, _) => .error .noPrecision
      | .ok (some n, rest) => .ok (some n, rest)
    | t => .ok (none, t)
  let letter ←
    match t with
    | [] => .ok (plainLetter type)
    | [c] => .ok c
    | _ => .error (.badForm form type)
  let group ← groupSize separator letter
  return ⟨fill, chosen, sign, positiveZero, alternate, width, separator, group, precision, letter⟩

end Template

end CallSnippets
