import CallSnippets.Number.Fixed
import CallSnippets.Template.Form
import CallSnippets.Text.Case

/-!
# Arguments laid out in a form

A text is cut to a count of characters and filled up to a width. A whole number is written in the
base or with the count of places that the letter asks for, with a sign, in groups of digits, and
filled up to a width, where zeros behind the sign are grouped like the digits.

## Main definitions

* `Template.Argument`: A text or a whole number.
* `Template.layoutText`, `Template.layoutInt`: The two in a form.
* `Template.layout`: An argument in the form with the given text.
-/

namespace CallSnippets

namespace Template

/-- An argument of a template. -/
inductive Argument where
  /-- A text. -/
  | text (t : Text)
  /-- A whole number. -/
  | int (n : Int)
  deriving DecidableEq, Repr

/-- The type of an argument. -/
def Argument.type : Argument → ArgumentType
  | .text _ => .text
  | .int _ => .int

/-- The greatest width that is filled up. -/
def maxWidth : Nat := Nat.pow 2 31

/-- A text filled up on the sides that keep it where it belongs. -/
def pad (fill : CodePoint) (side : Side) (width : Option Nat) (t : Text) : Text :=
  let missing := width.getD 0 - t.length
  match side with
  | .left | .afterSign => t ++ Text.repeated missing fill
  | .right => Text.repeated missing fill ++ t
  | .middle => Text.repeated (missing / 2) fill ++ t ++ Text.repeated (missing - missing / 2) fill

/-- The width of a form can be filled up. -/
def checkWidth (form : Form) : Except Problem Unit :=
  if maxWidth < form.width.getD 0 then .error .tooLarge else .ok ()

/-- A text in a form. -/
def layoutText (form : Form) (t : Text) : Except Problem Text := do
  if form.letter ≠ 's' then .error (.unknownLetter form.letter .text)
  match form.sign with
  | some ' ' => .error .blankInText
  | some _ => .error .signInText
  | none => pure ()
  if form.positiveZero then .error .positiveZeroInText
  if form.alternate then .error .alternateInText
  if form.side = .afterSign then .error .signPaddingInText
  checkWidth form
  let kept := match form.precision with
    | some n => t.take n
    | none => t
  return pad form.fill form.side form.width kept

/-- The digits of a number, last first, in groups with a sign between them, filled up with zeros to
    a least width that counts the signs too. -/
def groupedReverse (fuel : Nat) (separator : CodePoint) (group : Nat) (width : Int) (digits : Text) :
    Text :=
  match fuel with
  | 0 => digits
  | fuel + 1 =>
    let size : Int := min (group : Int) (max (max (digits.length : Int) width) 1)
    let taken := digits.take size.toNat
    let zeros := Text.repeated (size.toNat - digits.length) '0'
    let rest := digits.drop size.toNat
    let width := width - size
    if rest.isEmpty && width ≤ 0 then taken ++ zeros
    else taken ++ zeros ++ separator :: groupedReverse fuel separator group (width - 1) rest

/-- The digits of a number in groups, if the form asks for them, filled up with zeros to a least
    width. -/
def grouped (form : Form) (width : Nat) (digits : Text) : Text :=
  match form.separator with
  | some separator =>
    if digits.isEmpty then []
    else
      let fuel := digits.length + width + 1
      (groupedReverse fuel separator form.group width digits.reverse).reverse
  | none => if digits.isEmpty then [] else zeroFilled width digits

/-- The sign that is written before a number. -/
def signText (form : Form) (negative : Bool) : Text :=
  if negative then ['-']
  else match form.sign with
    | some '+' => ['+']
    | some ' ' => [' ']
    | _ => []

/-- The parts of a number put together: its sign, a mark, digits to be grouped, and what follows
    them. Zeros behind the sign join the digits; any other filling stays outside. -/
def layoutNumber (form : Form) (negative : Bool) (mark digits tail : Text) : Text :=
  let sign := signText form negative
  let width := form.width.getD 0
  let around := sign.length + mark.length + tail.length
  let least := if form.fill = '0' ∧ form.side = .afterSign then width - around else 0
  let body := grouped form least digits
  match form.side with
  | .afterSign =>
    let missing := width - (around + body.length)
    sign ++ mark ++ Text.repeated missing form.fill ++ body ++ tail
  | side => pad form.fill side form.width (sign ++ mark ++ body ++ tail)

/-- The base that a letter asks for, with the mark of the base. -/
def baseOf? : CodePoint → Option (Nat × Text)
  | 'b' => some (2, "0b")
  | 'o' => some (8, "0o")
  | 'x' => some (16, "0x")
  | 'X' => some (16, "0X")
  | _ => none

/-- The letters that ask for a number with a fraction. -/
def floatLetters : List CodePoint :=
  ['e', 'E', 'f', 'F', 'g', 'G', '%']

/-- The letter asks for a number with a fraction. -/
def isFloatLetter (c : CodePoint) : Bool :=
  floatLetters.contains c

/-- The letter asks for large letters. -/
def isLargeLetter (c : CodePoint) : Bool :=
  'A' ≤ c && c ≤ 'Z'

/-- The greatest count of digits after the point. -/
def maxPrecision : Nat := Nat.pow 2 31 - 1

/-- The text of the size of a number with a fraction, as the letter asks for. -/
def sizeText (form : Form) (x : Binary64) : Text :=
  let places := form.precision.getD 6
  match x with
  | .finite _ m q =>
    let (num, den) := Binary64.fraction m q
    let keep := form.alternate
    match form.letter with
    | 'e' => scientificText 'e' keep places num den
    | 'E' => scientificText 'E' keep places num den
    | 'g' => generalText 'e' keep places num den
    | 'G' => generalText 'E' keep places num den
    | _ => fixedText keep places num den
  | .infinite _ => if isLargeLetter form.letter then "INF" else "inf"
  | .nan => if isLargeLetter form.letter then "NAN" else "nan"

/-- A whole number in a form that asks for a number with a fraction. -/
def layoutFloat (form : Form) (n : Int) : Except Problem Text := do
  let some x := Binary64.ofInt? n | .error .beyondFloat
  if maxPrecision < form.precision.getD 0 then .error .precisionTooLarge
  checkWidth form
  let x := if form.letter = '%' then x.mul (Binary64.round false 100 1) else x
  let size := sizeText form x ++ (if form.letter = '%' then "%" else "" : Text)
  let (digits, tail) := size.span Text.isAsciiDigit
  return layoutNumber form (n < 0) [] digits tail

/-- The character with a code point in a form. -/
def layoutChar (form : Form) (n : Int) : Except Problem Text := do
  if form.sign.isSome then .error .signInChar
  if form.alternate then .error .alternateInChar
  if !fitsWord n then .error .beyondWord
  if n < 0 ∨ 0x10FFFF < n then .error .noCodePoint
  checkWidth form
  return layoutNumber form false [] [] [CodePoint.ofNat n.toNat]

/-- The letters of the forms that whole numbers have of their own. -/
def intLetters : List CodePoint := ['b', 'c', 'd', 'o', 'x', 'X', 'n']

/-- A whole number in a form. -/
def layoutInt (form : Form) (n : Int) : Except Problem Text := do
  if isFloatLetter form.letter then layoutFloat form n
  else if !intLetters.contains form.letter then .error (.unknownLetter form.letter .int)
  else
    if form.precision.isSome then .error .precisionInInt
    if form.positiveZero then .error .positiveZeroInInt
    if form.letter = 'c' then layoutChar form n
    else
      let (mark, digits) ←
        match baseOf? form.letter with
        | some (base, mark) =>
          let digits := basedText base n.natAbs
          .ok (if form.alternate then mark else [],
            if form.letter = 'X' then Text.upper digits else digits)
        | none =>
          match intText? n with
          | some _ => .ok ([], natText n.natAbs)
          | none => .error .tooLong
      checkWidth form
      return layoutNumber form (n < 0) mark digits []

/-- The text of an argument without a form. -/
def Argument.plain : Argument → Except Problem Text
  | .text t => .ok t
  | .int n =>
    match intText? n with
    | some t => .ok t
    | none => .error .tooLong

/-- An argument in the form with the given text. -/
def layout (form : Text) (a : Argument) : Except Problem Text :=
  if form.isEmpty then a.plain
  else do
    let parts ← readForm a.type form
    match a with
    | .text t => layoutText parts t
    | .int n => layoutInt parts n

end Template

end CallSnippets
