import CallSnippets.Text.Code
import CallSnippets.Yaml.Node
import CallSnippets.Yaml.Stamp

/-!
# Scalars without a tag

A scalar without quotation marks and without a tag is known by its form: there are words for truth
values and for nothing, and forms for whole numbers in several bases, numbers with a fraction, days
and moments. Everything else is a text.

Low lines may stand between the digits of a number, and numbers may be written in base sixty with
colons between the places. A number with an exponent but without a point is a text.

## Main definitions

* `Yaml.isBoolForm`, `Yaml.isNullForm`, `Yaml.isIntForm`, `Yaml.isFloatForm`, `Yaml.isStampForm`: The
  forms.
* `Yaml.implicitTag`: The tag of a scalar by its form.
-/

namespace CallSnippets

namespace Yaml

/-- The words for truth values. -/
def boolWords : List Text :=
  List.map Text.ofString
    ["yes", "Yes", "YES", "no", "No", "NO", "true", "True", "TRUE", "false", "False", "FALSE", "on",
      "On", "ON", "off", "Off", "OFF"]

/-- The text is a word for a truth value. -/
def isBoolForm (t : Text) : Bool :=
  boolWords.contains t

/-- The text is a word for nothing. -/
def isNullForm (t : Text) : Bool :=
  [("" : Text), "~", "null", "Null", "NULL"].contains t

/-- The character is a digit from 0 to 9 or a low line. -/
def isSpacedDigit (c : CodePoint) : Bool :=
  Text.isAsciiDigit c || c = '_'

/-- The text without a sign at its start. -/
def dropSign : Text → Text
  | '-' :: rest => rest
  | '+' :: rest => rest
  | t => t

/-- The text has characters, and all of them pass a test. -/
def isRunOf (test : CodePoint → Bool) (t : Text) : Bool :=
  !t.isEmpty && t.all test

/-- The text is a digit and then digits and low lines. -/
def isSpacedNumber : Text → Bool
  | [] => false
  | c :: rest => Text.isAsciiDigit c && rest.all isSpacedDigit

/-- The text is a place below sixty: one digit, or two of which the first is at most five. -/
def isSixtyPlace : Text → Bool
  | [c] => Text.isAsciiDigit c
  | [c, d] => '0' ≤ c && c ≤ '5' && Text.isAsciiDigit d
  | _ => false

/-- The text is a number in base sixty with at least two places, the first of which passes a test. -/
def isSixtyNumber (first : Text → Bool) (t : Text) : Bool :=
  match Text.splitOn ':' t with
  | head :: place :: places => first head && (place :: places).all isSixtyPlace
  | _ => false

/-- The text is a whole number in one of the forms without sign. -/
def isIntBody (t : Text) : Bool :=
  let positive (t : Text) : Bool := isSpacedNumber t && t.head? ≠ some '0'
  match t with
  | ['0'] => true
  | '0' :: 'b' :: rest => isRunOf (fun c => c = '0' || c = '1' || c = '_') rest
  | '0' :: 'x' :: rest => isRunOf (fun c => (Text.hexValue c).isSome || c = '_') rest
  | '0' :: rest => isRunOf (fun c => ('0' ≤ c && c ≤ '7') || c = '_') rest
  | t => positive t || isSixtyNumber positive t

/-- The text has the form of a whole number. -/
def isIntForm (t : Text) : Bool :=
  isIntBody (dropSign t)

/-- The text is an exponent with its sign, or empty. -/
def isExponent : Text → Bool
  | [] => true
  | e :: sign :: digits =>
    (e = 'e' || e = 'E') && (sign = '+' || sign = '-') && isRunOf Text.isAsciiDigit digits
  | _ => false

/-- The text is digits and low lines and then an exponent or nothing. -/
def isFraction (t : Text) : Bool :=
  isExponent (t.dropWhile isSpacedDigit)

/-- The text has the form of a number with a fraction. -/
def isFloatForm (t : Text) : Bool :=
  let body := dropSign t
  match body.spanAt '.' with
  | ([], '.' :: rest) =>
    [("inf" : Text), "Inf", "INF"].contains rest ||
      (body = t && ([("nan" : Text), "NaN", "NAN"].contains rest ||
        (rest.head?.any Text.isAsciiDigit && isFraction rest)))
  | (whole, '.' :: rest) =>
    (isSpacedNumber whole && isFraction rest) ||
      (isSixtyNumber isSpacedNumber whole && rest.all isSpacedDigit)
  | _ => false

/-- The text has the form of a day or a moment. A day without a time has all its digits. -/
def isStampForm (t : Text) : Bool :=
  match readStamp? t with
  | none => false
  | some s => s.clock.isSome || t.length = 10

/-- The text without a line feed at its end, which the forms do not count. -/
def dropFinalBreak (t : Text) : Text :=
  match t.getLast? with
  | some '\n' => if t.length = 1 then t else t.dropLast
  | _ => t

/-- The tag of a scalar by its form. -/
def implicitTag (text : Text) : Tag :=
  let t := dropFinalBreak text
  if isBoolForm t then .bool
  else if isFloatForm t then .float
  else if isIntForm t then .int
  else if t = "<<" then .merge
  else if isNullForm t then .null
  else if isStampForm t then .timestamp
  else if t = "=" then .value
  else if [("!" : Text), "&", "*"].contains t then .unknown
  else .str

end Yaml

end CallSnippets
