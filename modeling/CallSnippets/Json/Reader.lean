import CallSnippets.Text.Code
import CallSnippets.Value.Basic

/-!
# Reading JSON

A reader of JSON texts. It accepts the grammar of JSON with two additions: the words for infinity
and for the value that is no number, and duplicate names in an object, of which the last counts.
A text that is not accepted is answered with what was expected and where.

The reader walks over the rest of the text. A failure carries the rest at which it arose, and the
position is counted from it only when the failure is shown.

## Main definitions

* `Json.Problem`, `Json.Failure`: Why a text is not accepted.
* `Json.readString`, `Json.readNumber`, `Json.readValue`: The readers of the parts.
* `Json.read`: Reads a whole text.
* `Json.Failure.message`: The problem with its line, column and position.
-/

namespace CallSnippets

namespace Json

/-- What is wrong with a text that is no JSON. -/
inductive Problem where
  /-- The text starts with a byte order mark. -/
  | byteOrderMark
  /-- A value was expected. -/
  | expectedValue
  /-- The name of a member was expected. -/
  | expectedName
  /-- A colon was expected. -/
  | expectedColon
  /-- A comma was expected. -/
  | expectedComma
  /-- The text goes on after the value. -/
  | extraData
  /-- A string has no end. -/
  | unterminatedString
  /-- A string holds a control character. -/
  | controlCharacter
  /-- A backslash in a string is followed by the wrong character. -/
  | badEscape
  /-- An escape by code point has not four hexadecimal digits. -/
  | badCodeEscape
  deriving DecidableEq, Repr

/-- Why reading failed. -/
inductive Failure where
  /-- The text is no JSON; the problem was found before the given rest of it. -/
  | malformed (problem : Problem) (rest : Text)
  /-- A whole number has more digits than the limit allows. -/
  | tooLong (digits : Nat)
  deriving DecidableEq, Repr

/-- The characters between the tokens of JSON. -/
def isSpace (c : CodePoint) : Bool :=
  c = ' ' || c = '\t' || c = '\n' || c = '\r'

/-- The rest of the text after white space. -/
def skipSpace (t : Text) : Text :=
  t.dropWhile isSpace

/-- The character that an escape of one letter stands for. -/
def simpleEscape (c : CodePoint) : Option CodePoint :=
  match c with
  | '"' => some '"'
  | '\\' => some '\\'
  | '/' => some '/'
  | 'b' => some (CodePoint.ofNat 8)
  | 'f' => some (CodePoint.ofNat 12)
  | 'n' => some '\n'
  | 'r' => some '\r'
  | 't' => some '\t'
  | _ => none

/-- Reads an escape by code point, from behind its letter. The text must go on after the digits,
    and a second half is joined to a first one if the text goes on after both. -/
def readCodeEscape (letter : Text) : Except Failure (CodePoint × Text) :=
  let bad (place : Text) : Except Failure (CodePoint × Text) := .error (.malformed .badCodeEscape place)
  match Text.hexNumber? 4 0 (letter.drop 1) with
  | none => bad letter
  | some (_, []) => bad letter
  | some (n, rest) =>
    match rest with
    | '\\' :: 'u' :: second =>
      if Text.isHighHalf n && 4 < second.length then
        match Text.hexNumber? 4 0 second with
        | none => bad ('u' :: second)
        | some (m, rest') =>
          if Text.isLowHalf m then .ok (Text.joinHalves n m, rest') else .ok (CodePoint.ofNat n, rest)
      else .ok (CodePoint.ofNat n, rest)
    | _ => .ok (CodePoint.ofNat n, rest)

/-- Reads the characters of a string up to its closing mark, with the place of its opening mark for
    the case that it has no end. -/
def readString (fuel : Nat) (opening : Text) : Text → Except Failure (Text × Text)
  | [] => .error (.malformed .unterminatedString opening)
  | '"' :: rest => .ok ([], rest)
  | ['\\'] => .error (.malformed .unterminatedString opening)
  | '\\' :: c :: rest =>
    match fuel with
    | 0 => .error (.malformed .unterminatedString opening)
    | fuel + 1 => do
      let (c, rest) ←
        if c = 'u' then readCodeEscape (c :: rest)
        else match simpleEscape c with
          | some e => .ok (e, rest)
          | none => .error (.malformed .badEscape ('\\' :: c :: rest))
      let (t, rest) ← readString fuel opening rest
      return (c :: t, rest)
  | c :: rest =>
    match fuel with
    | 0 => .error (.malformed .unterminatedString opening)
    | fuel + 1 =>
      if c.toNat < 0x20 then .error (.malformed .controlCharacter (c :: rest))
      else do
        let (t, rest) ← readString fuel opening rest
        return (c :: t, rest)

/-- Splits off the digits from 0 to 9 that a text starts with. -/
def spanDigits (t : Text) : Text × Text :=
  t.span Text.isAsciiDigit

/-- The number that a text of digits from 0 to 9 stands for. -/
def digitsNumber (t : Text) : Nat :=
  ofDigits 10 (t.map fun c => c.toNat - 48)

/-- Splits off the digits of a whole number: a zero alone, or digits that start with another. -/
def spanWhole : Text → Option (Text × Text)
  | '0' :: rest => some (['0'], rest)
  | t =>
    match spanDigits t with
    | ([], _) => none
    | split => some split

/-- Splits off a point with digits after it. -/
def spanFraction : Text → Text × Text
  | '.' :: rest =>
    match spanDigits rest with
    | ([], _) => ([], '.' :: rest)
    | split => split
  | t => ([], t)

/-- Splits off a minus, and whether there is one. -/
def spanMinus : Text → Bool × Text
  | '-' :: rest => (true, rest)
  | t => (false, t)

/-- Splits off a sign, and whether it is a minus. -/
def spanSign : Text → Bool × Text
  | '-' :: rest => (true, rest)
  | '+' :: rest => (false, rest)
  | t => (false, t)

/-- Splits off an exponent, which is kept apart only if it has digits. -/
def spanExponent : Text → Option Int × Text
  | c :: rest =>
    if c = 'e' ∨ c = 'E' then
      let (negative, digits) := spanSign rest
      match spanDigits digits with
      | ([], _) => (none, c :: rest)
      | (ds, after) =>
        let n : Int := digitsNumber ds
        (some (if negative then -n else n), after)
    else (none, c :: rest)
  | [] => (none, [])

/-- Reads a number. With neither fraction nor exponent it is a whole one, to which a limit on the
    digits applies if one is given. -/
def readNumber (limit : Option Nat) (t : Text) : Except Failure (Value × Text) :=
  let (negative, body) := spanMinus t
  match spanWhole body with
  | none => .error (.malformed .expectedValue t)
  | some (whole, rest) =>
    let (fraction, rest) := spanFraction rest
    let (exponent, rest) := spanExponent rest
    if fraction.isEmpty && exponent.isNone then
      match limit with
      | some most =>
        if most < whole.length then .error (.tooLong whole.length)
        else .ok (.int (if negative then -digitsNumber whole else digitsNumber whole), rest)
      | none => .ok (.int (if negative then -digitsNumber whole else digitsNumber whole), rest)
    else
      let power : Int := exponent.getD 0 - fraction.length
      .ok (.float (.ofDecimal negative (digitsNumber (whole ++ fraction)) power), rest)

/-- The words that stand for values. -/
def words : List (Text × Value) :=
  [("null", .null), ("true", .bool true), ("false", .bool false), ("NaN", .float .nan),
    ("Infinity", .float (.infinite false)), ("-Infinity", .float (.infinite true))]

/-- Reads one of the words that stand for values. -/
def readWord? (t : Text) : Option (Value × Text) :=
  words.findSome? fun w => (Text.dropStart? w.1 t).map fun rest => (w.2, rest)

mutual

/-- Reads a value. -/
def readValue (fuel : Nat) (limit : Option Nat) (t : Text) : Except Failure (Value × Text) :=
  match fuel with
  | 0 => .error (.malformed .expectedValue t)
  | fuel + 1 =>
    match t with
    | '"' :: rest => do
      let (s, rest) ← readString rest.length t rest
      return (.text s, rest)
    | '{' :: rest =>
      match skipSpace rest with
      | '}' :: rest => .ok (.map [], rest)
      | rest => do
        let (entries, rest) ← readMembers fuel limit rest
        return (.map (Value.ofEntries entries), rest)
    | '[' :: rest =>
      match skipSpace rest with
      | ']' :: rest => .ok (.list [], rest)
      | rest => do
        let (items, rest) ← readItems fuel limit rest
        return (.list items, rest)
    | t =>
      match readWord? t with
      | some found => .ok found
      | none => readNumber limit t

/-- Reads the members of an object up to its end, at least one. -/
def readMembers (fuel : Nat) (limit : Option Nat) (t : Text) :
    Except Failure (List (Value × Value) × Text) :=
  match fuel with
  | 0 => .error (.malformed .expectedName t)
  | fuel + 1 =>
    match t with
    | '"' :: rest => do
      let (name, rest) ← readString rest.length t rest
      match skipSpace rest with
      | ':' :: rest =>
        let (value, rest) ← readValue fuel limit (skipSpace rest)
        match skipSpace rest with
        | '}' :: rest => return ([(.text name, value)], rest)
        | ',' :: rest =>
          let (entries, rest) ← readMembers fuel limit (skipSpace rest)
          return ((.text name, value) :: entries, rest)
        | rest => .error (.malformed .expectedComma rest)
      | rest => .error (.malformed .expectedColon rest)
    | t => .error (.malformed .expectedName t)

/-- Reads the items of an array up to its end, at least one. -/
def readItems (fuel : Nat) (limit : Option Nat) (t : Text) :
    Except Failure (List Value × Text) :=
  match fuel with
  | 0 => .error (.malformed .expectedValue t)
  | fuel + 1 => do
    let (value, rest) ← readValue fuel limit t
    match skipSpace rest with
    | ']' :: rest => return ([value], rest)
    | ',' :: rest =>
      let (items, rest) ← readItems fuel limit (skipSpace rest)
      return (value :: items, rest)
    | rest => .error (.malformed .expectedComma rest)

end

/-- Reads a whole text as one JSON value with white space around it, with a limit on the digits of
    whole numbers if one is given. Each step into a value passes a character, so the length of the
    text bounds the depth. -/
def read (limit : Option Nat) (t : Text) : Except Failure Value :=
  if t.head? = some Text.byteOrderMark then .error (.malformed .byteOrderMark t)
  else do
    let (value, rest) ← readValue (2 * t.length + 2) limit (skipSpace t)
    match skipSpace rest with
    | [] => return value
    | rest => .error (.malformed .extraData rest)

/-- What a problem is, in words. -/
def Problem.text : Problem → Text
  | .byteOrderMark => "Unexpected UTF-8 BOM (decode using utf-8-sig)"
  | .expectedValue => "Expecting value"
  | .expectedName => "Expecting property name enclosed in double quotes"
  | .expectedColon => "Expecting ':' delimiter"
  | .expectedComma => "Expecting ',' delimiter"
  | .extraData => "Extra data"
  | .unterminatedString => "Unterminated string starting at"
  | .controlCharacter => "Invalid control character at"
  | .badEscape => "Invalid \\escape"
  | .badCodeEscape => "Invalid \\uXXXX escape"

/-- The place at which the given rest of a text starts: its line, its column and its position. -/
def placeText (t rest : Text) : Text :=
  let position := t.length - rest.length
  let before := t.take position
  let line := (Text.lines before).length
  let column := (Text.spanAt '\n' before.reverse).1.length + 1
  "line " ++ natText line ++ " column " ++ natText column ++ " (char " ++ natText position ++ ")"

/-- The problem of a text with the place where it was found. -/
def Problem.message (problem : Problem) (t rest : Text) : Text :=
  problem.text ++ ": " ++ placeText t rest

end Json

end CallSnippets
