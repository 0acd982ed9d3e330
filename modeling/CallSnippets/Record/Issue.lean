import CallSnippets.Number.Decimal

/-!
# Issues

What is found wrong with data that is to be read as a record. Each finding says what was expected
and where it was missed: the steps from the whole to the part, each the name of a field or key or
the position of an item. All findings are kept, in the order of the fields.

## Main definitions

* `Cause`: What was missed.
* `Cause.kind`, `Cause.message`: Its short name and its words.
* `Step`: A step into data.
* `Issue`: A cause at a place.
-/

namespace CallSnippets

/-- What was missed. -/
inductive Cause where
  /-- A field has to be given. -/
  | missing
  /-- A text was expected. -/
  | notText
  /-- Bytes given for a text are not UTF-8, or a text holds a half of a pair where none may be. -/
  | notUnicode
  /-- A whole number was expected. -/
  | notInt
  /-- A text given for a whole number is none. -/
  | unreadableInt
  /-- A whole number is beyond the range of what was given for it. -/
  | intBeyondRange
  /-- A number given for a whole number has a fraction. -/
  | intWithFraction
  /-- A number given for a whole number is not finite. -/
  | notFinite
  /-- A truth value was expected. -/
  | notBool
  /-- A text or number given for a truth value is none of the known ones. -/
  | unreadableBool
  /-- A row of values was expected. -/
  | notTuple
  /-- A row has more values than it may have. -/
  | tupleTooLong (most count : Nat)
  /-- A list has no items. -/
  | emptyList
  /-- A list was expected. -/
  | notList
  /-- A set was expected. -/
  | notSet
  /-- A mapping was expected. -/
  | notMap
  /-- A mapping with the fields of a record was expected. -/
  | notRecord (name : Text)
  /-- One of the given names was expected. -/
  | notAmong (names : List Text)
  /-- A path was expected. -/
  | notPath
  /-- A number is less than it may be. -/
  | tooSmall (least : Nat)
  /-- The parts are well-formed, but together they are refused. -/
  | refused (message : Text)
  deriving DecidableEq, Repr

namespace Cause

/-- Names in quotation marks, the last after the word for a choice. -/
def choices : List Text → Text
  | [] => []
  | [name] => "'" ++ name ++ "'"
  | [name, last] => "'" ++ name ++ "' or '" ++ last ++ "'"
  | name :: rest => "'" ++ name ++ "', " ++ choices rest

/-- The short name of the cause. -/
def kind : Cause → Text
  | missing => "missing"
  | notText => "string_type"
  | notUnicode => "string_unicode"
  | notInt => "int_type"
  | unreadableInt => "int_parsing"
  | intBeyondRange => "int_parsing_size"
  | intWithFraction => "int_from_float"
  | notFinite => "finite_number"
  | notBool => "bool_type"
  | unreadableBool => "bool_parsing"
  | notTuple => "tuple_type"
  | tupleTooLong _ _ => "too_long"
  | emptyList => "too_short"
  | notList => "list_type"
  | notSet => "frozen_set_type"
  | notMap => "dict_type"
  | notRecord _ => "model_type"
  | notAmong _ => "enum"
  | notPath => "path_type"
  | tooSmall _ => "greater_than_equal"
  | refused _ => "value_error"

/-- The cause in words. -/
def message : Cause → Text
  | missing => "Field required"
  | notText => "Input should be a valid string"
  | notUnicode => "Input should be a valid string, unable to parse raw data as a unicode string"
  | notInt => "Input should be a valid integer"
  | unreadableInt => "Input should be a valid integer, unable to parse string as an integer"
  | intBeyondRange => "Unable to parse input string as an integer, exceeded maximum size"
  | intWithFraction => "Input should be a valid integer, got a number with a fractional part"
  | notFinite => "Input should be a finite number"
  | notBool => "Input should be a valid boolean"
  | unreadableBool => "Input should be a valid boolean, unable to interpret input"
  | notTuple => "Input should be a valid tuple"
  | tupleTooLong most count =>
    "Tuple should have at most " ++ natText most ++ " items after validation, not " ++ natText count
  | emptyList => "List should have at least 1 item after validation, not 0"
  | notList => "Input should be a valid list"
  | notSet => "Input should be a valid frozenset"
  | notMap => "Input should be a valid dictionary"
  | notRecord name => "Input should be a valid dictionary or instance of " ++ name
  | notAmong names => "Input should be " ++ choices names
  | notPath => "Input is not a valid path for <class 'pathlib.Path'>"
  | tooSmall least => "Input should be greater than or equal to " ++ natText least
  | refused message => "Value error, " ++ message

end Cause

/-- A step from data to one of its parts. -/
inductive Step where
  /-- To the part with a name. -/
  | name (t : Text)
  /-- To the part at a position or with a number for a key. -/
  | index (n : Int)
  deriving DecidableEq, Repr

/-- What was missed, and the steps to where it was missed. -/
structure Issue where
  /-- What was missed. -/
  cause : Cause
  /-- The steps from the whole to the part. -/
  place : List Step
  deriving DecidableEq, Repr

/-- The issue as seen from one step further out. -/
def Issue.under (step : Step) (issue : Issue) : Issue :=
  { issue with place := step :: issue.place }

end CallSnippets
