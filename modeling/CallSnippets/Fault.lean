import CallSnippets.Number.Decimal

/-!
# Faults

A fault is a failure that no part of the library answers for: a template that does not fit its
arguments, a number too long to be written out, a date that does not exist. Rendering a snippet
turns a fault into a failed snippet; loading a file or a configuration lets it through to the
caller, told by its kind and its message.

## Main definitions

* `FaultKind`: The kinds of faults.
* `Fault`: A kind and a message.
* `Fault.tooManyDigits`: A number has too many digits to be written out.
-/

namespace CallSnippets

/-- The kinds of faults. -/
inductive FaultKind where
  /-- A value of the right type that is not acceptable. -/
  | badValue
  /-- A value of a type that does not support the operation. -/
  | badType
  /-- A name that is not among the names given. -/
  | missingKey
  /-- A position beyond the end. -/
  | badIndex
  /-- An attribute that the value does not have. -/
  | missingAttribute
  /-- A number beyond the range of its form. -/
  | overflow
  /-- Bytes that are not UTF-8. -/
  | undecodable
  /-- A text without a form in bytes. -/
  | unencodable
  /-- A directory stands where a file is to be written. -/
  | isDirectory
  /-- A file stands in the middle of a path. -/
  | notDirectory
  /-- A file stands where a directory is to be made. -/
  | fileExists
  /-- A part of a path is missing. -/
  | noSuchFile
  /-- There is not enough memory for the result. -/
  | outOfMemory
  /-- The file system refuses the path for another reason. -/
  | fileSystem
  deriving DecidableEq, Repr

/-- A failure that is let through to the caller. -/
structure Fault where
  /-- The kind of the failure. -/
  kind : FaultKind
  /-- What the failure is, in words. -/
  message : Text
  deriving DecidableEq, Repr

namespace Fault

/-- A fault of a value. -/
def value (message : Text) : Fault :=
  ⟨.badValue, message⟩

/-- A fault of a type. -/
def type (message : Text) : Fault :=
  ⟨.badType, message⟩

/-- How messages name the limit on digits. -/
def limitText : Text :=
  "Exceeds the limit (" ++ natText digitLimit ++ " digits) for integer string conversion"

/-- How messages end that name the limit on digits. -/
def limitAdvice : Text :=
  "; use sys.set_int_max_str_digits() to increase the limit"

/-- A number has too many digits to be written out. -/
def tooManyDigits : Fault :=
  value (limitText ++ limitAdvice)

/-- A text has too many digits to be read as a number. -/
def tooManyDigitsToRead (count : Nat) : Fault :=
  value (limitText ++ ": value has " ++ natText count ++ " digits" ++ limitAdvice)

/-- The bytes of a file are not UTF-8. -/
def undecodable : Fault :=
  ⟨.undecodable, []⟩

/-- A text holds a half of a pair, which has no form in bytes. -/
def unencodable : Fault :=
  ⟨.unencodable, "surrogates not allowed"⟩

end Fault

/-- The decimal text of a whole number, or the fault that it is too long. -/
def intTextOrFault (n : Int) : Except Fault Text :=
  match intText? n with
  | some t => .ok t
  | none => .error .tooManyDigits

end CallSnippets
