import CallSnippets.Fault
import CallSnippets.Text.Quoted

/-!
# Failures of files

Why something that was asked of files was not done. The file system says no for a reason that has a
number and words of its own. A path that holds the null character is not even put to it, for that
character ends paths; nor is a path that is no name, or a text that has no form in bytes.

Where a failure is not answered for, it is let through as the fault that stands for it.

## Main definitions

* `SystemError`: What the file system says.
* `SystemError.messageAt`: What it says about a path, in words.
* `FileError`: Why something was not done.
* `FileError.fault`: The fault that stands for it.
-/

namespace CallSnippets

/-- What the file system says when it does not do what it is asked to. -/
inductive SystemError where
  /-- A part of the path is missing. -/
  | noSuchFile
  /-- What is to be made is there. -/
  | fileExists
  /-- Something else than a directory stands in the middle of the path. -/
  | notDirectory
  /-- A directory stands where a file was asked for. -/
  | isDirectory
  /-- The path or a name in it is too long. -/
  | nameTooLong
  /-- Any other reason. -/
  | other (number : Nat) (words : Text)
  deriving DecidableEq, Repr

namespace SystemError

/-- The number of a reason. -/
def number : SystemError → Nat
  | noSuchFile => 2
  | fileExists => 17
  | notDirectory => 20
  | isDirectory => 21
  | nameTooLong => 36
  | other number _ => number

/-- A reason in words. -/
def words : SystemError → Text
  | noSuchFile => "No such file or directory"
  | fileExists => "File exists"
  | notDirectory => "Not a directory"
  | isDirectory => "Is a directory"
  | nameTooLong => "File name too long"
  | other _ words => words

/-- The kind of the fault that stands for a reason. -/
def faultKind : SystemError → FaultKind
  | noSuchFile => .noSuchFile
  | fileExists => .fileExists
  | notDirectory => .notDirectory
  | isDirectory => .isDirectory
  | nameTooLong => .fileSystem
  | other _ _ => .fileSystem

/-- What is said about a path. -/
def messageAt (path : Text) (e : SystemError) : Text :=
  "[Errno " ++ natText e.number ++ "] " ++ e.words ++ ": " ++ Text.quoted path

end SystemError

/-- Why something that was asked of files was not done. -/
inductive FileError where
  /-- The file system says no. -/
  | system (e : SystemError)
  /-- The path holds the null character. -/
  | nullCharacter
  /-- The path is no name, or what is to be written has no form in bytes. -/
  | unencodable
  deriving DecidableEq, Repr

/-- The fault that stands for a failure at a path. -/
def FileError.fault (path : Text) : FileError → Fault
  | system e => ⟨e.faultKind, e.messageAt path⟩
  | nullCharacter => .value "embedded null byte"
  | unencodable => .unencodable

end CallSnippets
