import CallSnippets.Text.Basic

/-!
# Reports of refusals

How a refusal is told to the outside: its class, its words, and the code that the program ends with.
Each class has a code of its own, which a report may override. The classes that concern one snippet
also tell why there is none, and whether better input would help.

## Main definitions

* `FailureKind`: Why there is no snippet.
* `RefusalClass`: The classes of refusals.
* `RefusalClass.exitCode`, `RefusalClass.failureKind?`: What the class alone says.
* `Report`: A report.
-/

namespace CallSnippets

/-- Why there is no snippet. -/
inductive FailureKind where
  /-- The method needs a body, and the request has none. -/
  | missingBody
  /-- The language has no call for the method. -/
  | unsupportedMethod
  /-- The parts of the snippet could not be put together. -/
  | assembly
  deriving DecidableEq, Repr

namespace FailureKind

/-- The name of a kind. -/
def name : FailureKind → Text
  | missingBody => "missing_body"
  | unsupportedMethod => "unsupported_method"
  | assembly => "assembly"

/-- Better input would help. -/
def isRecoverable (kind : FailureKind) : Bool :=
  kind ≠ assembly

end FailureKind

/-- The classes of refusals. -/
inductive RefusalClass where
  /-- Any refusal. -/
  | any
  /-- A file of requests, or a request in it, cannot be loaded. -/
  | request
  /-- A language is not known. -/
  | language
  /-- The settings cannot be read or are not valid. -/
  | settings
  /-- A snippet could not be made. -/
  | snippet
  /-- A snippet could not be made because the request has no body. -/
  | missingBody
  /-- A snippet could not be made because the language has no call for the method. -/
  | unsupportedMethod
  /-- A snippet could not be made because its parts could not be put together. -/
  | assembly
  deriving DecidableEq, Repr

namespace RefusalClass

/-- The code that the program ends with. -/
def exitCode : RefusalClass → Int
  | any => 1
  | request => 2
  | language => 2
  | settings => 2
  | snippet => 3
  | missingBody => 3
  | unsupportedMethod => 3
  | assembly => 3

/-- Why there is no snippet, for the classes that concern one. -/
def failureKind? : RefusalClass → Option FailureKind
  | any => none
  | request => none
  | language => none
  | settings => none
  | snippet => some .assembly
  | missingBody => some .missingBody
  | unsupportedMethod => some .unsupportedMethod
  | assembly => some .assembly

end RefusalClass

/-- A refusal as it is told to the outside. -/
structure Report where
  /-- The class of the refusal. -/
  cls : RefusalClass
  /-- The refusal in words. -/
  message : Text
  /-- The code that the program ends with. -/
  exitCode : Int
  deriving DecidableEq, Repr

/-- A report with the code that is given for it, else with that of its class. -/
def Report.of (cls : RefusalClass) (message : Text) (exitCode : Option Int) : Report :=
  ⟨cls, message, exitCode.getD cls.exitCode⟩

end CallSnippets
