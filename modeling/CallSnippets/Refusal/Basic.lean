import CallSnippets.Files.Failure
import CallSnippets.Record.Issue
import CallSnippets.Refusal.Report

/-!
# Refusals

What the library answers for itself when it does not do what it is asked to: a snippet that cannot
be made, a language that is not known, a file that cannot be loaded, settings that are not valid. A
refusal is kept as its cause, and only the report puts it into words.

Everything that calls on files or templates may also end in a fault, which no refusal stands for.

## Main definitions

* `SnippetFailure`: Why a snippet could not be made.
* `Refusal`: A refusal.
* `Refusal.report`: The refusal in words.
* `Trouble`: A refusal or a fault.
-/

namespace CallSnippets

/-- Why a snippet could not be made. -/
inductive SnippetFailure where
  /-- The language has no call for the method. -/
  | unsupportedMethod (method language : Text)
  /-- The method needs a body, and the request has none. -/
  | missingBody (method language : Text)
  /-- The parts of the snippet could not be put together. -/
  | assembly (fault : Fault)
  deriving DecidableEq, Repr

namespace SnippetFailure

/-- The class of the failure. -/
def cls : SnippetFailure → RefusalClass
  | unsupportedMethod _ _ => .unsupportedMethod
  | missingBody _ _ => .missingBody
  | assembly _ => .assembly

/-- The kind of the failure. -/
def kind : SnippetFailure → FailureKind
  | unsupportedMethod _ _ => .unsupportedMethod
  | missingBody _ _ => .missingBody
  | assembly _ => .assembly

/-- The failure in words. -/
def message : SnippetFailure → Text
  | unsupportedMethod method language =>
    "HTTP method " ++ method ++ " not implemented for " ++ language
  | missingBody method language => "No body present for " ++ method ++ " method in " ++ language
  | assembly fault => fault.message

end SnippetFailure

/-- What the library does not do, and why. -/
inductive Refusal where
  /-- A snippet cannot be made. -/
  | snippet (failure : SnippetFailure)
  /-- A language is not among those that are available. -/
  | unknownLanguage (name : Text) (available : List Text)
  /-- A file of requests cannot be read. -/
  | unreadableFile (path : Text) (error : SystemError)
  /-- A file of requests is no document. -/
  | malformedFile (path : Text)
  /-- A file of requests holds something else than a mapping. -/
  | fileNotMapping (path : Text)
  /-- What a file names as its requests is no list. -/
  | requestsNotList (path : Text)
  /-- A request of a file is no mapping. -/
  | requestNotMapping (path : Text) (number : Nat)
  /-- A request of a file is not valid. -/
  | invalidRequest (path : Text) (number : Nat) (issues : List Issue)
  /-- Two requests of a file have one name. -/
  | duplicateName (path name : Text)
  /-- A file holds another count of requests than one. -/
  | notOneRequest (path : Text) (count : Nat)
  /-- The settings cannot be read. -/
  | unreadableSettings (path : Text) (error : SystemError)
  /-- The settings are no document. -/
  | malformedSettings (path : Text)
  /-- The settings are no mapping. -/
  | settingsNotMapping (path : Text)
  /-- The settings are not valid. -/
  | invalidSettings (issues : List Issue)
  deriving DecidableEq, Repr

namespace Refusal

/-- The class of a refusal. -/
def cls : Refusal → RefusalClass
  | snippet failure => failure.cls
  | unknownLanguage _ _ => .language
  | unreadableFile _ _ => .request
  | malformedFile _ => .request
  | fileNotMapping _ => .request
  | requestsNotList _ => .request
  | requestNotMapping _ _ => .request
  | invalidRequest _ _ _ => .request
  | duplicateName _ _ => .request
  | notOneRequest _ _ => .request
  | unreadableSettings _ _ => .settings
  | malformedSettings _ => .settings
  | settingsNotMapping _ => .settings
  | invalidSettings _ => .settings

/-- A request of a file, as messages name it. -/
def placeText (path : Text) (number : Nat) : Text :=
  path ++ ": request #" ++ natText number

/-- The refusal in words. A report of issues ends where their list would begin. -/
def message : Refusal → Text
  | snippet failure => failure.message
  | unknownLanguage name available =>
    "No grammar for language '" ++ name ++ "'. Available: " ++ Text.join ", " available
  | unreadableFile path error => "Cannot read " ++ path ++ ": " ++ error.messageAt path
  | malformedFile path => path ++ " is not valid YAML/JSON:"
  | fileNotMapping path => path ++ " must contain a mapping"
  | requestsNotList path => path ++ ": 'requests' must be a list"
  | requestNotMapping path number => placeText path number ++ " is not a mapping"
  | invalidRequest path number _ => placeText path number ++ " is invalid:"
  | duplicateName path name => path ++ ": duplicate request id '" ++ name ++ "'"
  | notOneRequest path count => path ++ ": expected one request, found " ++ natText count
  | unreadableSettings path error =>
    "Cannot load config " ++ path ++ ": " ++ error.messageAt path
  | malformedSettings path => "Cannot load config " ++ path ++ ":"
  | settingsNotMapping path => "Config " ++ path ++ " must contain a mapping"
  | invalidSettings _ => "Invalid settings:"

/-- The issues that a refusal rests on. -/
def issues : Refusal → List Issue
  | invalidRequest _ _ issues => issues
  | invalidSettings issues => issues
  | _ => []

/-- The refusal as it is told to the outside. -/
def report (r : Refusal) : Report :=
  Report.of r.cls r.message none

end Refusal

/-- Why something was not done: a refusal or a fault. -/
inductive Trouble where
  /-- The library refused it. -/
  | refusal (r : Refusal)
  /-- It ended in a fault. -/
  | fault (f : Fault)
  deriving DecidableEq, Repr

end CallSnippets
