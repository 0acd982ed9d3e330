import CallSnippets.Text.Case

/-!
# Names of requests

A request that is given no name of its own is named for its method and its path: the letters and
digits of the path in runs, with one hyphen for whatever stands between two of them. The runs are of
ASCII letters and digits alone, so that the name can be used for a file.

## Main definitions

* `isWordChar`: The character may stand in a name.
* `wordRuns`: The longest runs of such characters.
* `slug`: The runs in small letters with hyphens between them.
* `requestName`: The name of a request.
-/

namespace CallSnippets

/-- The character is an ASCII letter or digit. -/
def isWordChar (c : CodePoint) : Bool :=
  ('A' ≤ c && c ≤ 'Z') || ('a' ≤ c && c ≤ 'z') || ('0' ≤ c && c ≤ '9')

/-- The pieces between the characters that are no letters or digits: an empty piece at either end and
    between two of them. -/
def wordPieces : Text → List Text
  | [] => [[]]
  | c :: rest =>
    if isWordChar c then
      match wordPieces rest with
      | [] => [[c]]
      | piece :: pieces => (c :: piece) :: pieces
    else [] :: wordPieces rest

/-- The longest runs of letters and digits. -/
def wordRuns (t : Text) : List Text :=
  (wordPieces t).filter fun piece => !piece.isEmpty

/-- The runs of letters and digits in small letters, with hyphens between them. -/
def slug (t : Text) : Text :=
  Text.join "-" ((wordRuns t).map Text.asciiLower)

/-- The name of a request with a method and a path. -/
def requestName (method path : Text) : Text :=
  if (slug path).isEmpty then Text.lower method else Text.lower method ++ "-" ++ slug path

end CallSnippets
