import CallSnippets.Snippet.Render

/-!
# Remarks

What is told beside the result while snippets are made. A remark has a level, a source and a text;
which remarks are shown depends on the level alone.

Remarks follow from the request and its result. They are computed apart from the snippet, so that
what is told can have no influence on what is made.

## Main definitions

* `Level`, `Remark`: A remark and how much it matters.
* `renderRemarks`: The remarks on the making of one snippet.
-/

namespace CallSnippets

/-- How much a remark matters. -/
inductive Level where
  /-- It helps to find out what went wrong. -/
  | debug
  /-- It tells of progress. -/
  | info
  /-- Something did not go as it should. -/
  | warning
  deriving DecidableEq, Repr

/-- The name of a level. -/
def Level.name : Level → Text
  | debug => "DEBUG"
  | info => "INFO"
  | warning => "WARNING"

/-- A remark. -/
structure Remark where
  /-- How much it matters. -/
  level : Level
  /-- Where it comes from. -/
  source : Text
  /-- What it says. -/
  message : Text
  deriving DecidableEq, Repr

namespace Remark

/-- The remark as a line. -/
def line (r : Remark) : Text :=
  r.level.name ++ " " ++ r.source ++ ": " ++ r.message ++ "\n"

/-- The remark is shown, to one who wants to see everything or only what matters. -/
def isShown (verbose : Bool) (r : Remark) : Bool :=
  verbose || r.level = .warning

end Remark

/-- The source of remarks on snippets. -/
def snippetSource : Text := "api_snippet_gen.generator.snippet"

/-- The source of remarks on bodies. -/
def bodySource : Text := "api_snippet_gen.generator.body"

/-- The body that is declared while a snippet is made. -/
def declaredBody? (g : Grammar) (r : Request) : Option Text :=
  match r.body with
  | none => none
  | some body =>
    if Text.allBlank body || !sendsBody r.method || (g.verbFor? r.method).isNone then none
    else some (Text.trim body)

/-- The remark on a body that is no JSON. -/
def bodyRemark (problem : Text) : Remark :=
  ⟨.debug, bodySource,
    "Request body is not valid JSON (" ++ problem ++ "); rewriting keys anyway"⟩

/-- The remark that the making of a snippet begins. -/
def startRemark (g : Grammar) (r : Request) : Remark :=
  ⟨.debug, snippetSource, "Rendering " ++ r.method ++ " " ++ r.path ++ " as " ++ g.name⟩

/-- The remark that a snippet could not be made. -/
def failureRemark (g : Grammar) (r : Request) (failure : SnippetFailure) : Remark :=
  ⟨.debug, snippetSource,
    g.name ++ " snippet for " ++ r.method ++ " " ++ r.path ++ " failed: " ++ failure.message⟩

/-- The remarks on the making of one snippet. -/
def renderRemarks (g : Grammar) (r : Request) : List Remark :=
  let body := ((declaredBody? g r).bind jsonRemark?).map bodyRemark
  let failure := match render g r with
    | .ok _ => none
    | .error failure => some (failureRemark g r failure)
  startRemark g r :: body.toList ++ failure.toList

end CallSnippets
