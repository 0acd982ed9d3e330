import CallSnippets.Refusal.Basic
import CallSnippets.Snippet.Section

/-!
# Snippets

A snippet consists of a preamble, the declaration of a body if the request sends one, and the request
itself: its line, the choice of a version where one has to be chosen, and the calls that end in the
method. It is made as a whole or not at all.

The parts are made in a fixed order, and the first that cannot be made decides what the failure says.

## Main definitions

* `sendsBody`: The methods that pass a body on.
* `bodyArgument`: What the call for the method is given.
* `requestSection`: The line of the request with the choice of a version.
* `assemble`: The parts put together.
* `attempt`: The checks on the request and the parts, up to what ends them.
* `render`: The snippet of a request.
* `SnippetResult`, `generate`: What comes of a request: a snippet or a failure.

## Theorems

* `unwrap_generate`: Unwrapping a result gives back what rendering made.
-/

namespace CallSnippets

/-- The method passes a body on. -/
def sendsBody (method : Text) : Bool :=
  [("POST" : Text), "PATCH", "PUT"].contains method

/-- What the call for a method is given that passes a body on. An operation takes the body itself,
    anything else takes it under the name of its type. -/
def bodyArgument (g : Grammar) (r : Request) (variableName : Text) : Except Fault Text :=
  if !r.hasBody then .ok []
  else
    match r.lastSegment? with
    | none => .ok variableName
    | some s =>
      if s.isOperation then .ok variableName
      else
        fillOrFault g.typedBodyTemplate
          (Template.byName [("type", s.shortTypeName), ("name", variableName)])

/-- The call for a method with what it is given. -/
def verbCall (verb argument : Text) : Except Fault Text :=
  fillOrFault verb (Template.byName [("argument", argument)])

/-- The line of the request with the choice of a version. -/
def requestSection (g : Grammar) (r : Request) : Except Fault Text := do
  let line ← fillOrFault g.requestTemplate (Template.byName [("path", requestPath r)])
  if g.isPreview r.apiVersion then
    let choice ← fillOrFault g.versionTemplate (Template.byPosition [r.apiVersion])
    return line ++ choice
  return line

/-- The declaration before the request and the calls after it, for a method whose call is known. -/
def declarationAndCalls (g : Grammar) (r : Request) (verb : Text) : Except Fault (Text × Text) := do
  let variableName := g.safeName r.variableName
  if r.method = "GET" then
    let query ← querySection g r
    let call ← verbCall verb []
    return ([], query ++ call)
  else if sendsBody r.method then
    let declaration ← declareBody g r.body variableName
    let argument ← bodyArgument g r variableName
    let call ← verbCall verb argument
    return (declaration, call)
  else
    let call ← verbCall verb []
    return ([], call)

/-- The parts of a snippet put together. -/
def assemble (g : Grammar) (r : Request) (verb : Text) : Except Fault Text := do
  let (declaration, calls) ← declarationAndCalls g r verb
  let request ← requestSection g r
  return g.preamble ++ declaration ++ (request ++ calls)

/-- What ends the making of a snippet before there is one. -/
inductive Stop where
  /-- A check on the request failed, and the failure is told as it is. -/
  | failure (failure : SnippetFailure)
  /-- A part could not be made. -/
  | fault (fault : Fault)
  deriving DecidableEq, Repr

/-- The failure that a stop is told as: a fault becomes a failure of the assembly, and a failure is
    not wrapped once more. -/
def Stop.toFailure : Stop → SnippetFailure
  | failure f => f
  | fault f => .assembly f

/-- The snippet of a request in a language, or what ends its making: first the checks on the request,
    then the parts. -/
def attempt (g : Grammar) (r : Request) : Except Stop Text :=
  match g.verbFor? r.method with
  | none => .error (.failure (.unsupportedMethod r.method g.name))
  | some verb =>
    if g.requiresBody r.method && !r.hasBody then .error (.failure (.missingBody r.method g.name))
    else (assemble g r verb).mapError .fault

/-- The snippet of a request in a language, or the failure that there is none. -/
def render (g : Grammar) (r : Request) : Except SnippetFailure Text :=
  (attempt g r).mapError Stop.toFailure

/-- What comes of a request in a language. One that `generate` makes holds a snippet or a failure, and
    not both. -/
structure SnippetResult where
  /-- The name of the language. -/
  language : Text
  /-- The snippet, if it could be made. -/
  snippet? : Option Text
  /-- The failure, if it could not. -/
  failure? : Option SnippetFailure
  deriving DecidableEq, Repr

/-- What comes of a request in a language. -/
def generate (g : Grammar) (r : Request) : SnippetResult :=
  match render g r with
  | .ok snippet => ⟨g.name, some snippet, none⟩
  | .error failure => ⟨g.name, none, some failure⟩

namespace SnippetResult

/-- The snippet of a result, or its failure. -/
def unwrap (result : SnippetResult) : Except SnippetFailure Text :=
  match result.failure? with
  | some failure => .error failure
  | none => .ok (result.snippet?.getD [])

/-- The kind of the failure of a result. -/
def failureKind? (result : SnippetResult) : Option FailureKind :=
  result.failure?.map SnippetFailure.kind

end SnippetResult

/-- Unwrapping a result gives back what rendering made. -/
@[simp] theorem unwrap_generate (g : Grammar) (r : Request) : (generate g r).unwrap = render g r := by
  unfold generate
  cases render g r <;> rfl

end CallSnippets
