import CallSnippets.Grammar.Basic
import CallSnippets.Json.Reader
import CallSnippets.Literal.Keys

/-!
# Declaring a body

A body is declared as the value of a variable, as an object literal made from its JSON text. That the
text is JSON is checked, but only a number beyond the limit on digits stops the declaration; any
other text is rewritten all the same, and what is wrong with it is no more than a remark.

## Main definitions

* `jsonFault?`: The fault of a body with a number that is too long.
* `jsonRemark?`: What is wrong with a body that is no JSON.
* `declareBody`: The declaration of a body.
-/

namespace CallSnippets

/-- The fault of a text with a number that is too long. -/
def jsonFault? (t : Text) : Option Fault :=
  match Json.read (some digitLimit) t with
  | .error (.tooLong digits) => some (.tooManyDigitsToRead digits)
  | _ => none

/-- What is wrong with a text that is no JSON. -/
def jsonRemark? (t : Text) : Option Text :=
  match Json.read (some digitLimit) t with
  | .error (.malformed problem rest) => some (problem.message t rest)
  | _ => none

/-- The text of a template with its fields filled in, or the fault of what is wrong with it. -/
def fillOrFault (template : Text) (args : Template.Arguments) : Except Fault Text :=
  (Template.fill template args).mapError Template.Problem.fault

/-- The declaration of a variable as an object literal made from a body, which is empty if there is
    no body. -/
def declareBody (g : Grammar) (body : Option Text) (variableName : Text) : Except Fault Text :=
  match body with
  | none => .ok []
  | some body =>
    if Text.allBlank body then .ok []
    else
      let t := Text.trim body
      match jsonFault? t with
      | some fault => .error fault
      | none => do
        let literal ← (rewriteKeys g.keyTemplate t).mapError Template.Problem.fault
        fillOrFault g.bodyTemplate (Template.byName [("name", variableName), ("body", literal)])

end CallSnippets
