import CallSnippets.Literal.Declaration
import CallSnippets.Request.Basic

/-!
# Sections of a snippet

The parts of a snippet that come from headers, query modifiers and path. Headers keep their order;
modifiers are written in the order of their kinds, whatever order they were given in. Where the query
holds options that are no modifiers, the whole query travels on the path as it was written, and no
modifier is written as a call.

## Main definitions

* `shownHeaders`, `headerSection`: The headers that are written, and their calls.
* `shownModifiers`, `modifierSection`: The modifiers that are written, and their calls.
* `querySection`: The calls for headers and modifiers.
* `requestPath`: The path that is asked for.
-/

namespace CallSnippets

/-- The texts that are made from items, one after the other, up to the first that cannot be made. -/
def concatenate {α : Type} (make : α → Except Fault Text) : List α → Except Fault Text
  | [] => .ok []
  | a :: rest => do
    let first ← make a
    let more ← concatenate make rest
    return first ++ more

/-- The header is left out. -/
def Grammar.skips (g : Grammar) (name : Text) : Bool :=
  g.skippedHeaders.contains (Text.lower name)

/-- The headers that are written. -/
def shownHeaders (g : Grammar) (r : Request) : List (Text × Text) :=
  r.headers.filter fun h => !g.skips h.1

/-- The call for a header. -/
def headerCall (g : Grammar) (header : Text × Text) : Except Fault Text :=
  fillOrFault g.headerTemplate
    (Template.byPosition [g.escape header.1, g.escape header.2])

/-- The calls for headers. -/
def headerSection (g : Grammar) (r : Request) : Except Fault Text :=
  concatenate (headerCall g) (shownHeaders g r)

/-- The modifier is set to something that can be written. -/
def Modifier.isSet : Modifier → Bool
  | many _ values => !values.isEmpty
  | one _ _ => true

/-- The modifiers that are written, in the order of their kinds. -/
def shownModifiers (r : Request) : List Modifier :=
  (ModifierKind.all.filterMap fun kind => r.modifiers.find? kind).filter Modifier.isSet

/-- What the call for a modifier is given: texts with their quotation marks escaped, whole numbers as
    they are. -/
def modifierArgument (g : Grammar) : Modifier → Template.Argument
  | .many kind values => .text (g.escape (Text.join (g.delimiterFor kind) values))
  | .one _ (.text t) => .text (g.escape t)
  | .one _ (.int n) => .int n

/-- The call for a modifier. -/
def modifierCall (g : Grammar) (m : Modifier) : Except Fault Text :=
  fillOrFault (g.templateFor m.kind) ⟨[modifierArgument g m], []⟩

/-- The calls for modifiers. -/
def modifierSection (g : Grammar) (r : Request) : Except Fault Text :=
  concatenate (modifierCall g) (shownModifiers r)

/-- The calls for headers and modifiers. -/
def querySection (g : Grammar) (r : Request) : Except Fault Text := do
  let headers ← headerSection g r
  if r.hasCustomQuery then return headers
  let modifiers ← modifierSection g r
  return headers ++ modifiers

/-- The path that is asked for. -/
def requestPath (r : Request) : Text :=
  if r.hasCustomQuery then r.path ++ r.queryString else r.path

end CallSnippets
