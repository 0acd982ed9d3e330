import CallSnippets.Number.Shortest
import CallSnippets.Text.Quoted
import CallSnippets.Value.Basic

/-!
# Values shown as text

How a value is shown in a message or used as a name. A text alone is shown as it is; inside of a
collection it is quoted, so that the shown form keeps the parts of the collection apart. Where a
collection occurs inside of itself, dots stand for it.

## Main definitions

* `Value.form`: A value as it is shown inside of a collection.
* `Value.display`: A value as it is shown alone.
* `Value.typeName`: What messages call the type of a value.
-/

namespace CallSnippets

namespace Value

/-- The dots that stand for a collection inside of itself. -/
def dots (isMap : Bool) : Text :=
  if isMap then "\x7b...\x7d" else "[...]"

/-- The value is a mapping. -/
def isMap : Value → Bool
  | map _ => true
  | _ => false

/-- A truth value as it is shown. -/
def boolText (b : Bool) : Text :=
  if b then "True" else "False"

mutual

/-- A value as it is shown inside of a collection, within collections whose labels are given, each
    with whether it is a mapping. -/
def formWithin (around : List (Nat × Bool)) : Value → Except Fault Text
  | null => .ok "None"
  | bool b => .ok (boolText b)
  | int n => intTextOrFault n
  | float x => .ok x.text
  | text t => .ok (Text.quoted t)
  | bytes b => .ok (Text.quotedBytes b)
  | date d => .ok d.form
  | moment m => .ok m.form
  | list items => do
    let parts ← formAll around items
    return "[" ++ Text.join ", " parts ++ "]"
  | tuple items => do
    let parts ← formAll around items
    return "(" ++ Text.join ", " parts ++ (if parts.length = 1 then "," else "" : Text) ++ ")"
  | map entries => do
    let parts ← formEntries around entries
    return "\x7b" ++ Text.join ", " parts ++ "\x7d"
  | set members => do
    let parts ← formAll around members
    return if parts.isEmpty then "set()" else "\x7b" ++ Text.join ", " parts ++ "\x7d"
  | knot label body =>
    match around.lookup label with
    | some shape => .ok (dots shape)
    | none => formWithin ((label, isMap body) :: around) body
  | loop label => .ok (dots ((around.lookup label).getD false))

/-- Several values as they are shown inside of a collection. -/
def formAll (around : List (Nat × Bool)) : List Value → Except Fault (List Text)
  | [] => .ok []
  | v :: rest => do
    let t ← formWithin around v
    let ts ← formAll around rest
    return t :: ts

/-- The entries of a mapping, each key with a colon before its value. -/
def formEntries (around : List (Nat × Bool)) : List (Value × Value) → Except Fault (List Text)
  | [] => .ok []
  | (k, v) :: rest => do
    let key ← formWithin around k
    let t ← formWithin around v
    let ts ← formEntries around rest
    return (key ++ ": " ++ t) :: ts

end

/-- A value as it is shown inside of a collection. -/
def form (v : Value) : Except Fault Text :=
  formWithin [] v

/-- A value as it is shown alone. -/
def display : Value → Except Fault Text
  | text t => .ok t
  | date d => .ok d.text
  | moment m => .ok m.text
  | v => form v

/-- What messages call the type of a value. -/
def typeName : Value → Text
  | null => "NoneType"
  | bool _ => "bool"
  | int _ => "int"
  | float _ => "float"
  | text _ => "str"
  | bytes _ => "bytes"
  | date _ => "date"
  | moment _ => "datetime"
  | list _ => "list"
  | tuple _ => "tuple"
  | map _ => "dict"
  | set _ => "set"
  | knot _ body => typeName body
  | loop _ => "list"

end Value

end CallSnippets
