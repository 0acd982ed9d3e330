import CallSnippets.Text.Quoted
import CallSnippets.Value.Display

/-!
# Writing JSON

A value written as JSON over several lines, each nesting set in by four blanks. Characters outside
ASCII are written as they are. A value that JSON has no form for is a fault, as is a collection that
contains itself.

## Main definitions

* `Json.quote`: A text as a JSON string.
* `Json.keyText`: A key of a mapping as the text of a name.
* `Json.print`: A value as JSON.
-/

namespace CallSnippets

namespace Json

/-- A character inside a JSON string. Only the quotation mark, the backslash and the control
    characters below the blank are escaped. -/
def quoteChar (c : CodePoint) : Text :=
  if c = '"' then "\\\""
  else if c = '\\' then "\\\\"
  else if c = '\n' then "\\n"
  else if c = '\r' then "\\r"
  else if c = '\t' then "\\t"
  else if c.toNat = 8 then "\\b"
  else if c.toNat = 12 then "\\f"
  else if c.toNat < 0x20 then "\\u" ++ Text.hexText 4 c.toNat
  else [c]

/-- A text as a JSON string. -/
def quote (t : Text) : Text :=
  "\"" ++ t.flatMap quoteChar ++ "\""

/-- A number with a fraction as JSON. -/
def floatText (x : Binary64) : Text :=
  x.textWith "NaN" "Infinity"

/-- A truth value as JSON. -/
def boolText (b : Bool) : Text :=
  if b then "true" else "false"

/-- A key of a mapping as the text of a name. -/
def keyText : Value → Except Fault Text
  | .text t => .ok t
  | .float x => .ok (floatText x)
  | .bool b => .ok (boolText b)
  | .null => .ok "null"
  | .int n => intTextOrFault n
  | k => .error (.type ("keys must be str, int, float, bool or None, not " ++ k.typeName))

/-- A collection contains itself. -/
def circular : Fault :=
  .value "Circular reference detected"

/-- A value of this type has no form in JSON. -/
def unwritable (v : Value) : Fault :=
  .type ("Object of type " ++ v.typeName ++ " is not JSON serializable")

/-- The start of a line at a depth of nesting. -/
def newLine (depth : Nat) : Text :=
  '\n' :: Text.repeated (4 * depth) ' '

/-- Parts on lines of their own between brackets, or the brackets alone where there are none. -/
def bracketed (opening closing : CodePoint) (depth : Nat) (parts : List Text) : Text :=
  if parts.isEmpty then [opening, closing]
  else
    opening :: newLine (depth + 1) ++ Text.join ("," ++ newLine (depth + 1)) parts ++
      newLine depth ++ [closing]

mutual

/-- A value as JSON at a depth of nesting, within collections whose labels are given. -/
def printWithin (around : List Nat) (depth : Nat) : Value → Except Fault Text
  | .text t => .ok (quote t)
  | .null => .ok "null"
  | .bool b => .ok (boolText b)
  | .int n => intTextOrFault n
  | .float x => .ok (floatText x)
  | .list items => do
    let parts ← printAll around (depth + 1) items
    return bracketed '[' ']' depth parts
  | .tuple items => do
    let parts ← printAll around (depth + 1) items
    return bracketed '[' ']' depth parts
  | .map entries => do
    let parts ← printEntries around (depth + 1) entries
    return bracketed '{' '}' depth parts
  | .knot label body =>
    if around.contains label then .error circular
    else printWithin (label :: around) depth body
  | .loop _ => .error circular
  | v => .error (unwritable v)

/-- The items of a list as JSON. -/
def printAll (around : List Nat) (depth : Nat) : List Value → Except Fault (List Text)
  | [] => .ok []
  | v :: rest => do
    let t ← printWithin around depth v
    let ts ← printAll around depth rest
    return t :: ts

/-- The entries of a mapping as members of an object. -/
def printEntries (around : List Nat) (depth : Nat) :
    List (Value × Value) → Except Fault (List Text)
  | [] => .ok []
  | (k, v) :: rest => do
    let name ← keyText k
    let t ← printWithin around depth v
    let ts ← printEntries around depth rest
    return (quote name ++ ": " ++ t) :: ts

end

/-- A value as JSON. -/
def print (v : Value) : Except Fault Text :=
  printWithin [] 0 v

end Json

end CallSnippets
