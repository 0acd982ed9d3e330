import CallSnippets.Record.Issue
import CallSnippets.Text.Encoding
import CallSnippets.Value.Basic

/-!
# Reading records

A reader turns a value into what it stands for or says everything that is wrong with it. Readers of
the parts of a record are combined so that the issues of all parts are kept, in the order in which
the parts are read; a part that fails never hides the issues of another.

Data may contain itself. Every reader looks at the outermost layer alone and unties a knot before it
does, so a record is read from such data as from any other.

## Main definitions

* `Reading`: A result or the issues that stand against it.
* `Reading.and`: One more part of a record.
* `Reading.items`: A list read item by item.
* `Reading.required`, `Reading.optional`: A field of a mapping.
* `readText`, `readTuple`, `readSet`, `readPair`, `readChoice`: Readers.
-/

namespace CallSnippets

/-- What was read, or the issues that stand against it. -/
abbrev Reading (α : Type) := Except (List Issue) α

namespace Reading

/-- Nothing is read, for one cause at this place. -/
def fail {α : Type} (cause : Cause) : Reading α :=
  .error [⟨cause, []⟩]

/-- The reading as seen from one step further out. -/
def under {α : Type} (step : Step) : Reading α → Reading α
  | .ok a => .ok a
  | .error issues => .error (issues.map (Issue.under step))

/-- One more part for what is being put together. The issues of both sides are kept. -/
def and {α β : Type} (f : Reading (α → β)) (a : Reading α) : Reading β :=
  match f, a with
  | .ok f, .ok a => .ok (f a)
  | .ok _, .error issues => .error issues
  | .error issues, .ok _ => .error issues
  | .error issues, .error more => .error (issues ++ more)

/-- Readings in a row as one reading of the row. -/
def all {α : Type} : List (Reading α) → Reading (List α)
  | [] => .ok []
  | a :: rest => and (a.map List.cons) (all rest)

/-- The items from a position on, each read at its place. -/
def itemsFrom {α : Type} (start : Nat) (read : Value → Reading α) : List Value → List (Reading α)
  | [] => []
  | v :: rest => under (.index start) (read v) :: itemsFrom (start + 1) read rest

/-- The items of a list, each read at its place. -/
def items {α : Type} (read : Value → Reading α) (values : List Value) : Reading (List α) :=
  all (itemsFrom 0 read values)

/-- A field that has to be given. -/
def required {α : Type} (name : Text) (read : Value → Reading α)
    (entries : List (Value × Value)) : Reading α :=
  under (.name name)
    (match Value.lookup name entries with
    | some v => read v
    | none => fail .missing)

/-- A field that has a value of its own if it is not given. -/
def optional {α : Type} (name : Text) (otherwise : α) (read : Value → Reading α)
    (entries : List (Value × Value)) : Reading α :=
  match Value.lookup name entries with
  | some v => under (.name name) (read v)
  | none => .ok otherwise

end Reading

/-- A reader with null for the absence of a value. -/
def readNullable {α : Type} (read : Value → Reading α) : Value → Reading (Option α)
  | .null => .ok none
  | v => (read v).map some

/-- The text that bytes encode. -/
def textOfBytes? (bytes : List UInt8) : Option Text :=
  Text.decode? ⟨bytes.toArray⟩

/-- Reads a text, which may be given as bytes. -/
def readText : Value → Reading Text
  | .text t => .ok t
  | .bytes b =>
    match textOfBytes? b with
    | some t => .ok t
    | none => Reading.fail .notUnicode
  | _ => Reading.fail .notText

/-- The items of a value that is a row of values of some sort. -/
def Value.items? (v : Value) : Option (List Value) :=
  match v.unknot with
  | .list items => some items
  | .tuple items => some items
  | .set items => some items
  | _ => none

/-- The entries of a value that is a mapping. -/
def Value.entries? (v : Value) : Option (List (Value × Value)) :=
  match v.unknot with
  | .map entries => some entries
  | _ => none

/-- Reads a row of any length. -/
def readTuple {α : Type} (read : Value → Reading α) (v : Value) : Reading (List α) :=
  match v.items? with
  | some items => Reading.items read items
  | none => Reading.fail .notTuple

/-- The members of a list, each once. -/
def distinct : List Text → List Text
  | [] => []
  | t :: rest => t :: (distinct rest).filter (· ≠ t)

/-- Reads a set of texts. -/
def readSet (v : Value) : Reading (List Text) :=
  match v.items? with
  | some items => (Reading.items readText items).map distinct
  | none => Reading.fail .notSet

/-- Reads a row of exactly two texts. -/
def readPair (v : Value) : Reading (Text × Text) :=
  match v.items? with
  | none => Reading.fail .notTuple
  | some [] =>
    Reading.and (Reading.and (.ok Prod.mk) (Reading.under (.index 0) (Reading.fail .missing)))
      (Reading.under (.index 1) (Reading.fail .missing))
  | some [a] =>
    Reading.and (Reading.and (.ok Prod.mk) (Reading.under (.index 0) (readText a)))
      (Reading.under (.index 1) (Reading.fail .missing))
  | some [a, b] =>
    Reading.and (Reading.and (.ok Prod.mk) (Reading.under (.index 0) (readText a)))
      (Reading.under (.index 1) (readText b))
  | some items => Reading.fail (.tupleTooLong 2 items.length)

/-- Reads one of several choices by its name. A name with a half of a pair is not even looked for. -/
def readChoice {α : Type} (choices : List (Text × α)) (v : Value) : Reading α :=
  match readText v with
  | .ok t =>
    if t.any CodePoint.isHalf then Reading.fail .notUnicode
    else
      match choices.lookup t with
      | some a => .ok a
      | none => Reading.fail (.notAmong (choices.map Prod.fst))
  | .error _ => Reading.fail (.notAmong (choices.map Prod.fst))

/-- Reads a mapping, and hands its entries on. -/
def readEntries {α : Type} (cause : Cause) (read : List (Value × Value) → Reading α) (v : Value) :
    Reading α :=
  match v.entries? with
  | some entries => read entries
  | none => Reading.fail cause

end CallSnippets
