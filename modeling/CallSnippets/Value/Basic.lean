import CallSnippets.Number.Binary64
import CallSnippets.Value.Calendar

/-!
# Document values

What a document holds: the values of JSON, and what YAML adds to them, which is bytes, dates and
moments, pairs, sets, and collections that contain themselves.

A mapping keeps its entries in the order of their first mention, and each key once. A collection
that contains itself is written as a `knot` with a label around its body, and each place inside the
body where it occurs again as a `loop` back to that label. Every value is thus a finite tree, and
documents in which nothing contains itself have neither.

## Main definitions

* `Value`: The values.
* `Value.sameKey`: Whether two keys of a mapping are the same key.
* `Value.insertEntry`, `Value.lookup`: Writing and reading an entry of a mapping.
* `Value.unknot`: The body of a knot with its loops tied to the knot again.
* `Value.isVoid`: Whether a value counts as none given.
-/

namespace CallSnippets

/-- The value of a document or of a part of it. -/
inductive Value where
  /-- No value. -/
  | null
  /-- A truth value. -/
  | bool (b : Bool)
  /-- A whole number of any size. -/
  | int (n : Int)
  /-- A number with a fraction. -/
  | float (x : Binary64)
  /-- A text. -/
  | text (t : Text)
  /-- Bytes. -/
  | bytes (bytes : List UInt8)
  /-- A day of the calendar. -/
  | date (d : Date)
  /-- A day and a time of day. -/
  | moment (m : Moment)
  /-- A list. -/
  | list (items : List Value)
  /-- A fixed row of values, such as a key with its value. -/
  | tuple (items : List Value)
  /-- A mapping, with its entries in order of first mention. -/
  | map (entries : List (Value × Value))
  /-- A set, with its members in order of first mention. -/
  | set (members : List Value)
  /-- A collection that contains itself: loops to the label stand for the whole. -/
  | knot (label : Nat) (body : Value)
  /-- The collection around this place that has the label. -/
  | loop (label : Nat)
  deriving Repr, BEq, Inhabited

namespace Value

/-- The whole number that a key counts as: truth values count as 1 and 0. -/
def keyNumber? : Value → Option Int
  | bool b => some (if b then 1 else 0)
  | int n => some n
  | float x => x.toInt?
  | _ => none

/-- Two keys of a mapping are the same: numbers by their value, whatever their form. -/
def sameKey (a b : Value) : Bool :=
  match keyNumber? a, keyNumber? b with
  | some m, some n => m == n
  | none, none =>
    match a, b with
    | null, null => true
    | float x, float y => x.same y
    | text s, text t => s == t
    | bytes s, bytes t => s == t
    | date d, date e => d == e
    | moment m, moment n => m.same n
    | _, _ => false
  | _, _ => false

/-- The entries with one more written: a new key goes last, a known one keeps its place and takes
    the new value. -/
def insertEntry (key value : Value) : List (Value × Value) → List (Value × Value)
  | [] => [(key, value)]
  | (k, v) :: rest =>
    if sameKey k key then (k, value) :: rest else (k, v) :: insertEntry key value rest

/-- The entries of a mapping given as a list in which keys may repeat. -/
def ofEntries (entries : List (Value × Value)) : List (Value × Value) :=
  entries.foldl (fun known e => insertEntry e.1 e.2 known) []

/-- The value of the entry whose key is the given text. -/
def lookup (name : Text) (entries : List (Value × Value)) : Option Value :=
  (entries.find? fun e => sameKey e.1 (text name)).map Prod.snd

/-- The entries without the one whose key is the given text. -/
def eraseEntry (name : Text) (entries : List (Value × Value)) : List (Value × Value) :=
  entries.filter fun e => !sameKey e.1 (text name)

mutual

/-- The value with every loop to the label replaced. -/
def substitute (label : Nat) (replacement : Value) : Value → Value
  | loop l => if l = label then replacement else loop l
  | knot l body => if l = label then knot l body else knot l (substitute label replacement body)
  | list items => list (substituteAll label replacement items)
  | tuple items => tuple (substituteAll label replacement items)
  | map entries => map (substituteEntries label replacement entries)
  | set members => set members
  | v => v

/-- The values with every loop to the label replaced. -/
def substituteAll (label : Nat) (replacement : Value) : List Value → List Value
  | [] => []
  | v :: rest => substitute label replacement v :: substituteAll label replacement rest

/-- The entries with every loop to the label replaced. Keys contain no collections. -/
def substituteEntries (label : Nat) (replacement : Value) :
    List (Value × Value) → List (Value × Value)
  | [] => []
  | (k, v) :: rest =>
    (k, substitute label replacement v) :: substituteEntries label replacement rest

end

/-- The collection that a knot stands for, with each loop replaced by the knot. Any other value is
    left as it is. -/
def unknot : Value → Value
  | knot label body => substitute label (knot label body) body
  | v => v

/-- The value counts as none given: it is null, false, zero or empty. -/
def isVoid : Value → Bool
  | null => true
  | bool b => !b
  | int n => n == 0
  | float x => x.isZero
  | text t => t.isEmpty
  | bytes b => b.isEmpty
  | list items => items.isEmpty
  | tuple items => items.isEmpty
  | map entries => entries.isEmpty
  | set members => members.isEmpty
  | date _ => false
  | moment _ => false
  | knot _ _ => false
  | loop _ => false

end Value

end CallSnippets
