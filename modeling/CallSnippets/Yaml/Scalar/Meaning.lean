import CallSnippets.Text.Base64
import CallSnippets.Value.Basic
import CallSnippets.Yaml.Implicit
import CallSnippets.Yaml.Number

/-!
# The values of scalars

What a scalar stands for follows from its tag and its text. A tag may be written before any text, so
each reading has an answer to a text that does not suit it.

A value that is no number does not equal itself. As a key of a mapping it is therefore known by where
it comes from: the word for it always means the same one, and any other spelling one of its own.

## Main definitions

* `Yaml.scalarValue`: The value of a scalar.
* `Yaml.Atom`: A value without parts.
* `Yaml.Atom.sameKey`: Two values without parts are the same as keys.
* `Yaml.Atom.ofScalar`: What a scalar stands for.
-/

namespace CallSnippets

namespace Yaml

/-- The truth values that words in small letters stand for. -/
def truthWords : List (Text × Bool) :=
  [("yes", true), ("no", false), ("true", true), ("false", false), ("on", true), ("off", false)]

/-- The truth value of a scalar. -/
def boolOf (t : Text) : Except Fault Bool :=
  match truthWords.lookup (Text.lower t) with
  | some b => .ok b
  | none => .error ⟨.missingKey, Text.quoted (Text.lower t)⟩

/-- The day or moment of a scalar. -/
def stampOf (t : Text) : Except Fault Value :=
  match readStamp? (dropFinalBreak t) with
  | none => .error ⟨.missingAttribute, "'NoneType' object has no attribute 'groupdict'"⟩
  | some s =>
    s.value.map fun v => match v with
      | .inl d => .date d
      | .inr m => .moment m

/-- The bytes of a scalar. -/
def bytesOf? (t : Text) : Option (List UInt8) :=
  if t.all fun c => c.toNat < 128 then Text.ofBase64? t else none

/-- A fault in the way of a value. -/
def unlessFault {α : Type} (a : Except Fault α) : Except Failure α :=
  a.mapError .fault

/-- The value of a scalar. -/
def scalarValue (tag : Tag) (t : Text) : Except Failure Value :=
  match tag with
  | .null => .ok .null
  | .bool => (unlessFault (boolOf t)).map .bool
  | .int => (unlessFault (intOf t)).map .int
  | .float => (unlessFault (floatOf t)).map .float
  | .binary =>
    match bytesOf? t with
    | some bytes => .ok (.bytes bytes)
    | none => .error .malformed
  | .timestamp => unlessFault (stampOf t)
  | .str => .ok (.text t)
  | _ => .error .malformed

/-- A value without parts. -/
structure Atom where
  /-- The value. -/
  value : Value
  /-- The node that it comes from, unless it does not matter. -/
  origin : Option Nat
  deriving Repr

namespace Atom

/-- Two values without parts are the same as keys of a mapping. -/
def sameKey (a b : Atom) : Bool :=
  match a.value, b.value with
  | .float .nan, .float .nan => a.origin == b.origin
  | v, w => Value.sameKey v w

/-- What a scalar stands for. -/
def ofScalar (number : Nat) (tag : Tag) (t : Text) : Except Failure Atom :=
  (scalarValue tag t).map fun v => ⟨v, if isNanWord t then none else some number⟩

end Atom

end Yaml

end CallSnippets
