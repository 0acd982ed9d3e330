import CallSnippets.Yaml.Merge
import CallSnippets.Yaml.Scalar.Meaning

/-!
# The shapes of collections

A document may lead back to a collection from a place inside of it, so what a collection consists of is
told by numbers: its shape holds values without parts, and the numbers of the collections in it.

Shapes are found layer by layer: first that of the root, then those of the collections in it, then
those in these, and within a layer from left to right. What is wrong with a document is found in the
same order, so of two failures the one in the earlier layer counts. No collection has its shape looked
for twice.

## Main definitions

* `Yaml.Part`, `Yaml.Shape`: What a collection consists of.
* `Yaml.Making.part`: The part that a node stands for.
* `Yaml.Making.shape`: The shape that a node stands for.
* `Yaml.Document.graph`: The shapes of all collections in a document.
-/

namespace CallSnippets

namespace Yaml

/-- A part of a collection. -/
inductive Part where
  /-- A value without parts. -/
  | atom (a : Atom)
  /-- The collection with a number. -/
  | whole (number : Nat)
  deriving Repr

/-- What a collection consists of. -/
inductive Shape where
  /-- The items of a list. -/
  | list (items : List Part)
  /-- The pairs of a list of pairs. -/
  | pairs (items : List (Part × Part))
  /-- The entries of a mapping. -/
  | map (entries : List (Atom × Part))
  /-- The members of a set. -/
  | set (members : List Atom)
  deriving Repr

/-- Entries with one more written: a new key goes last, a known one keeps its place and takes the new
    part. -/
def insertPart (key : Atom) (part : Part) : List (Atom × Part) → List (Atom × Part)
  | [] => [(key, part)]
  | (k, p) :: rest =>
    if k.sameKey key then (k, part) :: rest else (k, p) :: insertPart key part rest

/-- The tag is that of a collection. -/
def Tag.isCollection : Tag → Bool
  | .seq => true
  | .map => true
  | .omap => true
  | .pairs => true
  | .set => true
  | _ => false

/-- The text of a scalar, or that of the key in a mapping that stands for the whole. -/
def textOf? (d : Document) (s : Merging) : Nat → Node → Option Text
  | 0, _ => none
  | fuel + 1, node =>
    match d.resolve node with
    | .scalar _ _ t => some t
    | .map number _ written =>
      match (s.entriesOf number written).find? fun e => s.tagOf (d.resolve e.1) = .value with
      | some e => textOf? d s fuel e.2
      | none => none
    | _ => none

/-- What a node stands for that has the tag of a scalar. A mapping may take its place, but not that of a
    day or moment. -/
def atomOf (d : Document) (s : Merging) (node : Node) : Except Failure Atom :=
  match textOf? d s (d.nodes.length + 1) node, node, s.tagOf node with
  | none, _, _ => .error .malformed
  | some _, .map _ _ _, .timestamp =>
    .error (.fault (.type "expected string or bytes-like object, got 'list'"))
  | some t, node, tag => Atom.ofScalar node.number tag t

/-- How far the shapes of a document have been found. -/
structure Progress where
  /-- More than the merge keys that mappings have. -/
  bound : Nat
  /-- What mappings consist of by now. -/
  merging : Merging
  /-- The values of mappings that stand for scalars. -/
  atoms : List (Nat × Atom)
  /-- The collections whose shape is found or waited for. -/
  known : List Nat
  /-- The collections of the next layer, the last one first. -/
  waiting : List Node
  /-- The shapes that are found. -/
  shapes : List (Nat × Shape)

/-- A step on the way to the shapes of a document. -/
abbrev Making := StateT Progress (Except Failure)

namespace Making

/-- Lets the shape of a node be found in the next layer. -/
def await (node : Node) : Making Unit :=
  modify fun s =>
    if s.known.contains node.number then s
    else { s with known := node.number :: s.known, waiting := node :: s.waiting }

/-- The value of a node that has the tag of a scalar. A mapping keeps the value that it had first. -/
def atom (d : Document) (node : Node) : Making Atom := do
  let s ← get
  match s.atoms.lookup node.number with
  | some a => return a
  | none =>
    let a ← atomOf d s.merging node
    match node with
    | .map number _ _ => set { s with atoms := (number, a) :: s.atoms }
    | _ => pure ()
    return a

/-- The part that a node stands for. -/
def part (d : Document) (node : Node) : Making Part := do
  let node := d.resolve node
  if ((← get).merging.tagOf node).isCollection then
    await node
    return .whole node.number
  else return .atom (← atom d node)

/-- The key that a node stands for, which is no collection. -/
def key (d : Document) (node : Node) : Making Atom := do
  match ← part d node with
  | .atom a => return a
  | .whole _ => throw .malformed

/-- The pair that a mapping of one entry stands for. -/
def pair (d : Document) (node : Node) : Making (Part × Part) := do
  match d.resolve node with
  | .map number _ written =>
    match (← get).merging.entriesOf number written with
    | [e] =>
      let k ← part d e.1
      let v ← part d e.2
      return (k, v)
    | _ => throw .malformed
  | _ => throw .malformed

/-- The entries that a mapping has once its merge keys have been carried out. -/
def flattened (d : Document) (number : Nat) (written : List Entry) : Making (List Entry) := do
  let s ← get
  let (entries, merging) ← (Merge.flatten d s.bound number written).run s.merging
  set { s with merging := merging }
  return entries

/-- The entries of a mapping. -/
def entries (d : Document) (number : Nat) (written : List Entry) : Making (List (Atom × Part)) := do
  (← flattened d number written).foldlM
    (fun known e => do
      let k ← key d e.1
      let v ← part d e.2
      return insertPart k v known) []

/-- The shape that a node stands for. -/
def shape (d : Document) (node : Node) : Making Shape :=
  match node, node.tag with
  | .list _ _ items, .seq => do return .list (← items.mapM (part d))
  | .list _ _ items, .omap => do return .pairs (← items.mapM (pair d))
  | .list _ _ items, .pairs => do return .pairs (← items.mapM (pair d))
  | .map number _ written, .map => do return .map (← entries d number written)
  | .map number _ written, .set => do return .set ((← entries d number written).map Prod.fst)
  | _, _ => throw .malformed

/-- Finds the shape of a node of the layer. -/
def find (d : Document) (node : Node) : Making Unit := do
  let found ← shape d node
  modify fun s => { s with shapes := (node.number, found) :: s.shapes }

/-- Finds the shapes of the next layer and those after it, up to a count of layers. -/
def layers (d : Document) : Nat → Making Unit
  | 0 => pure ()
  | count + 1 => do
    let s ← get
    if s.waiting.isEmpty then return
    set { s with waiting := [] }
    s.waiting.reverse.forM (find d)
    layers d count

end Making

/-- The collections that a value consists of, from the part that is the whole. -/
structure Graph where
  /-- The whole. -/
  root : Part
  /-- The shapes of the collections by their numbers. -/
  shapes : List (Nat × Shape)
  deriving Repr

/-- The shapes of all collections in a document. Each layer has a collection of its own, so the count of
    the nodes bounds that of the layers. -/
def Document.graph (d : Document) : Except Failure Graph := do
  let making : Making Part := do
    let root ← Making.part d d.root
    Making.layers d (d.nodes.length + 1)
    return root
  let (root, s) ← making.run ⟨d.entryCount + 1, .start, [], [], [], []⟩
  return ⟨root, s.shapes⟩

end Yaml

end CallSnippets
