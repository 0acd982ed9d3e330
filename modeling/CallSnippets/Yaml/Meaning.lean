import CallSnippets.Yaml.Shape
import CallSnippets.Yaml.Tree

/-!
# The value of a document

The collections of a document are unfolded into a tree from the root on. Where a collection comes again
inside of itself, the tree has a loop to it instead.

Every collection from which some way leads back to it is closed into a knot with its number, in each
place where it stands. So wherever one starts to look into the tree, a collection that comes again inside
of itself is known for the same one. Whether a way leads back shows in the loops: it does if and only if
some loop inside of the collection leads to it or to a collection around it.

A collection that stands in several places is unfolded once where its tree is the same in all of them,
however large the tree becomes.

## Main definitions

* `Yaml.Unfolded`: A value with what is needed to use it again elsewhere.
* `Yaml.Shape.unfold`, `Yaml.Graph.unfold`: Unfolds a shape, and a part.
* `Yaml.load`: The value of a text.
-/

namespace CallSnippets

namespace Yaml

/-- A value that was unfolded. -/
structure Unfolded (α : Type) where
  /-- The value. -/
  value : α
  /-- The collections around it that its loops lead to. -/
  loops : List Nat
  /-- The collections in it that contain themselves. -/
  inside : List Nat

namespace Unfolded

/-- A value without loops. -/
def plain {α : Type} (value : α) : Unfolded α :=
  ⟨value, [], []⟩

/-- A value made from what was unfolded. -/
def map {α β : Type} (f : α → β) (u : Unfolded α) : Unfolded β :=
  ⟨f u.value, u.loops, u.inside⟩

/-- Two values that were unfolded side by side. -/
def and {α β : Type} (f : Unfolded (α → β)) (u : Unfolded α) : Unfolded β :=
  ⟨f.value u.value, f.loops ++ u.loops, f.inside ++ u.inside⟩

/-- Values that were unfolded side by side. -/
def all {α : Type} : List (Unfolded α) → Unfolded (List α)
  | [] => plain []
  | u :: rest => and (u.map List.cons) (all rest)

/-- The collection with a number, given what was unfolded inside of it. -/
def close (number : Nat) (u : Unfolded Value) : Unfolded Value :=
  if u.loops.isEmpty then plain u.value
  else
    ⟨.knot number u.value, u.loops.eraseDups.filter (· ≠ number), number :: u.inside.eraseDups⟩

/-- The value is the same inside of the given collections: its loops lead to some of them, and none of
    them is unfolded in it. -/
def fits {α : Type} (around : List Nat) (u : Unfolded α) : Bool :=
  u.loops.all around.contains && !u.inside.any around.contains

end Unfolded

/-- The collections that were unfolded before. -/
abbrev Unfolding := StateM (List (Nat × Unfolded Value))

/-- Unfolds what a collection consists of, given how its parts are. -/
def Shape.unfold (part : Part → Unfolding (Unfolded Value)) : Shape → Unfolding (Unfolded Value)
  | list items => do
    let us ← items.mapM part
    return (Unfolded.all us).map .list
  | pairs items => do
    let us ← items.mapM fun p => do
      let k ← part p.1
      let v ← part p.2
      return Unfolded.and (k.map fun k v => Value.tuple [k, v]) v
    return (Unfolded.all us).map .list
  | map entries => do
    let us ← entries.mapM fun e => do
      let u ← part e.2
      return u.map fun v => (e.1.value, v)
    return (Unfolded.all us).map .map
  | set members => return .plain (.set (members.map Atom.value))

namespace Graph

/-- The shape of the collection with a number. -/
def shape (g : Graph) (number : Nat) : Shape :=
  (g.shapes.lookup number).getD (.list [])

/-- Unfolds a part inside of the given collections. On the way down no collection comes twice, so the
    count of the shapes bounds the steps. -/
def unfold (g : Graph) : Nat → List Nat → Part → Unfolding (Unfolded Value)
  | _, _, .atom a => return .plain a.value
  | 0, _, .whole n => return ⟨.loop n, [n], []⟩
  | fuel + 1, around, .whole n => do
    if around.contains n then return ⟨.loop n, [n], []⟩
    match (← get).find? fun known => known.1 == n && known.2.fits around with
    | some known => return known.2
    | none =>
      let u := (← (g.shape n).unfold (unfold g fuel (n :: around))).close n
      modify ((n, u) :: ·)
      return u

/-- The value of the whole. -/
def value (g : Graph) : Value :=
  ((unfold g (g.shapes.length + 1) [] g.root).run []).1.value

end Graph

/-- The value of a document. -/
def Document.value (d : Document) : Except Failure Value :=
  d.graph.map Graph.value

/-- The value of a text, where an empty one stands for nothing. -/
def load (t : Text) : Except Failure Value := do
  match ← documentOf? t with
  | none => return .null
  | some d => d.value

end Yaml

end CallSnippets
