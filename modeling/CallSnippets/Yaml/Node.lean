import CallSnippets.Text.Basic

/-!
# Nodes

A document is a tree of nodes: scalars, lists and mappings, each with a tag that says what it stands
for. A node that was named may occur again; at such a place the tree has a reference to it by its
number, which may lead back to a collection around the place.

## Main definitions

* `Yaml.Tag`: What a node stands for.
* `Yaml.Node`: The nodes.
* `Yaml.Document`: A tree with its nodes by their numbers.
-/

namespace CallSnippets

namespace Yaml

/-- What a node stands for. -/
inductive Tag where
  /-- No value. -/
  | null
  /-- A truth value. -/
  | bool
  /-- A whole number. -/
  | int
  /-- A number with a fraction. -/
  | float
  /-- Bytes. -/
  | binary
  /-- A day, or a moment. -/
  | timestamp
  /-- A list of pairs with distinct keys. -/
  | omap
  /-- A list of pairs. -/
  | pairs
  /-- A set. -/
  | set
  /-- A text. -/
  | str
  /-- A list. -/
  | seq
  /-- A mapping. -/
  | map
  /-- The key whose value is merged into the mapping. -/
  | merge
  /-- The key whose value stands for the mapping. -/
  | value
  /-- A tag that nothing is known about. -/
  | unknown
  deriving DecidableEq, Repr

namespace Tag

/-- The start of the tags that are known. -/
def knownStart : Text := "tag:yaml.org,2002:"

/-- The known tags by the rest of their text. -/
def known : List (Text × Tag) :=
  [("null", null), ("bool", bool), ("int", int), ("float", float), ("binary", binary),
    ("timestamp", timestamp), ("omap", omap), ("pairs", pairs), ("set", set), ("str", str),
    ("seq", seq), ("map", map), ("merge", merge), ("value", value)]

/-- The tag with a text. -/
def ofText (t : Text) : Tag :=
  match Text.dropStart? knownStart t with
  | some name => (known.lookup name).getD unknown
  | none => unknown

end Tag

/-- A node of a document. Nodes have numbers, by which they are told apart. -/
inductive Node where
  /-- A scalar. -/
  | scalar (number : Nat) (tag : Tag) (text : Text)
  /-- A list. -/
  | list (number : Nat) (tag : Tag) (items : List Node)
  /-- A mapping, with its entries in order. -/
  | map (number : Nat) (tag : Tag) (entries : List (Node × Node))
  /-- The node with a number. -/
  | ref (number : Nat)
  deriving Repr, Inhabited

namespace Node

/-- The tag of a node that is no reference. -/
def tag : Node → Tag
  | scalar _ t _ => t
  | list _ t _ => t
  | map _ t _ => t
  | ref _ => .unknown

/-- The number of a node, or of the one that it refers to. -/
def number : Node → Nat
  | scalar n _ _ => n
  | list n _ _ => n
  | map n _ _ => n
  | ref n => n

end Node

/-- A document: its tree, and its nodes by their numbers. -/
structure Document where
  /-- The node that is the whole. -/
  root : Node
  /-- The nodes by their numbers. -/
  nodes : List (Nat × Node)

/-- The node that a node stands for: the one with the number in place of a reference. -/
def Document.resolve (d : Document) : Node → Node
  | .ref n => (d.nodes.lookup n).getD (.ref n)
  | node => node

/-- How many entries a node has, if it is a mapping. -/
def Node.entryCount : Node → Nat
  | .map _ _ entries => entries.length
  | _ => 0

/-- How many entries the mappings of a document have. -/
def Document.entryCount (d : Document) : Nat :=
  d.nodes.foldl (fun count n => count + n.2.entryCount) 0

end Yaml

end CallSnippets
