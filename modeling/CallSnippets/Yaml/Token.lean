import CallSnippets.Text.Basic

/-!
# Tokens of a document

What a document consists of once blanks, line ends and remarks are gone. Where a line is set in
further than the one around it, a token opens a collection, and where it is set in less, tokens close
the collections that end.

## Main definitions

* `Yaml.Directive`: A line that speaks of the document as a whole.
* `Yaml.Token`: A token.
-/

namespace CallSnippets

namespace Yaml

/-- A line that speaks of the document as a whole. -/
inductive Directive where
  /-- The version of the language, by its first number. -/
  | version (major : Nat)
  /-- A handle for the start of tags. -/
  | handle (name start : Text)
  /-- Any other directive. -/
  | other
  deriving DecidableEq, Repr

/-- A token of a document. -/
inductive Token where
  /-- A directive. -/
  | directive (d : Directive)
  /-- The line that starts a document. -/
  | documentStart
  /-- The line that ends a document. -/
  | documentEnd
  /-- The end of everything. -/
  | streamEnd
  /-- A list of lines starts. -/
  | blockListStart
  /-- A mapping of lines starts. -/
  | blockMapStart
  /-- A collection of lines ends. -/
  | blockEnd
  /-- A list in brackets starts. -/
  | flowListStart
  /-- A list in brackets ends. -/
  | flowListEnd
  /-- A mapping in braces starts. -/
  | flowMapStart
  /-- A mapping in braces ends. -/
  | flowMapEnd
  /-- The comma between entries in brackets or braces. -/
  | flowEntry
  /-- The hyphen before an item on a line. -/
  | blockEntry
  /-- What follows is a key. -/
  | key
  /-- What follows is the value of a key. -/
  | value
  /-- A node that was named before. -/
  | alias (name : Text)
  /-- The name of the node that follows. -/
  | anchor (name : Text)
  /-- The tag of the node that follows, with the handle that stands for its start. -/
  | tag (handle : Option Text) (suffix : Text)
  /-- A scalar, with whether it stands without quotation marks. -/
  | scalar (t : Text) (plain : Bool)
  deriving DecidableEq, Repr

end Yaml

end CallSnippets
