import CallSnippets.Record.Reading

/-!
# Segments of a path

A path addresses a resource in segments. A segment knows what sort of thing it addresses and may
know its type; the last part of a dotted type is the name under which a body is passed on.

## Main definitions

* `SegmentKind`: What a segment addresses.
* `Segment`: A segment.
* `Segment.shortTypeName`: The last part of its type.
* `readSegment`: Reads a segment from a mapping.
-/

namespace CallSnippets

/-- What a segment addresses. -/
inductive SegmentKind where
  /-- A set of resources. -/
  | entitySet
  /-- A relation to other resources. -/
  | navigationProperty
  /-- One resource of a set by its key. -/
  | key
  /-- Something to be done. -/
  | operation
  /-- A property of a resource. -/
  | property
  /-- Anything else. -/
  | other
  deriving DecidableEq, Repr

namespace SegmentKind

/-- The kinds in the order in which they are offered. -/
def all : List SegmentKind :=
  [entitySet, navigationProperty, key, operation, property, other]

/-- The name of a kind. -/
def name : SegmentKind → Text
  | entitySet => "entity_set"
  | navigationProperty => "navigation_property"
  | key => "key"
  | operation => "operation"
  | property => "property"
  | other => "other"

/-- The kinds under their names. -/
def byName : List (Text × SegmentKind) :=
  all.map fun kind => (kind.name, kind)

end SegmentKind

/-- A segment of a path. -/
structure Segment where
  /-- The text of the segment. -/
  identifier : Text
  /-- What it addresses. -/
  kind : SegmentKind
  /-- The dotted name of its type, if that is known. -/
  typeName : Option Text
  deriving DecidableEq, Repr

namespace Segment

/-- The segment is something to be done. -/
def isOperation (s : Segment) : Bool :=
  s.kind = .operation

/-- The name that stands for the type: that of the type, else the segment itself. -/
def fullTypeName (s : Segment) : Text :=
  match s.typeName with
  | some (c :: rest) => c :: rest
  | _ => s.identifier

/-- The last dotted part of the type. -/
def shortTypeName (s : Segment) : Text :=
  (Text.splitOn '.' s.fullTypeName).getLastD []

end Segment

/-- Reads a segment from a mapping. -/
def readSegment : Value → Reading Segment :=
  readEntries (.notRecord "PathSegment") fun entries =>
    Reading.and
      (Reading.and
        (Reading.and (.ok Segment.mk) (Reading.required "identifier" readText entries))
        (Reading.optional "kind" .other (readChoice SegmentKind.byName) entries))
      (Reading.optional "type_name" none (readNullable readText) entries)

end CallSnippets
