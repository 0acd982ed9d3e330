import CallSnippets.Request.Modifier
import CallSnippets.Request.Segment
import CallSnippets.Text.Case

/-!
# Requests

The description of one call of a service: its method, its path and what goes with them.

A description is read from a mapping. The method is brought into one form, upper case without blanks
around it; every other text is kept as it is given. Unknown entries are left alone.

## Main definitions

* `Request`: The description of a call.
* `Request.hasBody`, `Request.hasCustomQuery`, `Request.lastSegment?`: What snippets depend on.
* `Request.same`: Whether two descriptions say the same.
* `readRequest`: Reads a description from a mapping.
-/

namespace CallSnippets

/-- The description of a call. -/
structure Request where
  /-- The method, in upper case. -/
  method : Text
  /-- The path without its query. -/
  path : Text
  /-- The segments of the path. -/
  segments : List Segment
  /-- The version of the service. -/
  apiVersion : Text
  /-- The query as it was written. -/
  queryString : Text
  /-- The query options that are not modifiers, each once. -/
  customOptions : List Text
  /-- The query modifiers. -/
  modifiers : Modifiers
  /-- The headers, name and value. -/
  headers : List (Text × Text)
  /-- The body, if there is one. -/
  body : Option Text
  /-- The name of the variable for the body. -/
  variableName : Text
  deriving DecidableEq, Repr

namespace Request

/-- The request has a body that is more than blanks. -/
def hasBody (r : Request) : Bool :=
  match r.body with
  | some body => !Text.allBlank body
  | none => false

/-- The query holds options that are not modifiers. -/
def hasCustomQuery (r : Request) : Bool :=
  !r.customOptions.isEmpty

/-- The last segment of the path. -/
def lastSegment? (r : Request) : Option Segment :=
  r.segments.getLast?

/-- Two lists of distinct texts have the same members. -/
def sameMembers (a b : List Text) : Bool :=
  a.all b.contains && b.all a.contains

/-- Two descriptions say the same: neither the order of modifiers nor that of options matters. -/
def same (a b : Request) : Bool :=
  a.modifiers.same b.modifiers && sameMembers a.customOptions b.customOptions &&
    { a with modifiers := [], customOptions := [] } ==
      { b with modifiers := [], customOptions := [] }

/-- A method in the one form that methods have. -/
def methodOf (t : Text) : Text :=
  Text.upper (Text.trim t)

end Request

/-- The rows that stand for the entries of a mapping; any other value is left as it is. -/
def rowsOfMap (v : Value) : Value :=
  match v.entries? with
  | some entries => .tuple (entries.map fun e => .tuple [e.1, e.2])
  | none => v

/-- Reads headers from a mapping or from rows of name and value. -/
def readHeaders (v : Value) : Reading (List (Text × Text)) :=
  readTuple readPair (rowsOfMap v)

/-- Reads a method. -/
def readMethod (v : Value) : Reading Text :=
  (readText v).map Request.methodOf

/-- Reads the description of a call from the entries of a mapping. -/
def readRequestFields (entries : List (Value × Value)) : Reading Request :=
  let fields : Reading (Text → Text → List Segment → Text → Text → List Text → Modifiers →
    List (Text × Text) → Option Text → Text → Request) := .ok Request.mk
  let fields := Reading.and fields (Reading.required "method" readMethod entries)
  let fields := Reading.and fields (Reading.required "path" readText entries)
  let fields := Reading.and fields (Reading.optional "segments" [] (readTuple readSegment) entries)
  let fields := Reading.and fields (Reading.optional "api_version" "v1.0" readText entries)
  let fields := Reading.and fields (Reading.optional "query_string" [] readText entries)
  let fields := Reading.and fields (Reading.optional "custom_query_options" [] readSet entries)
  let fields := Reading.and fields (Reading.optional "modifiers" [] readModifiers entries)
  let fields := Reading.and fields (Reading.optional "headers" [] readHeaders entries)
  let fields := Reading.and fields
    (Reading.optional "request_body" none (readNullable readText) entries)
  Reading.and fields (Reading.optional "response_variable_name" "res" readText entries)

/-- Reads the description of a call from a mapping. -/
def readRequest : Value → Reading Request :=
  readEntries (.notRecord "RequestDescriptor") readRequestFields

end CallSnippets
