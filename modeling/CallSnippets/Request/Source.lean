import CallSnippets.Files.Document
import CallSnippets.Json.Printer
import CallSnippets.Refusal.Basic
import CallSnippets.Request.Basic
import CallSnippets.Request.Name

/-!
# Files of requests

A file holds one request or a list of them. Each request has a name that no other one in the file
has: the one it is given as its id, or else one that is made from its method and path.

The requests of a list are taken in order, and the first that cannot be taken decides what is
answered; what comes after it has no influence. A body may be written as a part of the document, and
is then turned into the JSON text that stands for it.

## Main definitions

* `SourceFormat`: One request or a list.
* `requestEntries`: The entries of a file, one for each request.
* `namedRequest`: The request of an entry, with its name.
* `namedRequests`: The requests of a document.
* `loadFormat`, `loadRequests`, `loadRequest`: What is asked of a file.
-/

namespace CallSnippets

/-- What a file of requests holds. -/
inductive SourceFormat where
  /-- One request. -/
  | single
  /-- A list of requests. -/
  | batch
  deriving DecidableEq, Repr

/-- The name of a format. -/
def SourceFormat.name : SourceFormat → Text
  | single => "single"
  | batch => "batch"

/-- What is answered where there is no document of requests in a file. -/
def sourceTrouble (path : Text) : DocumentFailure → Trouble
  | .unreadable e => .refusal (.unreadableFile path e)
  | .malformed => .refusal (.malformedFile path)
  | .fault f => .fault f

/-- The entries of a document of requests. -/
def sourceEntries (path : Text) (v : Value) : Except Trouble (List (Value × Value)) :=
  match v.entries? with
  | some entries => .ok entries
  | none => .error (.refusal (.fileNotMapping path))

/-- The format of a document of requests: it is a list where there is an entry for one. -/
def sourceFormat (entries : List (Value × Value)) : SourceFormat :=
  match Value.lookup "requests" entries with
  | some _ => .batch
  | none => .single

/-- The items of a value that is a list. -/
def Value.list? (v : Value) : Option (List Value) :=
  match v.unknot with
  | .list items => some items
  | _ => none

/-- The entries of a document, one for each request. -/
def requestEntries (path : Text) (entries : List (Value × Value)) :
    Except Refusal (List Value) :=
  match Value.lookup "requests" entries with
  | none => .ok [.map entries]
  | some v =>
    match v.list? with
    | some items => .ok items
    | none => .error (.requestsNotList path)

/-- A body that is written as a part of the document, as the text that stands for it. -/
def bodyValue (v : Value) : Except Fault Value :=
  match v.unknot with
  | .map _ => (Json.print v).map .text
  | .list _ => (Json.print v).map .text
  | _ => .ok v

/-- The fields of a request, with a text for its body. -/
def withBodyText (entries : List (Value × Value)) : Except Fault (List (Value × Value)) :=
  match Value.lookup "request_body" entries with
  | none => .ok entries
  | some v => (bodyValue v).map fun body => Value.insertEntry (.text "request_body") body entries

/-- The name of a request that was given an id or none. An id that is as good as none counts as
    none. -/
def nameOf (id : Option Value) (r : Request) : Except Fault Text :=
  match id with
  | some v => if v.isVoid then .ok (requestName r.method r.path) else v.display
  | none => .ok (requestName r.method r.path)

/-- The outcome of a step that may only end in a fault. -/
def orFault {α : Type} (a : Except Fault α) : Except Trouble α :=
  a.mapError .fault

/-- The request of the entry with a number, with its name. -/
def namedRequest (path : Text) (number : Nat) (v : Value) : Except Trouble (Text × Request) :=
  match v.entries? with
  | none => .error (.refusal (.requestNotMapping path number))
  | some entries => do
    let fields ← orFault (withBodyText (Value.eraseEntry "id" entries))
    match readRequestFields fields with
    | .error issues => .error (.refusal (.invalidRequest path number issues))
    | .ok r =>
      let name ← orFault (nameOf (Value.lookup "id" entries) r)
      return (name, r)

/-- The requests of entries from a number on, after others whose names are known. -/
def namedRequestsFrom (path : Text) (known : List Text) (number : Nat) :
    List Value → Except Trouble (List (Text × Request))
  | [] => .ok []
  | v :: rest => do
    let r ← namedRequest path number v
    if known.contains r.1 then .error (.refusal (.duplicateName path r.1))
    else
      let more ← namedRequestsFrom path (r.1 :: known) (number + 1) rest
      return r :: more

/-- The requests of a document, in order. -/
def namedRequests (path : Text) (entries : List (Value × Value)) :
    Except Trouble (List (Text × Request)) := do
  let items ← (requestEntries path entries).mapError .refusal
  namedRequestsFrom path [] 1 items

/-- The only request of a document that has no other. -/
def onlyRequest (path : Text) : List (Text × Request) → Except Trouble Request
  | [r] => .ok r.2
  | rs => .error (.refusal (.notOneRequest path rs.length))

section

variable {m : Type → Type} [Monad m] [FileSystem m]

/-- The entries of the document in a file of requests. -/
def loadEntries (p : Path) : m (Except Trouble (List (Value × Value))) := do
  let document ← readDocument p
  return document.mapError (sourceTrouble p.text) >>= sourceEntries p.text

/-- The format of a file of requests. -/
def loadFormat (p : Path) : m (Except Trouble SourceFormat) := do
  return (← loadEntries p).map sourceFormat

/-- The requests of a file, in order, with their names. -/
def loadRequests (p : Path) : m (Except Trouble (List (Text × Request))) := do
  return (← loadEntries p) >>= namedRequests p.text

/-- The request of a file that holds no other. -/
def loadRequest (p : Path) : m (Except Trouble Request) := do
  return (← loadRequests p) >>= onlyRequest p.text

end

end CallSnippets
