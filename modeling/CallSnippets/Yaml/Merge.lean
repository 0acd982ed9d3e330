import CallSnippets.Yaml.Cursor
import CallSnippets.Yaml.Node

/-!
# Merged mappings

A merge key says that a mapping takes over the entries of others. They go before its own entries, and
an entry that is mentioned again later has the last word. What is taken over from another mapping is
what that one has with its own merge keys carried out, so these are carried out first.

Carrying them out changes what a mapping consists of wherever it is looked at afterwards, because a
mapping may stand in several places of a document. A mapping may even be merged into itself or into a
part of itself: its merge keys are taken out of it one by one before what they name is looked at, so
it is carried out again with those that are left, and this ends.

A key that is the mark for a value counts as a text from then on.

## Main definitions

* `Yaml.Merging`: What mappings consist of by now.
* `Yaml.Merge.scan`: Carries out the merge keys among the entries of a mapping.
* `Yaml.Merge.flatten`: Carries out the merge keys of a mapping.
-/

namespace CallSnippets

namespace Yaml

/-- An entry of a mapping. -/
abbrev Entry := Node × Node

/-- What mappings consist of by now. -/
structure Merging where
  /-- The entries of the mappings that have changed, the last change first. -/
  entries : List (Nat × List Entry)
  /-- The mappings whose merge keys have all been carried out. -/
  finished : List Nat
  /-- The marks for a value that count as texts. -/
  texts : List Nat

namespace Merging

/-- Nothing has changed yet. -/
def start : Merging := ⟨[], [], []⟩

/-- The tag of a node by now. -/
def tagOf (s : Merging) (node : Node) : Tag :=
  if node.tag = .value ∧ s.texts.contains node.number then .str else node.tag

/-- The entries of a mapping by now, given those that it is written with. -/
def entriesOf (s : Merging) (number : Nat) (written : List Entry) : List Entry :=
  (s.entries.lookup number).getD written

/-- A mapping has other entries from now on. -/
def put (s : Merging) (number : Nat) (entries : List Entry) : Merging :=
  { s with entries := (number, entries) :: s.entries }

/-- The merge keys of a mapping have all been carried out. -/
def finish (s : Merging) (number : Nat) (entries : List Entry) : Merging :=
  { s.put number entries with finished := number :: s.finished }

/-- A mark for a value counts as a text. -/
def countAsText (s : Merging) (number : Nat) : Merging :=
  { s with texts := number :: s.texts }

end Merging

/-- A step that looks at what mappings consist of and may change it. -/
abbrev Merge := StateT Merging (Except Failure)

namespace Merge

/-- Carries out the merge keys among the entries of a mapping that are left, behind those that were
    passed and with what was taken over before. Where the mapping was finished in the meantime, because
    it is merged into a part of itself, no merge key is left. -/
def scan (d : Document) (take : Node → Merge (List Entry)) (number : Nat)
    (passed merged : List Entry) : List Entry → Merge Unit
  | [] => modify fun s => s.finish number (merged ++ passed.reverse)
  | (key, value) :: rest => do
    let node := d.resolve key
    match (← get).tagOf node with
    | .merge =>
      modify fun s => s.put number (passed.reverse ++ rest)
      let more ← take value
      let s ← get
      if s.finished.contains number then
        set (s.put number (merged ++ more ++ s.entriesOf number []))
      else scan d take number passed (merged ++ more) rest
    | .value =>
      modify fun s => s.countAsText node.number
      scan d take number ((key, value) :: passed) merged rest
    | _ => scan d take number ((key, value) :: passed) merged rest

/-- What is taken over from a mapping. -/
def takeMap (d : Document) (flatten : Nat → List Entry → Merge (List Entry)) (node : Node) :
    Merge (List Entry) :=
  match d.resolve node with
  | .map number _ written => flatten number written
  | _ => throw .malformed

/-- What is taken over from what a merge key names: a mapping, or the mappings of a list, of which the
    first has the last word. -/
def take (d : Document) (flatten : Nat → List Entry → Merge (List Entry)) (node : Node) :
    Merge (List Entry) :=
  match d.resolve node with
  | .list _ _ items => do
    let parts ← items.mapM (takeMap d flatten)
    return parts.reverse.flatten
  | node => takeMap d flatten node

/-- Carries out the merge keys of a mapping, and says what it consists of then. Each step into another
    mapping takes a merge key out, so the count of the entries bounds the steps. -/
def flatten (d : Document) : Nat → Nat → List Entry → Merge (List Entry)
  | 0, _, _ => throw .malformed
  | fuel + 1, number, written => do
    let s ← get
    if s.finished.contains number then return s.entriesOf number written
    else
      scan d (take d (flatten d fuel)) number [] [] (s.entriesOf number written)
      return (← get).entriesOf number written

end Merge

end Yaml

end CallSnippets
