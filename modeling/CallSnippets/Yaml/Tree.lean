import CallSnippets.Yaml.Implicit
import CallSnippets.Yaml.Tokens

/-!
# The tree of a document

The tokens of a document are put together to its tree by descending into one collection after the
other. A node may be left out where a key, a value or an item is expected, and then stands for
nothing; an item between hyphens may stand at the indent of the mapping around it; and in brackets a
single key with its value makes a mapping of its own.

Names have to be new where they are given and known where they are used. A collection is known from
its start on, so it may contain itself.

## Main definitions

* `Yaml.Building`, `Yaml.Build`: What is known while a tree is put together.
* `Yaml.Build.node`: The node that the next tokens make.
* `Yaml.documentOf?`: The one document that a text holds.
-/

namespace CallSnippets

namespace Yaml

/-- What is known while a tree is put together. -/
structure Building where
  /-- The tokens that are left. -/
  tokens : List Token
  /-- What happens where they run out. -/
  failure : Failure
  /-- What the handles of tags stand for. -/
  handles : List (Text × Text)
  /-- The names given so far, each with the number of its node. -/
  names : List (Text × Nat)
  /-- The nodes that are complete, by their numbers. -/
  nodes : List (Nat × Node)
  /-- The next number of a node. -/
  next : Nat

/-- A step in putting a tree together. -/
abbrev Build := StateT Building (Except Failure)

namespace Build

/-- The document does not keep to the grammar. -/
def refuse {α : Type} : Build α :=
  fun _ => .error .malformed

/-- The next token. -/
def peek : Build Token := do
  match (← get).tokens with
  | [] => throw (← get).failure
  | t :: _ => return t

/-- Goes on behind the next token. -/
def advance : Build Unit :=
  modify fun s => { s with tokens := s.tokens.drop 1 }

/-- Goes on behind the next token, which has to be the given one. -/
def expect (token : Token) : Build Unit := do
  if (← peek) = token then advance else refuse

/-- Goes on behind the next token if it is the given one, and says whether it was. -/
def accept (token : Token) : Build Bool := do
  if (← peek) = token then
    advance
    return true
  else return false

/-- The handles that every document has. -/
def usualHandles : List (Text × Text) :=
  [("!", "!"), ("!!", Tag.knownStart)]

/-- The text of a tag with its handle replaced by what it stands for. -/
def tagText (handle : Option Text) (suffix : Text) : Build Text := do
  match handle with
  | none => return suffix
  | some handle =>
    match (← get).handles.lookup handle with
    | some start => return start ++ suffix
    | none => refuse

/-- The name and the tag that a node may have, in either order. -/
def properties : Build (Option Text × Option (Option Text × Text)) := do
  match ← peek with
  | .anchor name =>
    advance
    match ← peek with
    | .tag handle suffix =>
      advance
      return (some name, some (handle, suffix))
    | _ => return (some name, none)
  | .tag handle suffix =>
    advance
    match ← peek with
    | .anchor name =>
      advance
      return (some name, some (handle, suffix))
    | _ => return (none, some (handle, suffix))
  | _ => return (none, none)

/-- The number of a new node, and its name if it has one, which has to be new. -/
def register (name : Option Text) : Build Nat := do
  let s ← get
  match name with
  | none =>
    set { s with next := s.next + 1 }
    return s.next
  | some name =>
    if (s.names.lookup name).isSome then refuse
    else
      set { s with names := (name, s.next) :: s.names, next := s.next + 1 }
      return s.next

/-- Keeps a node that is complete. -/
def keep (number : Nat) (node : Node) : Build Node := do
  modify fun s => { s with nodes := (number, node) :: s.nodes }
  return node

/-- The tag of a collection, given the one that is written and the one that it has otherwise. -/
def collectionTag (written : Option Text) (usual : Tag) : Tag :=
  match written with
  | none => usual
  | some t => if t = "!" then usual else Tag.ofText t

/-- The tag of a scalar, given the one that is written. -/
def scalarTag (written : Option Text) (text : Text) (plain : Bool) : Tag :=
  match written with
  | none => if plain then implicitTag text else .str
  | some t => if t = "!" then implicitTag text else Tag.ofText t

/-- A node that is left out. -/
def absent : Build Node := do
  return .scalar (← register none) .null []

/-- The tokens before which a key or a value is left out in a mapping of lines. -/
def endsBlockPart : Token → Bool
  | .key => true
  | .value => true
  | .blockEnd => true
  | _ => false

/-- The tokens before which an item is left out in a list at the indent of its mapping. -/
def endsLooseItem : Token → Bool
  | .blockEntry => true
  | t => endsBlockPart t

/-- The tokens before which an item is left out in a list of lines. -/
def endsItem : Token → Bool
  | .blockEntry => true
  | .blockEnd => true
  | _ => false

/-- The tokens before which a key is left out in brackets that a given token closes. -/
def endsFlowKeyPart (closing : Token) (t : Token) : Bool :=
  t = .value || t = .flowEntry || t = closing

/-- The tokens before which a value is left out in brackets that a given token closes. -/
def endsFlowValue (closing : Token) (t : Token) : Bool :=
  t = .flowEntry || t = closing

/-- Where a node stands, which decides what it may be. -/
inductive Place where
  /-- Inside of brackets. -/
  | flow
  /-- On lines. -/
  | lines
  /-- On lines as the key or value of a mapping, where a list may stand at the indent of the
      mapping. -/
  | part
  deriving DecidableEq, Repr

mutual

/-- The node that the next tokens make. -/
def node (fuel : Nat) (place : Place) : Build Node :=
  match fuel with
  | 0 => refuse
  | fuel + 1 => do
    match ← peek with
    | .alias name =>
      advance
      match (← get).names.lookup name with
      | some number => return .ref number
      | none => refuse
    | _ =>
      let (name, tag) ← properties
      let written ← match tag with
        | some (handle, suffix) => some <$> tagText handle suffix
        | none => pure none
      let number ← register name
      match ← peek, place with
      | .blockEntry, .part =>
        keep number (.list number (collectionTag written .seq) (← looseItems fuel))
      | .scalar text plain, _ =>
        advance
        keep number (.scalar number (scalarTag written text plain) text)
      | .flowListStart, _ =>
        advance
        keep number (.list number (collectionTag written .seq) (← flowItems fuel true))
      | .flowMapStart, _ =>
        advance
        keep number (.map number (collectionTag written .map) (← flowEntries fuel true))
      | .blockListStart, .lines | .blockListStart, .part =>
        advance
        keep number (.list number (collectionTag written .seq) (← blockItems fuel))
      | .blockMapStart, .lines | .blockMapStart, .part =>
        advance
        keep number (.map number (collectionTag written .map) (← blockEntries fuel))
      | _, _ =>
        if name.isSome || written.isSome then
          keep number (.scalar number (scalarTag written [] true) [])
        else refuse

/-- The node that the next tokens make, unless it is left out before the next one. -/
def nodeUnless (fuel : Nat) (place : Place) (leftOut : Token → Bool) : Build Node :=
  match fuel with
  | 0 => refuse
  | fuel + 1 => do
    if leftOut (← peek) then absent else node fuel place

/-- The items of a list of lines up to its end. -/
def blockItems (fuel : Nat) : Build (List Node) :=
  match fuel with
  | 0 => refuse
  | fuel + 1 => do
    if ← accept .blockEntry then
      let item ← nodeUnless fuel .lines endsItem
      return item :: (← blockItems fuel)
    else
      expect .blockEnd
      return []

/-- The items of a list at the indent of its mapping. -/
def looseItems (fuel : Nat) : Build (List Node) :=
  match fuel with
  | 0 => refuse
  | fuel + 1 => do
    if ← accept .blockEntry then
      let item ← nodeUnless fuel .lines endsLooseItem
      return item :: (← looseItems fuel)
    else return []

/-- The entries of a mapping of lines up to its end. -/
def blockEntries (fuel : Nat) : Build (List (Node × Node)) :=
  match fuel with
  | 0 => refuse
  | fuel + 1 => do
    if ← accept .key then
      let key ← nodeUnless fuel .part endsBlockPart
      let value ← valueOf fuel .part endsBlockPart
      return (key, value) :: (← blockEntries fuel)
    else
      expect .blockEnd
      return []

/-- The value behind a key, which is left out if no colon follows the key. -/
def valueOf (fuel : Nat) (place : Place) (leftOut : Token → Bool) : Build Node :=
  match fuel with
  | 0 => refuse
  | fuel + 1 => do
    if ← accept .value then nodeUnless fuel place leftOut else absent

/-- The items of a list in brackets up to its end. -/
def flowItems (fuel : Nat) (first : Bool) : Build (List Node) :=
  match fuel with
  | 0 => refuse
  | fuel + 1 => do
    if ← accept .flowListEnd then return []
    if !first then expect .flowEntry
    if ← accept .key then
      let key ← nodeUnless fuel .flow (endsFlowKeyPart .flowListEnd)
      let value ← valueOf fuel .flow (endsFlowValue .flowListEnd)
      let number ← register none
      let item ← keep number (.map number .map [(key, value)])
      return item :: (← flowItems fuel false)
    else if ← accept .flowListEnd then return []
    else
      let item ← node fuel .flow
      return item :: (← flowItems fuel false)

/-- The entries of a mapping in braces up to its end. -/
def flowEntries (fuel : Nat) (first : Bool) : Build (List (Node × Node)) :=
  match fuel with
  | 0 => refuse
  | fuel + 1 => do
    if ← accept .flowMapEnd then return []
    if !first then expect .flowEntry
    if ← accept .key then
      let key ← nodeUnless fuel .flow (endsFlowKeyPart .flowMapEnd)
      let value ← valueOf fuel .flow (endsFlowValue .flowMapEnd)
      return (key, value) :: (← flowEntries fuel false)
    else if ← accept .flowMapEnd then return []
    else
      let key ← node fuel .flow
      let value ← absent
      return (key, value) :: (← flowEntries fuel false)

end

/-- The directives before a document, each of which may be given once, and the start behind them. -/
def directives (fuel : Nat) (version : Bool) (handles : List (Text × Text)) :
    Build (List (Text × Text)) :=
  match fuel with
  | 0 => refuse
  | fuel + 1 => do
    match ← peek with
    | .directive d =>
      advance
      match d with
      | .version major =>
        if version || major ≠ 1 then refuse else directives fuel true handles
      | .handle name start =>
        if (handles.lookup name).isSome then refuse
        else directives fuel version ((name, start) :: handles)
      | .other => directives fuel version handles
    | _ =>
      expect .documentStart
      return handles

/-- The tokens before which a document is empty. -/
def endsDocument : Token → Bool
  | .directive _ => true
  | .documentStart => true
  | .documentEnd => true
  | .streamEnd => true
  | _ => false

/-- Goes on behind lines that end documents. -/
def skipEnds (fuel : Nat) : Build Unit :=
  match fuel with
  | 0 => refuse
  | fuel + 1 => do
    if ← accept .documentEnd then skipEnds fuel

/-- The content of the one document there may be, which has to be all there is. -/
def content (fuel : Nat) (leftOut : Token → Bool) : Build Node := do
  let root ← nodeUnless fuel .lines leftOut
  skipEnds fuel
  expect .streamEnd
  return root

/-- The one document there may be. -/
def single (fuel : Nat) : Build (Option Node) := do
  match ← peek with
  | .streamEnd => return none
  | .directive _ | .documentStart =>
    let handles ← directives fuel false []
    modify fun s => { s with handles := handles ++ usualHandles }
    some <$> content fuel endsDocument
  | _ => some <$> content fuel fun _ => false

end Build

/-- The one document that a text holds, if it holds any. -/
def documentOf? (t : Text) : Except Failure (Option Document) := do
  let found := tokensOf t
  let fuel := 4 * found.tokens.length + 8
  let (root, s) ←
    (Build.single fuel).run ⟨found.tokens, found.failure, Build.usualHandles, [], [], 0⟩
  return root.map fun root => ⟨root, s.nodes⟩

end Yaml

end CallSnippets
