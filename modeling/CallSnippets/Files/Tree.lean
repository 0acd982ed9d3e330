import CallSnippets.Files.Name
import CallSnippets.Files.System

/-!
# Trees of files

Files kept in memory. A place is a directory or a file somewhere below the root, told by the names
that lead to it, the last one first: the place above it is then the rest of the list, and one place
is below another if it ends in it. The names are those under which they are known, so that names with
the same bytes lead to the same place.

A path is followed name by name from a directory. Two dots lead to the directory above, and from the
root to itself. Whatever leads on has to be a directory; only the last name may lead to nothing.

The working directory and all places above it are directories, whatever else is in the tree.

## Main definitions

* `Place`: A place.
* `FileNode`, `FileTree`: What stands at places.
* `FileTree.follow`: Where a path leads.
* `FileTree.look`, `FileTree.read`, `FileTree.write`, `FileTree.create`: The answers of a tree.
-/

namespace CallSnippets

/-- A place, told by the names that lead to it from the root, the last one first. Each is the text under
    which the name is known. -/
abbrev Place := List Text

/-- What stands at a place. -/
inductive FileNode where
  /-- A file with its bytes. -/
  | file (bytes : ByteArray)
  /-- A directory. -/
  | directory

/-- The kind of what stands at a place. -/
def FileNode.kind : FileNode → FileKind
  | file _ => .file
  | directory => .directory

/-- A tree of files, seen from a directory in it. -/
structure FileTree where
  /-- What stands at places. -/
  nodes : List (Place × FileNode)
  /-- The place where paths start that do not start at the root. -/
  workingDirectory : Place

namespace FileTree

/-- What stands at a place. -/
def node? (t : FileTree) (place : Place) : Option FileNode :=
  if place.isSuffixOf t.workingDirectory then some .directory else t.nodes.lookup place

/-- The tree with something put at a place. -/
def put (t : FileTree) (place : Place) (node : FileNode) : FileTree :=
  { t with nodes := (place, node) :: t.nodes.filter fun n => n.1 ≠ place }

/-- Where a path leads. -/
inductive Target where
  /-- To something. -/
  | found (place : Place) (node : FileNode)
  /-- To nothing, but in a directory. -/
  | free (place : Place)

/-- The most bytes that a name may have. -/
def nameLimit : Nat := 255

/-- The count of bytes from which on a path is too long. -/
def pathLimit : Nat := 4096

/-- How many bytes a name or a path has. -/
def byteCount (t : Text) : Nat :=
  ((Text.fileBytes? t).getD []).length

/-- Where names lead from a directory. -/
def walk (t : FileTree) (place : Place) : List Text → Except FileError Target
  | [] => .ok (.found place .directory)
  | name :: rest =>
    if name.isEmpty || name = "." then walk t place rest
    else if name = ".." then walk t place.tail rest
    else if nameLimit < byteCount name then .error (.system .nameTooLong)
    else
      let next := Text.known name :: place
      match t.node? next with
      | some .directory => walk t next rest
      | some node => if rest.isEmpty then .ok (.found next node) else .error (.system .notDirectory)
      | none => if rest.isEmpty then .ok (.free next) else .error (.system .noSuchFile)

/-- Where a path leads that is given as text. -/
def follow (t : FileTree) (path : Text) : Except FileError Target :=
  if (Text.fileBytes? path).isNone then .error .unencodable
  else if path.contains '\x00' then .error .nullCharacter
  else if path.isEmpty then .error (.system .noSuchFile)
  else if pathLimit ≤ byteCount path then .error (.system .nameTooLong)
  else walk t (if Path.startOf path = .here then t.workingDirectory else []) (Text.splitOn '/' path)

/-- What stands where a path leads. -/
def look (t : FileTree) (path : Text) : Except FileError FileKind := do
  match ← t.follow path with
  | .found _ node => return node.kind
  | .free _ => .error (.system .noSuchFile)

/-- The bytes of the file that a path leads to. -/
def read (t : FileTree) (path : Text) : Except FileError ByteArray := do
  match ← t.follow path with
  | .found _ (.file bytes) => return bytes
  | .found _ .directory => .error (.system .isDirectory)
  | .free _ => .error (.system .noSuchFile)

/-- The tree with the bytes written to the file that a path leads to. -/
def write (t : FileTree) (path : Text) (bytes : ByteArray) : Except FileError FileTree := do
  match ← t.follow path with
  | .found place (.file _) => return t.put place (.file bytes)
  | .found _ .directory => .error (.system .isDirectory)
  | .free place => return t.put place (.file bytes)

/-- The tree with a directory made where a path leads. -/
def create (t : FileTree) (path : Text) : Except FileError FileTree := do
  match ← t.follow path with
  | .found _ _ => .error (.system .fileExists)
  | .free place => return t.put place .directory

/-- The answer to a change: the tree is left as it is where the change fails. -/
def change (changed : FileTree → Except FileError FileTree) :
    StateM FileTree (Except FileError Unit) :=
  fun t =>
    match changed t with
    | .ok next => (.ok (), next)
    | .error e => (.error e, t)

/-- A tree answers as a file system does, and keeps what is written. -/
instance : FileSystem (StateM FileTree) where
  look path := fun t => (t.look path, t)
  readFile path := fun t => (t.read path, t)
  writeFile path bytes := change fun t => t.write path bytes
  createDirectory path := change fun t => t.create path

end FileTree

end CallSnippets
