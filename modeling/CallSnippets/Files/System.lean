import CallSnippets.Files.Failure
import CallSnippets.Files.Path
import CallSnippets.Text.Encoding

/-!
# File systems

What the library asks of files, apart from where they are kept. A file system answers four
questions about a path; everything else is put together from them. The same program thus runs on the
files of a machine and on a tree of files in memory.

Whether something is there is a question with an answer even where the path cannot be followed. Only
a path that the system refuses to look at leaves it open.

## Main definitions

* `FileKind`, `FileSystem`: What stands at a path, and the four questions.
* `isPresent`, `isDirectory`: Whether something is there.
* `makeDirectories`: Makes a directory and those above it that are missing.
* `storeText`: Writes a text to a file, and makes the directories above it that are missing.
-/

namespace CallSnippets

/-- What stands at a path. -/
inductive FileKind where
  /-- A file. -/
  | file
  /-- A directory. -/
  | directory
  deriving DecidableEq, Repr

/-- The questions that a file system answers about paths, which are given as texts. -/
class FileSystem (m : Type → Type) where
  /-- What stands at a path. -/
  look : Text → m (Except FileError FileKind)
  /-- The bytes of a file. -/
  readFile : Text → m (Except FileError ByteArray)
  /-- Writes the bytes of a file, which need not be there yet. -/
  writeFile : Text → ByteArray → m (Except FileError Unit)
  /-- Makes a directory in one that is there. -/
  createDirectory : Text → m (Except FileError Unit)

/-- A failure to look that means that nothing is there. -/
def FileError.isAbsence : FileError → Bool
  | system .noSuchFile => true
  | system .notDirectory => true
  | nullCharacter => true
  | unencodable => true
  | _ => false

/-- Whether a test holds of what was found; it does not where nothing is there. -/
def foundAs (test : FileKind → Bool) : Except FileError FileKind → Except FileError Bool
  | .ok kind => .ok (test kind)
  | .error e => if e.isAbsence then .ok false else .error e

section

variable {m : Type → Type} [Monad m] [FileSystem m]

/-- Something is at a path. -/
def isPresent (p : Path) : m (Except FileError Bool) := do
  return foundAs (fun _ => true) (← FileSystem.look p.text)

/-- A directory is at a path. -/
def isDirectory (p : Path) : m (Except FileError Bool) := do
  return foundAs (· = .directory) (← FileSystem.look p.text)

/-- The answer to a failure to make a directory: it is none if the directory is there. -/
def unlessDirectory (p : Path) (e : FileError) : m (Except FileError Unit) :=
  match e with
  | .system _ => do
    match ← isDirectory p with
    | .ok true => return .ok ()
    | .ok false => return .error e
    | .error e => return .error e
  | _ => return .error e

/-- Makes a directory in one that is there, unless there is one already. -/
def makeDirectory (p : Path) : m (Except FileError Unit) := do
  match ← FileSystem.createDirectory p.text with
  | .ok () => return .ok ()
  | .error (.system .noSuchFile) => return .error (.system .noSuchFile)
  | .error e => unlessDirectory p e

/-- Makes the directory that some names lead to, the last name first, and before it those above that
    are missing. -/
def makeAbove (start : PathStart) : List Text → m (Except FileError Unit)
  | [] => makeDirectory ⟨start, []⟩
  | name :: above => do
    let p : Path := ⟨start, (name :: above).reverse⟩
    match ← makeDirectory p with
    | .error (.system .noSuchFile) =>
      match ← makeAbove start above with
      | .ok () => makeDirectory p
      | .error e => return .error e
    | done => return done

/-- Makes a directory and those above it that are missing. One that is there is left alone. -/
def makeDirectories (p : Path) : m (Except FileError Unit) :=
  makeAbove p.start p.names.reverse

/-- Writes a text to a file. The file is opened before the text is turned into bytes, so it is left
    empty if the text has none. -/
def writeText (p : Path) (t : Text) : m (Except FileError Unit) :=
  match Text.toBytes? t with
  | some bytes => FileSystem.writeFile p.text bytes
  | none => do
    match ← FileSystem.writeFile p.text .empty with
    | .ok () => return .error .unencodable
    | .error e => return .error e

/-- Writes a text to a file, and makes the directories above it that are missing. -/
def storeText (p : Path) (t : Text) : m (Except FileError Unit) := do
  match ← makeDirectories p.parent with
  | .ok () => writeText p t
  | .error e => return .error e

end

end CallSnippets
