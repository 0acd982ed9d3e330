import CallSnippets.Files.System
import CallSnippets.Yaml.Meaning

/-!
# Documents in files

A file that holds a document is read in three steps, each of which may fail in its own way: its
bytes are taken from the file system, they are decoded as UTF-8, and the text is read as a document.
Who asks for the document decides what to answer to a file that cannot be read or to a text that is
no document; all else is a fault.

## Main definitions

* `DocumentFailure`: Why there is no document.
* `documentOf`: The document in the bytes of a file.
* `readDocument`: The document in a file.
-/

namespace CallSnippets

/-- Why there is no document in a file. -/
inductive DocumentFailure where
  /-- The file system does not hand out the file. -/
  | unreadable (e : SystemError)
  /-- The text of the file is no document. -/
  | malformed
  /-- A fault that nothing answers for. -/
  | fault (f : Fault)
  deriving DecidableEq, Repr

/-- The document in what was read from a path. -/
def documentOf (path : Text) : Except FileError ByteArray → Except DocumentFailure Value
  | .error (.system e) => .error (.unreadable e)
  | .error e => .error (.fault (e.fault path))
  | .ok bytes =>
    match Text.ofBytes? bytes with
    | none => .error (.fault .undecodable)
    | some t =>
      match Yaml.load t with
      | .ok v => .ok v
      | .error .malformed => .error .malformed
      | .error (.fault f) => .error (.fault f)

/-- The document in a file. -/
def readDocument {m : Type → Type} [Monad m] [FileSystem m] (p : Path) :
    m (Except DocumentFailure Value) := do
  return documentOf p.text (← FileSystem.readFile p.text)

end CallSnippets
