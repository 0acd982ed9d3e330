import CallSnippets.Command.Run
import CallSnippets.Files.Name

/-!
# The program

The program on the files of a machine. Only this module talks to the machine: it asks for the
variables of the environment, answers what the library asks of files, and tells the outcome on both
streams once the run has ended.

## Main definitions

* `Machine.systemError`: What the machine says.
* `main`: The program.
-/

namespace CallSnippets

namespace Machine

/-- The number and the words of what the machine says. -/
def numberAndWords : IO.Error → Nat × String
  | .noFileOrDirectory _ n words => (n.toNat, words)
  | .alreadyExists _ n words => (n.toNat, words)
  | .inappropriateType _ n words => (n.toNat, words)
  | .invalidArgument _ n words => (n.toNat, words)
  | .permissionDenied _ n words => (n.toNat, words)
  | .resourceExhausted _ n words => (n.toNat, words)
  | .noSuchThing _ n words => (n.toNat, words)
  | .otherError n words => (n.toNat, words)
  | e => (5, toString e)

/-- What the machine says, by its number. -/
def systemError (e : IO.Error) : SystemError :=
  let (number, words) := numberAndWords e
  let known := [SystemError.noSuchFile, .fileExists, .notDirectory, .isDirectory, .nameTooLong]
  (known.find? fun e => e.number = number).getD (.other number words)

/-- What is said of a path whose bytes are no UTF-8. The machine has no words for such a path, so it is not
    asked about it. -/
def unspoken : SystemError :=
  .other 84 "Invalid or incomplete multibyte or wide character"

/-- The answer of the machine to a question about a path. -/
def ask {α : Type} (path : Text) (question : String → IO α) : IO (Except FileError α) := do
  match Text.fileBytes? path with
  | none => return .error .unencodable
  | some bytes =>
    if path.contains '\x00' then return .error .nullCharacter
    match String.fromUTF8? bytes.toByteArray with
    | none => return .error (.system unspoken)
    | some s =>
      try
        return .ok (← question s)
      catch e => return .error (.system (systemError e))

/-- What stands at a path: a directory is what holds itself under the name of a single dot. -/
def kindAt (path : String) : IO FileKind := do
  let _ ← IO.FS.realPath path
  try
    let _ ← IO.FS.realPath (path ++ "/.")
    return .directory
  catch _ => return .file

/-- The machine answers as a file system does. -/
instance : FileSystem IO where
  look path := ask path kindAt
  readFile path := ask path fun p => IO.FS.readBinFile p
  writeFile path bytes := ask path fun p => IO.FS.writeBinFile p bytes
  createDirectory path := ask path fun p => IO.FS.createDir p

/-- The variables of the environment that the program goes by. -/
def environment : IO Environment := do
  let entries ← [languagesVariable, outputVariable].mapM fun name => do
    let value ← IO.getEnv ((Text.toString? name).getD "")
    return value.map fun value => (name, Text.ofString value)
  return entries.filterMap id

/-- A text as the machine takes it. -/
def shown (t : Text) : String :=
  (Text.toString? (Text.escapeHalves t)).getD ""

/-- Tells the outcome of a run. -/
def tell (o : Outcome) : IO Unit := do
  IO.print (shown o.out)
  IO.eprint (shown o.err)
  match o.ending with
  | .exit _ => return
  | .fault f => IO.eprintln (shown f.message)

end Machine

end CallSnippets

/-- Runs the program on a command line. -/
def main (words : List String) : IO UInt32 := do
  let env ← CallSnippets.Machine.environment
  let o ← CallSnippets.runProgram env (words.map CallSnippets.Text.ofString)
  CallSnippets.Machine.tell o
  return o.exitCode.toNat.toUInt32
