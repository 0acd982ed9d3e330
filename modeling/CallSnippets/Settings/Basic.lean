import CallSnippets.Files.Path
import CallSnippets.Record.Scalar

/-!
# Settings

What a run goes by where it is not told otherwise: the languages, the directory that snippets are
written below, how many are made at a time, and whether they are checked. A setting that is not given
has a value of its own.

## Main definitions

* `Settings`: The settings.
* `readSettings`: Reads settings from the entries of a mapping.
-/

namespace CallSnippets

/-- What a run goes by. -/
structure Settings where
  /-- The languages, of which there is at least one. -/
  languages : List Text
  /-- The directory that snippets are written below. -/
  outputDirectory : Path
  /-- How many snippets are made at a time. What is made does not depend on it. -/
  workers : Int
  /-- Snippets are checked. -/
  check : Bool
  deriving DecidableEq, Repr

/-- Reads a list of languages, which must not be empty. -/
def readLanguages (v : Value) : Reading (List Text) :=
  match v.items? with
  | none => Reading.fail .notList
  | some [] => Reading.fail .emptyList
  | some items => Reading.items readText items

/-- Reads a path, which is given as a text and not as bytes. -/
def readPath : Value → Reading Path
  | .text t => .ok (Path.ofText t)
  | _ => Reading.fail .notPath

/-- Reads how many snippets are made at a time: at least one. -/
def readWorkers (v : Value) : Reading Int := do
  let n ← readWhole v
  if n < 1 then Reading.fail (.tooSmall 1) else return n

/-- Reads settings from the entries of a mapping. -/
def readSettings (entries : List (Value × Value)) : Reading Settings :=
  let fields : Reading (List Text → Path → Int → Bool → Settings) := .ok Settings.mk
  let fields := Reading.and fields
    (Reading.optional "languages" ["javascript"] readLanguages entries)
  let fields := Reading.and fields
    (Reading.optional "output_dir" (Path.ofText "snippets") readPath entries)
  let fields := Reading.and fields (Reading.optional "max_workers" 4 readWorkers entries)
  Reading.and fields (Reading.optional "check" false readTruth entries)

end CallSnippets
