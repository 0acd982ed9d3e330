import CallSnippets.Command.Single
import CallSnippets.Snippet.Batch

/-!
# Snippets of a whole file

The command that makes the snippets of all requests in a file in all languages and writes each to a
file of its own, below a directory for its language. The items are written in their order. One that
failed is told and passed over; one whose file is there may be kept instead of written.

What becomes of each item is noted, and everything that is told follows from these notes. A fault ends
the run where it occurs, and what was written before it stays. It may be one of the file system, or that
of a line which cannot be told: the path of a file may have bytes as a name and still no form in UTF-8.

## Main definitions

* `BatchOptions`: What the command line says to the command.
* `Fate`, `storeItems`: What becomes of items.
* `runBatch`: The command.
-/

namespace CallSnippets

/-- What the command line says to the command for a whole file. -/
structure BatchOptions where
  /-- The file with the requests. -/
  source : Path
  /-- The languages, if any are named. -/
  languages : List Text
  /-- The directory to write below, if one is named. -/
  output? : Option Path
  /-- Files that are there are kept. -/
  append : Bool
  /-- The snippets are checked. -/
  check : Bool
  deriving DecidableEq, Repr

namespace BatchOptions

/-- What a command line says to the command for a whole file. -/
def ofLine (line : CommandLine) : BatchOptions where
  source := line.source
  languages := line.values .language
  output? := line.output?
  append := line.has .append
  check := line.has .check

/-- The languages to make snippets in: those that are named, else those of the settings. -/
def languagesOr (o : BatchOptions) (settings : Settings) : List Text :=
  if o.languages.isEmpty then settings.languages else o.languages

/-- The directory to write below: the one that is named, else that of the settings. -/
def outputOr (o : BatchOptions) (settings : Settings) : Path :=
  o.output?.getD settings.outputDirectory

end BatchOptions

/-- What became of an item. -/
inductive Fate where
  /-- There is no snippet. -/
  | failed (name language : Text) (failure : SnippetFailure)
  /-- The file was there and was kept. -/
  | kept
  /-- The snippet was written to a file, told by its name below the directory and by its path. -/
  | created (name : Text) (path : Path) (snippet : Text)
  deriving DecidableEq, Repr

namespace Fate

/-- What is told as the result. -/
def out : Fate → List Text
  | created _ path _ => ["  Created " ++ path.text]
  | _ => []

/-- What is told beside it. -/
def err : Fate → List Text
  | failed name language failure =>
    ["  Failed " ++ name ++ " (" ++ language ++ "): " ++ failure.message]
  | _ => []

/-- There is no snippet. -/
def isFailed : Fate → Bool
  | failed _ _ _ => true
  | _ => false

/-- The file was kept. -/
def isKept : Fate → Bool
  | kept => true
  | _ => false

/-- Files with the one that was written. -/
def addTo (files : List (Text × Text)) : Fate → List (Text × Text)
  | created name _ snippet => putFile name snippet files
  | _ => files

end Fate

/-- The files that were written, each once. -/
def createdFiles (fates : List Fate) : List (Text × Text) :=
  fates.foldl Fate.addTo []

/-- The name of the file for an item, below the directory to write to. -/
def BatchItem.fileName (item : BatchItem) : Text :=
  Text.lower item.language ++ "/" ++ item.name ++ "." ++ item.fileExtension

section

variable {m : Type → Type} [Monad m] [FileSystem m]

/-- Writes a snippet to the file for its item. The file is told of as soon as it is written, and this fails
    if its path has no form in bytes. -/
def createFile (output : Path) (item : BatchItem) (snippet : Text) : m (Except Fault Fate) := do
  let p := output.join item.fileName
  match ← storeText p snippet with
  | .ok () =>
    if (Text.toBytes? p.text).isSome then return .ok (.created item.fileName p snippet)
    else return .error .unencodable
  | .error e => return .error (e.fault p.text)

/-- Writes the snippet of an item, unless there is none or its file is there and is to be kept. -/
def storeItem (append : Bool) (output : Path) (item : BatchItem) : m (Except Fault Fate) :=
  match item.result with
  | .error failure => return .ok (.failed item.name item.language failure)
  | .ok snippet =>
    if append then do
      let p := output.join item.fileName
      match ← isPresent p with
      | .ok true => return .ok .kept
      | .ok false => createFile output item snippet
      | .error e => return .error (e.fault p.text)
    else createFile output item snippet

/-- Writes the snippets of items in order, up to the first fault. -/
def storeItems (append : Bool) (output : Path) :
    List BatchItem → m (List Fate × Option Fault)
  | [] => return ([], none)
  | item :: rest => do
    match ← storeItem append output item with
    | .error fault => return ([], some fault)
    | .ok fate =>
      let (fates, fault) ← storeItems append output rest
      return (fate :: fates, fault)

end

/-- The files with flaws as they are told. -/
def flawLines (check : Bool) (files : List (Text × Text)) : List Text :=
  if check then
    (flawedFiles files).map fun f => "  Check failed for " ++ f.1 ++ ": " ++ f.2
  else []

/-- The closing line: how many files were written, and how many items failed or were kept. -/
def closingLine (output : Path) (fates : List Fate) : Text :=
  "Generated " ++ natText (createdFiles fates).length ++ " snippets in " ++ output.text ++ " (" ++
    natText (fates.filter Fate.isFailed).length ++ " failed, " ++
    natText (fates.filter Fate.isKept).length ++ " kept)"

/-- The end of a run in which all items were reached. -/
def closing (check : Bool) (output : Path) (fates : List Fate) : Outcome :=
  Outcome.after [] (told (flawLines check (createdFiles fates)))
    (Outcome.telling [closingLine output fates]
      ⟨[], [], .exit (if fates.any Fate.isFailed then 1 else 0)⟩)

/-- The outcome of a run, given what became of the items that were reached. -/
def batchOutcome (check : Bool) (output : Path) (fates : List Fate) (fault : Option Fault) :
    Outcome :=
  Outcome.after (told (fates.flatMap Fate.out)) (told (fates.flatMap Fate.err))
    (match fault with
    | some f => .faulted f
    | none => closing check output fates)

section

variable {m : Type → Type} [Monad m] [FileSystem m]

/-- Makes and writes the snippets of requests. -/
def makeBatch (settings : Settings) (verbose : Bool) (o : BatchOptions)
    (requests : List (Text × Request)) : m Outcome :=
  let languages := o.languagesOr settings
  match findGrammars languages with
  | .error refusal => return .refused refusal
  | .ok grammars => do
    let found := "Found " ++ natText requests.length ++ " requests, generating for: " ++
      Text.join ", " languages
    let output := o.outputOr settings
    let (fates, fault) ← storeItems o.append output (batchItems requests grammars)
    return Outcome.after (told [found]) (remarked verbose (batchRemarks requests grammars))
      (batchOutcome (o.check || settings.check) output fates fault)

/-- Makes and writes the snippets of all requests in a file. The file is told of before it is loaded, and
    nothing else is done if its path has no form in bytes. -/
def runBatch (settings : Settings) (verbose : Bool) (o : BatchOptions) : m Outcome :=
  if (Text.toBytes? o.source.text).isSome then do
    let outcome ← match ← loadRequests o.source with
      | .error trouble => pure (.troubled trouble)
      | .ok requests => makeBatch settings verbose o requests
    return Outcome.after (told ["Loading " ++ o.source.text ++ "..."]) [] outcome
  else return .faulted .unencodable

end

end CallSnippets
