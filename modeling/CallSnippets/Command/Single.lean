import CallSnippets.Command.Line
import CallSnippets.Command.Outcome
import CallSnippets.Grammar.Registry
import CallSnippets.Request.Source
import CallSnippets.Settings.Source
import CallSnippets.Snippet.Check

/-!
# One snippet

The command that makes the snippet of the only request in a file. The snippet is told, or written to a
file where one is named; nothing is written or told as the result unless the snippet could be made.

## Main definitions

* `SingleOptions`: What the command line says to the command.
* `makeSingle`: The snippet of the request in a file.
* `runSingle`: The command.
-/

namespace CallSnippets

/-- What the command line says to the command for one snippet. -/
structure SingleOptions where
  /-- The file with the request. -/
  source : Path
  /-- The language, if one is named. -/
  language? : Option Text
  /-- The file for the snippet, if one is named. -/
  output? : Option Path
  /-- The snippet is checked. -/
  check : Bool
  deriving DecidableEq, Repr

/-- The path that a command takes besides its options. -/
def CommandLine.source (line : CommandLine) : Path :=
  Path.ofText (line.words.head?.getD [])

/-- The path that is named for what the command writes. -/
def CommandLine.output? (line : CommandLine) : Option Path :=
  (line.value? .output).map Path.ofText

/-- What a command line says to the command for one snippet. An empty language is none. -/
def SingleOptions.ofLine (line : CommandLine) : SingleOptions where
  source := line.source
  language? := (line.value? .language).filter fun language => !language.isEmpty
  output? := line.output?
  check := line.has .check

/-- The language that settings put first. -/
def Settings.firstLanguage (settings : Settings) : Text :=
  settings.languages.head?.getD []

/-- The flaws of a snippet as they are told. -/
def warnings (check : Bool) (snippet : Text) : List Text :=
  if check then (flawMessages snippet).map fun flaw => "Warning: " ++ flaw else []

section

variable {m : Type → Type} [Monad m] [FileSystem m]

/-- Hands out a finished snippet. -/
def deliver (output? : Option Path) (snippet : Text) : m Outcome :=
  match output? with
  | none => return .done [snippet]
  | some p => do
    match ← storeText p snippet with
    | .ok () => return .done ["Snippet saved to " ++ p.text]
    | .error e => return .faulted (e.fault p.text)

/-- Makes the snippet of a request. -/
def makeSingle (settings : Settings) (verbose : Bool) (o : SingleOptions) (r : Request) :
    m Outcome :=
  match findGrammar (o.language?.getD settings.firstLanguage) with
  | .error refusal => return .refused refusal
  | .ok g => do
    let remarks := remarked verbose (renderRemarks g r)
    match (generate g r).unwrap with
    | .error failure => return Outcome.after [] remarks (.refused (.snippet failure))
    | .ok snippet =>
      let outcome ← deliver o.output? snippet
      let check := o.check || settings.check
      return Outcome.after [] (remarks ++ told (warnings check snippet)) outcome

/-- Makes the snippet of the only request in a file. -/
def runSingle (settings : Settings) (verbose : Bool) (o : SingleOptions) : m Outcome := do
  match ← loadRequest o.source with
  | .error trouble => return .troubled trouble
  | .ok r => makeSingle settings verbose o r

end

end CallSnippets
