import CallSnippets.Template.Layout
import CallSnippets.Template.Piece

/-!
# Filling in a template

The fields of a template are replaced from left to right by the arguments they name. Fields with a
number and fields without one cannot be mixed: the latter take the arguments in order. A form may
hold fields itself, once.

The attributes of texts are left out. They are the methods and the documentation of texts, and what is shown
of a method is where it lies in memory, which is no matter of the data. So a field that looks up an
attribute of a text is a problem here, whatever its name is, and nothing is said of templates with such
fields.

## Main definitions

* `Template.Arguments`: Arguments by position and by name.
* `Template.Numbering`: How the fields so far were numbered.
* `Template.fillField`: The text of one field.
* `Template.fill`: The text of a template with its fields filled in.
-/

namespace CallSnippets

namespace Template

/-- The arguments for a template. -/
structure Arguments where
  /-- The arguments that fields name by number. -/
  positional : List Argument
  /-- The arguments that fields name by name. -/
  named : List (Text × Argument)
  deriving Repr

/-- Arguments given by position. -/
def byPosition (texts : List Text) : Arguments :=
  ⟨texts.map .text, []⟩

/-- Arguments given by name. -/
def byName (texts : List (Text × Text)) : Arguments :=
  ⟨[], texts.map fun p => (p.1, .text p.2)⟩

/-- How the fields so far were numbered. -/
inductive Numbering where
  /-- Not yet known. -/
  | unset
  /-- In order; the number is that of the next argument. -/
  | inOrder (next : Nat)
  /-- By the numbers written in them. -/
  | written
  deriving DecidableEq, Repr

/-- The number that a text of digits stands for, and nothing for any other text. -/
def position? (value : Nat) : Text → Except Problem (Option Nat)
  | [] => .ok (some value)
  | c :: rest =>
    match Text.digitValue c with
    | none => .ok none
    | some d =>
      if maxPosition < value * 10 + d then .error .tooManyDigits else position? (value * 10 + d) rest

/-- The number that a text stands for, if it is one. -/
def number? (t : Text) : Except Problem (Option Nat) :=
  if t.isEmpty then .ok none else position? 0 t

/-- Splits off the name that the lookups of a field start from. -/
def splitLookups (name : Text) : Text × Text :=
  name.span fun c => c ≠ '.' && c ≠ '['

/-- The argument with a number. -/
def Arguments.at (args : Arguments) (n : Nat) : Except Problem Argument :=
  match args.positional[n]? with
  | some a => .ok a
  | none => .error (.noArgument n)

/-- The argument that a field starts from, and the numbering after it. -/
def Arguments.find (args : Arguments) (numbering : Numbering) (first : Text) :
    Except Problem (Argument × Numbering) := do
  let n ← number? first
  match n, numbering with
  | some n, .inOrder _ => let _ := n; .error .numberedAfterPlain
  | some n, _ => return (← args.at n, .written)
  | none, numbering =>
    if first.isEmpty then
      match numbering with
      | .written => .error .plainAfterNumbered
      | .unset => return (← args.at 0, .inOrder 1)
      | .inOrder next => return (← args.at next, .inOrder (next + 1))
    else
      match args.named.lookup first with
      | some a => return (a, numbering)
      | none => .error (.noName first)

/-- An attribute of an argument. Whole numbers have the four that make them fractions and complex
    numbers. Those of texts are left out. -/
def attributeOf (a : Argument) (name : Text) : Except Problem Argument :=
  match a with
  | .int n =>
    if name = "real" ∨ name = "numerator" then .ok (.int n)
    else if name = "imag" then .ok (.int 0)
    else if name = "denominator" then .ok (.int 1)
    else .error (.noAttribute .int name)
  | .text _ => .error (.noAttribute .text name)

/-- The character of an argument at a position. -/
def itemAt (a : Argument) (position : Text) : Except Problem Argument := do
  let n ← number? position
  if position.isEmpty then .error .emptyLookup
  match a, n with
  | .int _, _ => .error .noPositions
  | .text _, none => .error .positionNoNumber
  | .text t, some n =>
    match t[n]? with
    | some c => return .text [c]
    | none => .error .beyondEnd

/-- Follows the lookups of a field, each a point with a name or a position in brackets. -/
def follow (fuel : Nat) (a : Argument) (lookups : Text) : Except Problem Argument :=
  match fuel with
  | 0 => .ok a
  | fuel + 1 =>
    match lookups with
    | [] => .ok a
    | '.' :: rest =>
      let (name, rest) := splitLookups rest
      if name.isEmpty then .error .emptyLookup
      else do follow fuel (← attributeOf a name) rest
    | '[' :: rest =>
      match Text.spanAt ']' rest with
      | (_, []) => .error .unclosedPosition
      | (position, _ :: rest) => do follow fuel (← itemAt a position) rest
    | _ => .error .afterPosition

/-- An argument after a conversion to text. -/
def convert (letter : CodePoint) (a : Argument) : Except Problem Argument :=
  if letter = 's' then a.plain.map .text
  else if letter = 'r' ∨ letter = 'a' then
    match a with
    | .text t => .ok (.text (if letter = 'r' then Text.quoted t else Text.quotedAscii t))
    | .int _ => a.plain.map .text
  else .error (.unknownConversion letter)

/-- The text of one field, and the numbering after it, given how a form that holds fields is
    filled in. -/
def fillField (fillForm : Numbering → Text → Except Problem (Text × Numbering)) (args : Arguments)
    (numbering : Numbering) (f : Field) : Except Problem (Text × Numbering) := do
  let (first, lookups) := splitLookups f.name
  let (a, numbering) ← args.find numbering first
  let a ← follow (lookups.length + 1) a lookups
  let a ← match f.conversion with
    | some letter => convert letter a
    | none => .ok a
  let (form, numbering) ←
    if f.form.contains '{' then fillForm numbering f.form else .ok (f.form, numbering)
  return (← layout form a, numbering)

/-- The text of pieces in order, and the problem that ends the template early after them. -/
def fillPieces (fillForm : Numbering → Text → Except Problem (Text × Numbering))
    (args : Arguments) (numbering : Numbering) :
    List Piece → Option Problem → Except Problem (Text × Numbering)
  | [], some p => .error p
  | [], none => .ok ([], numbering)
  | .literal t :: rest, p => do
    let (more, numbering) ← fillPieces fillForm args numbering rest p
    return (t ++ more, numbering)
  | .field f :: rest, p => do
    let (t, numbering) ← fillField fillForm args numbering f
    let (more, numbering) ← fillPieces fillForm args numbering rest p
    return (t ++ more, numbering)

/-- A form inside of a form may hold no fields. -/
def noFields (_ : Numbering) (_ : Text) : Except Problem (Text × Numbering) :=
  .error .tooDeep

/-- The text of a form with its fields filled in. -/
def fillForm (args : Arguments) (numbering : Numbering) (form : Text) :
    Except Problem (Text × Numbering) :=
  let (cut, p) := pieces form
  fillPieces noFields args numbering cut p

/-- The text of a template with its fields filled in. -/
def fill (template : Text) (args : Arguments) : Except Problem Text :=
  let (cut, p) := pieces template
  (fillPieces (fillForm args) args .unset cut p).map Prod.fst

end Template

end CallSnippets
