import CallSnippets.Template.Problem

/-!
# Pieces of a template

A template is a text with fields between braces; a brace that is text is written twice. The text is
cut into pieces from left to right. Where it is not well formed the cut ends, and the problem counts
only after everything before it has been filled in.

## Main definitions

* `Template.Field`: The name of an argument, a conversion and a form.
* `Template.Piece`: Text as it stands, or a field.
* `Template.pieces`: The pieces of a template, and the problem that ends it early, if any.
-/

namespace CallSnippets

namespace Template

/-- A field of a template. -/
structure Field where
  /-- The name or number of an argument, with lookups into it. -/
  name : Text
  /-- The letter of the conversion, if there is one. -/
  conversion : Option CodePoint
  /-- The form of the argument, which may hold fields again. -/
  form : Text
  deriving DecidableEq, Repr

/-- A piece of a template. -/
inductive Piece where
  /-- Text as it stands. -/
  | literal (t : Text)
  /-- A field. -/
  | field (f : Field)
  deriving DecidableEq, Repr

/-- Copies a position up to its closing bracket, in which no character has a meaning of its own. -/
def takePosition : Text → Text × Text
  | [] => ([], [])
  | ']' :: rest => ([], ']' :: rest)
  | c :: rest =>
    let (t, rest) := takePosition rest
    (c :: t, rest)

/-- Splits off the name of a field and the character that ends it. -/
def splitName (fuel : Nat) : Text → Except Problem (Text × CodePoint × Text)
  | [] => .error .unclosedField
  | c :: rest =>
    if c = '{' then .error .openInName
    else if c = '}' ∨ c = ':' ∨ c = '!' then .ok ([], c, rest)
    else
      match fuel with
      | 0 => .error .unclosedField
      | fuel + 1 =>
        let (position, rest) := if c = '[' then takePosition rest else ([], rest)
        match splitName fuel rest with
        | .error p => .error p
        | .ok (name, last, rest) => .ok (c :: position ++ name, last, rest)

/-- Splits off a form up to the brace that closes the field, with a count of the open braces. -/
def splitForm (opened : Nat) : Text → Except Problem (Text × Text)
  | [] => .error .unclosedForm
  | '{' :: rest => (splitForm (opened + 1) rest).map fun (f, r) => ('{' :: f, r)
  | '}' :: rest =>
    match opened with
    | 0 => .ok ([], rest)
    | opened + 1 => (splitForm opened rest).map fun (f, r) => ('}' :: f, r)
  | c :: rest => (splitForm opened rest).map fun (f, r) => (c :: f, r)

/-- Reads a field from behind its opening brace. -/
def readField (t : Text) : Except Problem (Field × Text) := do
  let (name, last, rest) ← splitName t.length t
  if last = '}' then return (⟨name, none, []⟩, rest)
  else if last = ':' then
    let (form, rest) ← splitForm 0 rest
    return (⟨name, none, form⟩, rest)
  else
    match rest with
    | [] => .error .noConversion
    | [_] => .error .unclosedForm
    | letter :: '}' :: rest => return (⟨name, some letter, []⟩, rest)
    | letter :: ':' :: rest =>
      let (form, rest) ← splitForm 0 rest
      return (⟨name, some letter, form⟩, rest)
    | _ => .error .afterConversion

/-- Puts a character before the pieces, into the literal they start with if they start with one. -/
def consChar (c : CodePoint) : List Piece × Option Problem → List Piece × Option Problem
  | (.literal t :: rest, p) => (.literal (c :: t) :: rest, p)
  | (rest, p) => (.literal [c] :: rest, p)

/-- The pieces of a text that is cut in no more steps than the fuel. -/
def piecesWithin (fuel : Nat) (t : Text) : List Piece × Option Problem :=
  match fuel with
  | 0 => ([], none)
  | fuel + 1 =>
    match t with
    | [] => ([], none)
    | '}' :: '}' :: rest => consChar '}' (piecesWithin fuel rest)
    | '}' :: _ => ([], some .strayClose)
    | ['{'] => ([], some .strayOpen)
    | '{' :: '{' :: rest => consChar '{' (piecesWithin fuel rest)
    | '{' :: rest =>
      match readField rest with
      | .error p => ([], some p)
      | .ok (f, rest) =>
        let (more, p) := piecesWithin fuel rest
        (.field f :: more, p)
    | c :: rest => consChar c (piecesWithin fuel rest)

/-- The pieces of a template, and the problem that ends it early, if any. Each step passes a
    character, so the length bounds the steps. -/
def pieces (t : Text) : List Piece × Option Problem :=
  piecesWithin (t.length + 1) t

end Template

end CallSnippets
