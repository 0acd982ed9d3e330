import CallSnippets.Proofs.Steps
import CallSnippets.Template.Fill

/-!
# Templates with plain fields

A field is plain if it names an argument and asks for nothing else: no lookup into the argument, no
conversion, no form. A template whose fields are all plain is filled in by writing each argument where
its field stands, so what comes of it is known once its pieces are, and the only thing that can go
wrong is an argument that has no text.

Fields with numbers and fields with names can stand side by side, since a name does not touch the
numbering. Fields without either number the arguments in order, which is why the numbering is followed
here: it is never in order as long as every field says which argument it means.

## Main definitions

* `Field.plain`: The field that names an argument and asks for nothing else.
* `Numbering.IsLoose`: The fields so far were not numbered in order.
* `Arguments.Gives`: What a name stands for among arguments.
* `Part`: Text as it stands, or the name of an argument with what it stands for.
* `writeParts`: The text of parts.

## Theorems

* `fillField_plain`: A plain field is filled in by the text of its argument.
* `fillPieces_plain`: The pieces of parts are filled in by writing the parts.
* `fill_plain`: A template with plain fields is filled in by writing its parts.
* `gives_byName`, `gives_byNumber`: What stands for a name, and for a number.
* `gives_first`, `gives_second`: What the numbers stand for among arguments by position.
* `gives_named`, `gives_named_next`: What the names stand for among arguments by name.
-/

namespace CallSnippets

namespace Template

/-- The field that names an argument and asks for nothing else. -/
def Field.plain (name : Text) : Field :=
  ⟨name, none, []⟩

/-- The fields so far were not numbered in order. -/
def Numbering.IsLoose (numbering : Numbering) : Prop :=
  ∀ next, numbering ≠ .inOrder next

/-- A name without lookups stands for an argument, whatever fields came before it, as long as these
    were not numbered in order. -/
structure Arguments.Gives (args : Arguments) (name : Text) (a : Argument) : Prop where
  /-- There are no lookups in the name. -/
  whole : splitLookups name = (name, [])
  /-- The argument is found, and the fields are still not numbered in order. -/
  found : ∀ numbering : Numbering, numbering.IsLoose →
    ∃ next : Numbering, next.IsLoose ∧ args.find numbering name = .ok (a, next)

/-- A part of a template with plain fields: text as it stands, or the name of an argument together with
    what the name stands for. -/
inductive Part where
  /-- Text as it stands. -/
  | literal (t : Text)
  /-- An argument under its name. -/
  | value (name : Text) (a : Argument)

/-- The piece of a template that a part comes from. -/
def Part.piece : Part → Piece
  | literal t => .literal t
  | value name _ => .field (.plain name)

/-- The part is text, or its name stands for its argument. -/
def Part.IsGiven (args : Arguments) : Part → Prop
  | literal _ => True
  | value name a => args.Gives name a

/-- The text of parts, up to the first argument that has none. -/
def writeParts : List Part → Except Problem Text
  | [] => .ok []
  | .literal t :: rest => do
    let more ← writeParts rest
    return t ++ more
  | .value _ a :: rest => do
    let t ← a.plain
    let more ← writeParts rest
    return t ++ more

section

variable {args : Arguments} (ff : Numbering → Text → Except Problem (Text × Numbering))

theorem fillField_plain {numbering : Numbering} {name : Text} {a : Argument}
    (hn : numbering.IsLoose) (h : args.Gives name a) :
    ∃ next : Numbering, next.IsLoose ∧
      fillField ff args numbering (.plain name) = a.plain.map (·, next) := by
  rcases h.found numbering hn with ⟨next, hnext, hfind⟩
  refine ⟨next, hnext, ?_⟩
  simp only [fillField, Field.plain, h.whole, hfind, ok_bind, follow, List.contains_nil,
    Bool.false_eq_true, if_false, layout, List.isEmpty_nil, if_true]
  cases a.plain <;> rfl

theorem fillPieces_plain {parts : List Part} (h : ∀ p ∈ parts, p.IsGiven args) :
    ∀ numbering : Numbering, numbering.IsLoose →
      (fillPieces ff args numbering (parts.map Part.piece) none).map Prod.fst = writeParts parts := by
  induction parts with
  | nil => intro numbering _; rfl
  | cons p rest ih =>
      intro numbering hn
      have hrest := ih fun q hq => h q (List.mem_cons_of_mem p hq)
      have hp := h p (List.mem_cons_self ..)
      cases p with
      | literal t =>
          simp only [List.map_cons, Part.piece, fillPieces, writeParts, ← hrest numbering hn]
          cases fillPieces ff args numbering (rest.map Part.piece) none <;> rfl
      | value name a =>
          -- A field with a name or a number leaves the numbering loose for the next one.
          rcases fillField_plain ff hn hp with ⟨next, hnext, hfill⟩
          simp only [List.map_cons, Part.piece, fillPieces, writeParts, hfill, ← hrest next hnext]
          cases a.plain with
          | error problem => rfl
          | ok t =>
              simp only [map_ok, ok_bind]
              cases fillPieces ff args next (rest.map Part.piece) none <;> rfl

end

/-- A template with plain fields is filled in by writing its parts. -/
theorem fill_plain {template : Text} {args : Arguments} (parts : List Part)
    (hcut : pieces template = (parts.map Part.piece, none)) (h : ∀ p ∈ parts, p.IsGiven args) :
    fill template args = writeParts parts := by
  simp only [fill, hcut]
  exact fillPieces_plain _ h .unset fun next => by simp only [ne_eq, reduceCtorEq, not_false_eq_true]

/-- A name that is no number stands for the argument that is given under it. -/
theorem gives_byName {args : Arguments} {name : Text} {a : Argument}
    (hwhole : splitLookups name = (name, [])) (hnumber : number? name = .ok none)
    (hname : name.isEmpty = false) (ha : args.named.lookup name = some a) : args.Gives name a where
  whole := hwhole
  found numbering hn := by
    refine ⟨numbering, hn, ?_⟩
    simp only [Arguments.find, hnumber, ok_bind, hname, ha]
    rfl

/-- A number stands for the argument at its position. -/
theorem gives_byNumber {args : Arguments} {name : Text} {n : Nat} {a : Argument}
    (hwhole : splitLookups name = (name, [])) (hnumber : number? name = .ok (some n))
    (ha : args.positional[n]? = some a) : args.Gives name a where
  whole := hwhole
  found numbering hn := by
    refine ⟨.written, fun next => by simp only [ne_eq, reduceCtorEq, not_false_eq_true], ?_⟩
    have hat : args.at n = .ok a := by
      simp only [Arguments.at, ha]
    -- A number is taken unless fields were numbered in order before.
    cases numbering with
    | inOrder next => exact absurd rfl (hn next)
    | unset => simp only [Arguments.find, hnumber, ok_bind, hat]; rfl
    | written => simp only [Arguments.find, hnumber, ok_bind, hat]; rfl

theorem gives_first (a : Argument) (rest : List Argument) :
    (⟨a :: rest, []⟩ : Arguments).Gives "0" a :=
  gives_byNumber (n := 0) (by decide) rfl rfl

theorem gives_second (a b : Argument) (rest : List Argument) :
    (⟨a :: b :: rest, []⟩ : Arguments).Gives "1" b :=
  gives_byNumber (n := 1) (by decide) rfl rfl

theorem gives_named (name : Text) (a : Argument) (rest : List (Text × Argument))
    (hwhole : splitLookups name = (name, [])) (hnumber : number? name = .ok none)
    (hname : name.isEmpty = false) : (⟨[], (name, a) :: rest⟩ : Arguments).Gives name a :=
  gives_byName hwhole hnumber hname List.lookup_cons_self

theorem gives_named_next (name other : Text) (a b : Argument) (rest : List (Text × Argument))
    (hwhole : splitLookups name = (name, [])) (hnumber : number? name = .ok none)
    (hname : name.isEmpty = false) (hne : (name == other) = false) :
    (⟨[], (other, a) :: (name, b) :: rest⟩ : Arguments).Gives name b :=
  gives_byName hwhole hnumber hname (by
    rw [List.lookup_cons, hne]
    exact List.lookup_cons_self)

end Template

end CallSnippets
