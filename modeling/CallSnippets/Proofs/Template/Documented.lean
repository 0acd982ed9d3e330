import CallSnippets.Proofs.Template.Plain
import Mathlib.Tactic.Choose

/-!
# Templates that keep to their arguments

Each place for a template says which arguments a template in it may name. A template keeps to this if
it is well formed and all its fields are plain and name one of these arguments. Nothing can go wrong in
filling it in then but one thing: an argument that has no text, in a template that has a field for it.
Texts always have a text, so a template for texts is always filled in.

The fields may be in any number and order, and a name may be used twice or not at all.

## Main definitions

* `IsDocumented`: The template is well formed, and its fields name given arguments.
* `Uses`: The template has a field for an argument.
* `Piece.part`: What a piece is filled in by.

## Theorems

* `isSome_errorOf?_fill`: Filling in fails exactly if an argument that is used has no text.
* `errorOf?_fill_texts`: Filling in texts never fails.
-/

namespace CallSnippets

namespace Template

/-- The template is well formed, and each of its fields names one of the given arguments and asks for
    nothing else. -/
structure IsDocumented (names : List Text) (template : Text) : Prop where
  /-- The template is cut into pieces to its end. -/
  wellFormed : (pieces template).2 = none
  /-- The fields are plain. -/
  plain : ∀ f, .field f ∈ (pieces template).1 → ∃ name ∈ names, f = .plain name

/-- The template has a field for an argument. -/
def Uses (template name : Text) : Prop :=
  .field (.plain name) ∈ (pieces template).1

instance (template name : Text) : Decidable (Uses template name) :=
  inferInstanceAs (Decidable (_ ∈ _))

theorem isDocumented_of_pieces {names : List Text} {template : Text} {cut : List Piece}
    (hcut : pieces template = (cut, none))
    (hplain : ∀ f, .field f ∈ cut → ∃ name ∈ names, f = .plain name) :
    IsDocumented names template := by
  refine ⟨by rw [hcut], fun f hf => hplain f ?_⟩
  rwa [hcut] at hf

/-- What a piece is filled in by, given what names stand for. -/
def Piece.part (value : Text → Argument) : Piece → Part
  | literal t => .literal t
  | field f => .value f.name (value f.name)

section

variable {names : List Text} {template : Text} {args : Arguments} {value : Text → Argument}

/-- Parts have no text exactly if one of their arguments has none. -/
theorem isSome_errorOf?_writeParts (parts : List Part) :
    (errorOf? (writeParts parts)).isSome = true ↔
      ∃ name a, .value name a ∈ parts ∧ (errorOf? a.plain).isSome = true := by
  induction parts with
  | nil => simp only [writeParts, errorOf?_ok, Option.isSome_none, Bool.false_eq_true,
      List.not_mem_nil, false_and, exists_false]
  | cons p rest ih =>
      cases p with
      | literal t =>
          have hrest : errorOf? (writeParts (.literal t :: rest)) = errorOf? (writeParts rest) := by
            rw [writeParts]
            cases writeParts rest <;> rfl
          rw [hrest, ih]
          simp only [List.mem_cons, reduceCtorEq, false_or]
      | value name a =>
          -- The argument is written first, and the rest only if it has a text.
          have hrest : errorOf? (writeParts (.value name a :: rest)) =
              (errorOf? a.plain).or (errorOf? (writeParts rest)) := by
            rw [writeParts]
            refine errorOf?_bind fun t _ => ?_
            cases writeParts rest <;> rfl
          rw [hrest, Option.isSome_or, Bool.or_eq_true, ih]
          constructor
          · rintro (ha | ⟨other, b, hmem, hb⟩)
            · exact ⟨name, a, List.mem_cons_self .., ha⟩
            · exact ⟨other, b, List.mem_cons_of_mem _ hmem, hb⟩
          · rintro ⟨other, b, hmem, hb⟩
            rcases List.mem_cons.mp hmem with heq | hmem
            · rw [Part.value.injEq] at heq
              exact .inl (heq.2 ▸ hb)
            · exact .inr ⟨other, b, hmem, hb⟩

/-- A template that keeps to its arguments is filled in by writing its parts. -/
theorem fill_documented (h : IsDocumented names template)
    (hgives : ∀ name ∈ names, args.Gives name (value name)) :
    fill template args = writeParts ((pieces template).1.map (Piece.part value)) := by
  refine fill_plain _ ?_ ?_
  · -- A plain field is all that comes back of a part, so the pieces are those of the parts.
    have hsame : ∀ p ∈ (pieces template).1, (Part.piece ∘ Piece.part value) p = id p := by
      intro p hp
      cases p with
      | literal t => rfl
      | field f =>
          rcases h.plain f hp with ⟨name, _, rfl⟩
          rfl
    rw [List.map_map, List.map_congr_left hsame, List.map_id, ← h.wellFormed]
  · intro p hp
    rcases List.mem_map.mp hp with ⟨piece, hpiece, rfl⟩
    cases piece with
    | literal t => exact trivial
    | field f =>
        rcases h.plain f hpiece with ⟨name, hname, rfl⟩
        exact hgives name hname

/-- Filling in a template that keeps to its arguments fails exactly if one that is used has no text. -/
theorem isSome_errorOf?_fill (h : IsDocumented names template)
    (hgives : ∀ name ∈ names, args.Gives name (value name)) :
    (errorOf? (fill template args)).isSome = true ↔
      ∃ name ∈ names, Uses template name ∧ (errorOf? (value name).plain).isSome = true := by
  rw [fill_documented h hgives, isSome_errorOf?_writeParts]
  constructor
  · rintro ⟨name, a, hmem, ha⟩
    rcases List.mem_map.mp hmem with ⟨piece, hpiece, heq⟩
    cases piece with
    | literal t => simp only [Piece.part, reduceCtorEq] at heq
    | field f =>
        simp only [Piece.part, Part.value.injEq] at heq
        rcases h.plain f hpiece with ⟨other, hother, rfl⟩
        exact ⟨other, hother, hpiece, by rwa [← heq.2] at ha⟩
  · rintro ⟨name, _, huses, ha⟩
    exact ⟨name, value name, List.mem_map.mpr ⟨_, huses, rfl⟩, ha⟩

/-- A template that keeps to its arguments is filled in if these are texts. -/
theorem errorOf?_fill_texts (h : IsDocumented names template)
    (hgives : ∀ name ∈ names, ∃ t, args.Gives name (.text t)) :
    errorOf? (fill template args) = none := by
  choose! text htext using hgives
  rw [← Option.not_isSome_iff_eq_none, isSome_errorOf?_fill h htext]
  rintro ⟨name, _, _, hfail⟩
  simp only [Argument.plain, errorOf?_ok, Option.isSome_none, Bool.false_eq_true] at hfail

end

end Template

end CallSnippets
