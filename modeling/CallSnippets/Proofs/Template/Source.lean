import CallSnippets.Proofs.Template.Plain
import Mathlib.Tactic.SplitIfs

/-!
# Templates as they are written

How a template is written for given pieces: braces of a literal twice, and the name of a field between
braces. Cutting the text gives the pieces back, so the pieces of a template are known without following
the cut through its characters.

Two literals in a row could not be told from one, and a literal without characters could not be seen at
all. A name with a character that has a meaning in fields would not be cut as a name. Pieces are written
if none of this is the case, which can be checked for pieces that are given.

The cut takes a step for a doubled brace as for any other character. A literal takes as many steps as it
has characters then, and what is left of the fuel is still enough for the rest.

## Main definitions

* `isNameChar`: The characters without a meaning in fields.
* `doubled`: A literal as it is written.
* `Piece.source`, `source`: Pieces as they are written.
* `isWritten`: Pieces that can be told apart.

## Theorems

* `splitName_name`: The name of a field ends at its brace.
* `piecesWithin_doubled`: A literal is cut into its characters.
* `pieces_source`: The pieces of a template that is written from pieces.
-/

namespace CallSnippets

namespace Template

/-- The brace that a field starts with. -/
abbrev opening : CodePoint := '\x7b'

/-- The brace that a field ends with. -/
abbrev closing : CodePoint := '\x7d'

/-- The character has no meaning of its own in a field. -/
def isNameChar (c : CodePoint) : Bool :=
  c ≠ opening && c ≠ closing && c ≠ ':' && c ≠ '!' && c ≠ '['

/-- A literal as it is written: braces twice. -/
def doubled (t : Text) : Text :=
  t.flatMap fun c => if c = opening ∨ c = closing then [c, c] else [c]

/-- A piece as it is written. -/
def Piece.source : Piece → Text
  | literal t => doubled t
  | field f => opening :: f.name ++ [closing]

/-- Pieces as they are written. -/
def source (ps : List Piece) : Text :=
  ps.flatMap Piece.source

/-- The piece is a literal. -/
def Piece.isLiteral : Piece → Bool
  | literal _ => true
  | field _ => false

/-- The piece can be seen where it is written. -/
def Piece.isVisible : Piece → Bool
  | literal t => !t.isEmpty
  | field f => f.name.all isNameChar && f.conversion.isNone && f.form.isEmpty

/-- The pieces can be told apart where they are written. -/
def isWritten : List Piece → Bool
  | [] => true
  | p :: rest => p.isVisible && !(p.isLiteral && rest.head?.any Piece.isLiteral) && isWritten rest

/-! ## Fields -/

/-- The name of a field ends at its brace. -/
theorem splitName_name {name : Text} (h : ∀ c ∈ name, isNameChar c = true) (rest : Text) :
    ∀ fuel, name.length ≤ fuel →
      splitName fuel (name ++ closing :: rest) = .ok (name, closing, rest) := by
  induction name with
  | nil =>
      intro fuel _
      cases fuel <;> rfl
  | cons c more ih =>
      intro fuel hfuel
      have hc := h c (List.mem_cons_self ..)
      simp only [isNameChar, Bool.and_eq_true, decide_eq_true_eq] at hc
      rcases hc with ⟨⟨⟨⟨hopen, hclose⟩, hcolon⟩, hmark⟩, hposition⟩
      cases fuel with
      | zero => exact absurd hfuel (by simp)
      | succ fuel =>
          have hmore := ih (fun d hd => h d (List.mem_cons_of_mem c hd)) fuel (by
            simpa using hfuel)
          rw [List.cons_append, splitName.eq_def]
          simp only [hopen, hclose, hcolon, hmark, hposition, or_self, if_false, hmore,
            List.nil_append, List.cons_append]

theorem readField_name {name : Text} (h : ∀ c ∈ name, isNameChar c = true) (rest : Text) :
    readField (name ++ closing :: rest) = .ok (.plain name, rest) := by
  have hname := splitName_name h rest (name ++ closing :: rest).length (by
    rw [List.length_append]
    omega)
  rw [readField, hname, ok_bind]
  rfl

/-- A field is cut as a whole. -/
theorem piecesWithin_field {name : Text} (h : ∀ c ∈ name, isNameChar c = true) (fuel : Nat)
    (rest : Text) :
    piecesWithin (fuel + 1) (opening :: name ++ closing :: rest) =
      (.field (.plain name) :: (piecesWithin fuel rest).1, (piecesWithin fuel rest).2) := by
  have hopen : ∀ t, name ++ closing :: rest = opening :: t → False := by
    cases name with
    | nil =>
        intro t ht
        exact absurd (List.cons.inj ht).1 (by decide)
    | cons c more =>
        intro t ht
        have hc := h c (List.mem_cons_self ..)
        rw [(List.cons.inj ht).1] at hc
        exact absurd hc (by decide)
  have hsome : name ++ closing :: rest = [] → False := List.append_ne_nil_of_right_ne_nil _ (by simp)
  rw [List.cons_append, piecesWithin.eq_7 fuel _ hsome hopen, readField_name h]

/-! ## Literals -/

theorem piecesWithin_cons {c : CodePoint} (hopen : c ≠ opening) (hclose : c ≠ closing) (fuel : Nat)
    (t : Text) : piecesWithin (fuel + 1) (c :: t) = consChar c (piecesWithin fuel t) :=
  piecesWithin.eq_8 fuel c t (fun _ hc _ => hclose hc) hclose (fun hc _ => hopen hc)
    (fun _ hc _ => hopen hc) hopen

/-- A literal is cut into its characters, each of which takes one step. -/
theorem piecesWithin_doubled (t rest : Text) (fuel : Nat) :
    piecesWithin (fuel + t.length) (doubled t ++ rest) =
      t.foldr consChar (piecesWithin fuel rest) := by
  induction t with
  | nil => rfl
  | cons c more ih =>
      have hstep : piecesWithin (fuel + more.length + 1) (doubled (c :: more) ++ rest) =
          consChar c (piecesWithin (fuel + more.length) (doubled more ++ rest)) := by
        rw [doubled, List.flatMap_cons, List.append_assoc]
        by_cases hopen : c = opening
        · rw [hopen]
          exact piecesWithin.eq_6 _ _
        · by_cases hclose : c = closing
          · rw [hclose]
            exact piecesWithin.eq_3 _ _
          · rw [if_neg (not_or.mpr ⟨hopen, hclose⟩)]
            exact piecesWithin_cons hopen hclose _ _
      rw [List.length_cons, ← Nat.add_assoc, hstep, ih]
      rfl

/-- The characters of a literal come together again, unless another literal follows. -/
theorem foldr_consChar {t : Text} (ht : t ≠ []) {ps : List Piece}
    (hps : ps.head?.any Piece.isLiteral = false) (p : Option Problem) :
    t.foldr consChar (ps, p) = (.literal t :: ps, p) := by
  induction t with
  | nil => exact absurd rfl ht
  | cons c more ih =>
      rw [List.foldr_cons]
      by_cases hmore : more = []
      · rw [hmore, List.foldr_nil]
        cases ps with
        | nil => rfl
        | cons q rest =>
            cases q with
            | literal u => cases hps
            | field f => rfl
      · rw [ih hmore]
        rfl

theorem length_le_doubled (t : Text) : t.length ≤ (doubled t).length := by
  induction t with
  | nil => exact Nat.le_refl 0
  | cons c more ih =>
      rw [doubled] at ih ⊢
      rw [List.flatMap_cons, List.length_append, List.length_cons]
      split_ifs
      · simp only [List.length_cons, List.length_nil]
        omega
      · simp only [List.length_cons, List.length_nil]
        omega

/-! ## Templates -/

theorem piecesWithin_source {ps : List Piece} (h : isWritten ps = true) :
    ∀ fuel, (source ps).length < fuel → piecesWithin fuel (source ps) = (ps, none) := by
  induction ps with
  | nil =>
      intro fuel hfuel
      cases fuel with
      | zero => exact absurd hfuel (Nat.not_lt_zero _)
      | succ fuel => rfl
  | cons p rest ih =>
      intro fuel hfuel
      simp only [isWritten, Bool.and_eq_true, Bool.not_eq_true'] at h
      rcases h with ⟨⟨hvisible, hseparate⟩, hrest⟩
      rw [source, List.flatMap_cons, ← source] at hfuel ⊢
      rw [List.length_append] at hfuel
      cases p with
      | literal t =>
          have hnonempty : t ≠ [] := by
            rintro rfl
            cases hvisible
          have hlength := length_le_doubled t
          rw [Piece.source] at hfuel ⊢
          -- The steps of the literal leave enough fuel, since its text is no shorter than it.
          obtain ⟨left, rfl⟩ : ∃ left, fuel = left + t.length :=
            ⟨fuel - t.length, by omega⟩
          rw [piecesWithin_doubled, ih hrest left (by omega), foldr_consChar hnonempty (by
            rwa [Piece.isLiteral, Bool.true_and] at hseparate)]
      | field f =>
          cases f with
          | mk name conversion form =>
              simp only [Piece.isVisible, Bool.and_eq_true, List.all_eq_true, Option.isNone_iff_eq_none,
                List.isEmpty_iff] at hvisible
              rcases hvisible with ⟨⟨hname, rfl⟩, rfl⟩
              rw [Piece.source, List.append_assoc, List.singleton_append]
              simp only [Piece.source, List.length_append, List.length_cons] at hfuel
              obtain ⟨left, rfl⟩ : ∃ left, fuel = left + 1 := ⟨fuel - 1, by omega⟩
              rw [piecesWithin_field hname, ih hrest left (by omega)]
              rfl

/-- A template that is written from pieces is cut into these pieces. -/
theorem pieces_source {t : Text} {ps : List Piece} (ht : t = source ps) (h : isWritten ps = true) :
    pieces t = (ps, none) := by
  rw [pieces, ht]
  exact piecesWithin_source h _ (Nat.lt_succ_self _)

end Template

end CallSnippets
