import CallSnippets.Files.Path
import CallSnippets.Proofs.Text.Encoding

/-!
# Paths and their texts

The names of a path are neither empty nor a single dot, and no stroke is in them. A path that is read
from a text has such names, and so has every path that is made from one by moving up or down. For them
the text says all: it starts as the path does, and its pieces between strokes are the names, but for
pieces that lead nowhere.

## Main definitions

* `IsName`, `Path.IsProper`: A name, and a path made of names.

## Theorems

* `splitOn_join`, `join_splitOn`: Texts that are joined, and the pieces of a text.
* `isProper_ofText`, `isProper_join`, `isProper_parent`: Where paths made of names come from.
* `startOf_text`, `pieces_text`, `isWhole_text`: What the text of a path says.
* `mem_text_ofText`: What is kept of a text that a path is read from.
-/

namespace CallSnippets

/-! ## Pieces -/

section

variable {c : CodePoint} {a t piece : Text} {pieces : List Text}

theorem splitOn_cons_ne {d : CodePoint} (h : d ≠ c) (hsplit : Text.splitOn c t = piece :: pieces) :
    Text.splitOn c (d :: t) = (d :: piece) :: pieces := by
  rw [Text.splitOn, if_neg h, hsplit]

theorem splitOn_separator : Text.splitOn c (c :: t) = [] :: Text.splitOn c t := by
  rw [Text.splitOn, if_pos rfl]

/-- A text that the separator is not in is a piece. -/
theorem splitOn_append (h : c ∉ a) : Text.splitOn c (a ++ c :: t) = a :: Text.splitOn c t := by
  induction a with
  | nil => exact splitOn_separator
  | cons d rest ih =>
      have hd : d ≠ c := Ne.symm (List.ne_of_not_mem_cons h)
      exact splitOn_cons_ne hd (ih (List.not_mem_of_not_mem_cons h))

theorem splitOn_self (h : c ∉ a) : Text.splitOn c a = [a] := by
  induction a with
  | nil => rfl
  | cons d rest ih =>
      have hd : d ≠ c := Ne.symm (List.ne_of_not_mem_cons h)
      exact splitOn_cons_ne hd (ih (List.not_mem_of_not_mem_cons h))

/-- The separator is in none of the pieces. -/
theorem not_mem_of_mem_splitOn (h : piece ∈ Text.splitOn c t) : c ∉ piece := by
  induction t generalizing piece with
  | nil =>
      rw [List.mem_singleton.mp h]
      exact List.not_mem_nil
  | cons d rest ih =>
      rw [Text.splitOn] at h
      by_cases hd : d = c
      · rw [if_pos hd] at h
        rcases List.mem_cons.mp h with rfl | hrest
        · exact List.not_mem_nil
        · exact ih hrest
      · rw [if_neg hd] at h
        cases hsplit : Text.splitOn c rest with
        | nil =>
            rw [hsplit] at h
            rw [List.mem_singleton.mp h, List.mem_singleton]
            exact Ne.symm hd
        | cons first others =>
            rw [hsplit] at h ih
            rcases List.mem_cons.mp h with rfl | hothers
            · exact List.not_mem_cons_of_ne_of_not_mem (Ne.symm hd) (ih (List.mem_cons_self ..))
            · exact ih (List.mem_cons_of_mem first hothers)

/-- The pieces of texts that are joined are these texts. -/
theorem splitOn_join (h : ∀ piece ∈ pieces, c ∉ piece) (hne : pieces ≠ []) :
    Text.splitOn c (Text.join [c] pieces) = pieces := by
  induction pieces with
  | nil => exact absurd rfl hne
  | cons first rest ih =>
      rcases List.forall_mem_cons.mp h with ⟨hfirst, hrest⟩
      cases rest with
      | nil => exact splitOn_self hfirst
      | cons second others =>
          have htail := ih hrest (List.cons_ne_nil second others)
          rw [join_cons_cons, List.append_assoc, List.singleton_append, splitOn_append hfirst, htail]

theorem splitOn_ne_nil (c : CodePoint) (t : Text) : Text.splitOn c t ≠ [] := by
  cases t with
  | nil => exact List.cons_ne_nil _ _
  | cons d rest =>
      rw [Text.splitOn]
      split
      · exact List.cons_ne_nil _ _
      · split <;> exact List.cons_ne_nil _ _

/-- The pieces of a text say what the text is. -/
theorem join_splitOn (c : CodePoint) (t : Text) : Text.join [c] (Text.splitOn c t) = t := by
  induction t with
  | nil => rfl
  | cons d rest ih =>
      cases hsplit : Text.splitOn c rest with
      | nil => exact absurd hsplit (splitOn_ne_nil c rest)
      | cons piece pieces =>
          rw [hsplit] at ih
          by_cases hd : d = c
          · rw [hd, splitOn_separator, hsplit, Text.join, ih]
            · rfl
            · exact List.cons_ne_nil _ _
          · rw [splitOn_cons_ne hd hsplit, ← ih]
            cases pieces <;> rfl

/-- What is in joined texts is in one of them, but for the separator. -/
theorem mem_join {d : CodePoint} (h : d ≠ c) :
    d ∈ Text.join [c] pieces ↔ ∃ piece ∈ pieces, d ∈ piece := by
  induction pieces with
  | nil => exact ⟨fun hd => absurd hd List.not_mem_nil, fun ⟨_, hmem, _⟩ => absurd hmem List.not_mem_nil⟩
  | cons first rest ih =>
      simp only [List.mem_cons, exists_eq_or_imp, ← ih]
      cases rest with
      | nil => exact (or_iff_left List.not_mem_nil).symm
      | cons second others =>
          rw [join_cons_cons, List.mem_append, List.mem_append, List.mem_singleton, or_assoc, or_iff_right h]

/-- What is in a text is in one of its pieces, but for the separator. -/
theorem mem_splitOn {d : CodePoint} (h : d ≠ c) : d ∈ t ↔ ∃ piece ∈ Text.splitOn c t, d ∈ piece := by
  rw [← mem_join h, join_splitOn]

end

/-! ## Names -/

/-- A text is a name: it leads somewhere, and no stroke is in it. -/
def IsName (name : Text) : Prop :=
  Path.leads name = true ∧ CodePoint.char '/' ∉ name

namespace Path

/-- A path is made of names. -/
def IsProper (p : Path) : Prop :=
  ∀ name ∈ p.names, IsName name

theorem isProper_ofText (t : Text) : (ofText t).IsProper := by
  intro name hname
  rcases List.mem_filter.mp hname with ⟨hpiece, hleads⟩
  exact ⟨hleads, not_mem_of_mem_splitOn hpiece⟩

theorem isProper_join {p : Path} (h : p.IsProper) (t : Text) : (p.join t).IsProper := by
  rw [join]
  split
  · intro name hname
    rcases List.mem_append.mp hname with hp | ht
    · exact h name hp
    · exact isProper_ofText t name ht
  · exact isProper_ofText t

theorem isProper_parent {p : Path} (h : p.IsProper) : p.parent.IsProper :=
  fun name hname => h name (List.dropLast_subset p.names hname)

theorem exists_cons_of_isName {name : Text} (h : IsName name) :
    ∃ c rest, name = c :: rest ∧ c ≠ CodePoint.char '/' := by
  rcases h with ⟨hleads, hstroke⟩
  cases name with
  | nil => exact absurd hleads (by decide)
  | cons c rest => exact ⟨c, rest, rfl, Ne.symm (List.ne_of_not_mem_cons hstroke)⟩

/-- Names that are joined start with no stroke. -/
theorem join_names {names : List Text} (h : ∀ name ∈ names, IsName name) :
    Text.join ['/'] names = [] ∨
      ∃ c rest, Text.join ['/'] names = c :: rest ∧ c ≠ CodePoint.char '/' := by
  cases names with
  | nil => exact .inl rfl
  | cons name others =>
      rcases exists_cons_of_isName (h name (List.mem_cons_self ..)) with ⟨c, rest, rfl, hc⟩
      cases others with
      | nil => exact .inr ⟨c, rest, rfl, hc⟩
      | cons _ _ => exact .inr ⟨c, _, rfl, hc⟩

theorem text_here (name : Text) (others : List Text) :
    text ⟨.here, name :: others⟩ = Text.join ['/'] (name :: others) := rfl

theorem text_root (names : List Text) :
    text ⟨.root, names⟩ = CodePoint.char '/' :: Text.join ['/'] names := rfl

theorem text_doubleRoot (names : List Text) :
    text ⟨.doubleRoot, names⟩ =
      CodePoint.char '/' :: CodePoint.char '/' :: Text.join ['/'] names := rfl

/-- The text of a path starts as the path does. -/
theorem startOf_text {p : Path} (h : p.IsProper) : startOf p.text = p.start := by
  rcases p with ⟨start, names⟩
  have hjoin : Text.join ['/'] names = [] ∨
      ∃ c rest, Text.join ['/'] names = c :: rest ∧ c ≠ CodePoint.char '/' := join_names h
  cases start with
  | here =>
      cases names with
      | nil => rfl
      | cons name others =>
          rw [text_here]
          rcases hjoin with hnone | ⟨c, rest, hcons, hc⟩
          · rw [hnone]
            rfl
          · rw [hcons]
            simp [startOf, hc]
  | root =>
      rw [text_root]
      rcases hjoin with hnone | ⟨c, rest, hcons, hc⟩
      · rw [hnone]
        rfl
      · rw [hcons]
        simp [startOf, hc]
  | doubleRoot =>
      rw [text_doubleRoot]
      rcases hjoin with hnone | ⟨c, rest, hcons, hc⟩
      · rw [hnone]
        rfl
      · rw [hcons]
        simp [startOf, hc]

/-- Joined names in pieces, or one piece that leads nowhere where there are none. -/
theorem pieces_join {names : List Text} (h : ∀ name ∈ names, IsName name) :
    ∃ gaps, (∀ gap ∈ gaps, leads gap = false) ∧
      Text.splitOn '/' (Text.join ['/'] names) = gaps ++ names := by
  cases names with
  | nil => exact ⟨[[]], by decide, rfl⟩
  | cons name others =>
      refine ⟨[], fun gap hgap => absurd hgap List.not_mem_nil, ?_⟩
      exact splitOn_join (fun piece hpiece => (h piece hpiece).2) (List.cons_ne_nil name others)

/-- The pieces of the text of a path are its names, behind pieces that lead nowhere. -/
theorem pieces_text {p : Path} (h : p.IsProper) :
    ∃ gaps, (∀ gap ∈ gaps, leads gap = false) ∧ Text.splitOn '/' p.text = gaps ++ p.names := by
  rcases p with ⟨start, names⟩
  rcases pieces_join h with ⟨gaps, hgaps, hsplit⟩
  have hempty : leads [] = false := by decide
  cases start with
  | here =>
      cases names with
      | nil => exact ⟨[['.']], by decide, rfl⟩
      | cons name others => exact ⟨gaps, hgaps, hsplit⟩
  | root =>
      refine ⟨[] :: gaps, List.forall_mem_cons.mpr ⟨hempty, hgaps⟩, ?_⟩
      rw [text_root, splitOn_separator, hsplit, List.cons_append]
  | doubleRoot =>
      refine ⟨[] :: [] :: gaps,
        List.forall_mem_cons.mpr ⟨hempty, List.forall_mem_cons.mpr ⟨hempty, hgaps⟩⟩, ?_⟩
      rw [text_doubleRoot, splitOn_separator, splitOn_separator, hsplit, List.cons_append,
        List.cons_append]

/-- A path is read from a text without loss, but for strokes and dots. -/
theorem mem_text_ofText {c : CodePoint} {t : Text} (h : c ∈ t) (hstroke : c ≠ CodePoint.char '/')
    (hdot : c ≠ CodePoint.char '.') : c ∈ (ofText t).text := by
  rcases (mem_splitOn hstroke).mp h with ⟨piece, hpiece, hc⟩
  have hleads : leads piece = true := by
    rw [leads, Bool.and_eq_true]
    refine ⟨?_, decide_eq_true fun hsingle => ?_⟩
    · cases piece with
      | nil => exact absurd hc List.not_mem_nil
      | cons _ _ => rfl
    · rw [hsingle] at hc
      exact hdot (List.mem_singleton.mp hc)
  rcases pieces_text (isProper_ofText t) with ⟨gaps, _, hpieces⟩
  refine (mem_splitOn hstroke).mpr ⟨piece, ?_, hc⟩
  rw [hpieces]
  exact List.mem_append_right gaps (List.mem_filter.mpr ⟨hpiece, hleads⟩)

/-- The text of a path is whole exactly if its names are. -/
theorem isWhole_text (p : Path) : IsWhole p.text ↔ ∀ name ∈ p.names, IsWhole name := by
  have hstroke : IsWhole ['/'] := by decide
  have hstrokes : IsWhole ['/', '/'] := by decide
  rcases p with ⟨start, names⟩
  have hjoin : IsWhole (Text.join ['/'] names) ↔ ∀ name ∈ names, IsWhole name := isWhole_join hstroke
  cases start with
  | here =>
      cases names with
      | nil => exact ⟨fun _ name hname => absurd hname List.not_mem_nil, fun _ => by decide⟩
      | cons name others => rw [text_here, hjoin]
  | root => exact (isWhole_append (a := ['/'])).trans ((and_iff_right hstroke).trans hjoin)
  | doubleRoot => exact (isWhole_append (a := ['/', '/'])).trans ((and_iff_right hstrokes).trans hjoin)

end Path

end CallSnippets
