import CallSnippets.Proofs.Snippet.Nested
import Mathlib.Data.List.Induction
import Mathlib.Data.List.Nodup

/-!
# Rows of brackets

The brackets of a text that stand outside of its strings are a row. A row that is not balanced is read with
the brackets that are open at hand, the innermost on top. A closing bracket that does not close the one on
top is set aside, and nothing is taken from the open ones for it. So two kinds of brackets come out of a
row, the closing ones that were set aside and the opening ones that are still open at the end.

Which ones these are can be said without the open brackets. A closing bracket is not set aside exactly if
some opening bracket before it fits it, which means that the two are a pair and that what is between them is
balanced once the brackets that were set aside are taken out. An opening bracket is not left over exactly
if some closing bracket behind it fits it in the same sense. What is in neither list is balanced.

Brackets are told apart by their place in the text, so that taking out a bracket takes out no other one.

## Main definitions

* `Spot`: A character of a text with what is before it.
* `Balanced`: A row in which brackets fit.
* `Settles`: What comes of a row: the brackets still open behind it, and those that were set aside.
* `kept`: A row without the brackets that were set aside.
* `Standing`: A row with the brackets that are open behind it.
* `Fits`: Two brackets of a row fit each other.
* `Repairs`: The two kinds of brackets to be taken out of a row.

## Theorems

* `Settles.standing`, `Standing.balanced`: What is kept of a row, and what of that is balanced.
* `fits_of_kept`: Brackets that fit in what is kept fit in the row.
* `Settles.of_fits`: Brackets that fit are neither set aside nor left over.
* `Repairs.unique`: What has to be taken out is determined by the row.
* `Settles.repairs`: What comes of a row is what has to be taken out of it.
-/

namespace CallSnippets

/-- A character of a text, with what is before it. -/
structure Spot where
  /-- What is before the character. -/
  before : Text
  /-- The character. -/
  char : CodePoint
  deriving DecidableEq, Repr

namespace Spot

/-- The line of a character is one more than there are line feeds before it. -/
def line (b : Spot) : Nat :=
  1 + b.before.count (.char '\n')

/-- The character is an opening bracket. -/
def IsOpener (b : Spot) : Prop :=
  ∃ pair ∈ brackets, pair.1 = b.char

/-- The character is a closing bracket. -/
def IsCloser (b : Spot) : Prop :=
  ∃ pair ∈ brackets, pair.2 = b.char

/-- The characters are an opening bracket and the one that closes it. -/
def Pairs (o c : Spot) : Prop :=
  (o.char, c.char) ∈ brackets

instance : DecidablePred IsOpener := fun b =>
  inferInstanceAs (Decidable (∃ pair ∈ brackets, pair.1 = b.char))

instance : DecidablePred IsCloser := fun b =>
  inferInstanceAs (Decidable (∃ pair ∈ brackets, pair.2 = b.char))

variable {o c b : Spot}

theorem Pairs.isOpener (h : Pairs o c) : o.IsOpener :=
  ⟨_, h, rfl⟩

theorem Pairs.isCloser (h : Pairs o c) : c.IsCloser :=
  ⟨_, h, rfl⟩

/-- No bracket is of both kinds. -/
theorem IsOpener.not_isCloser (h : b.IsOpener) : ¬b.IsCloser := by
  have hall : ∀ p ∈ brackets, ∀ q ∈ brackets, p.1 ≠ q.2 := by decide
  rcases h with ⟨p, hp, hopener⟩
  rintro ⟨q, hq, hcloser⟩
  exact hall p hp q hq (hopener.trans hcloser.symm)

end Spot

open Spot (Pairs)

variable {row rest inner stack after unmatched : List Spot} {o c b : Spot}

/-! ## Balanced rows -/

/-- The rows in which every bracket has its partner, with a balanced row between the two. -/
inductive Balanced : List Spot → Prop where
  | nil : Balanced []
  /-- A balanced row between two brackets that are a pair. -/
  | pair {o c : Spot} {inner rest : List Spot} (hpair : Pairs o c) (hinner : Balanced inner)
      (hrest : Balanced rest) : Balanced (o :: (inner ++ c :: rest))

theorem Balanced.append (hrow : Balanced row) (hrest : Balanced rest) : Balanced (row ++ rest) := by
  induction hrow with
  | nil => exact hrest
  | pair hpair hinner _ _ ih =>
      rw [List.cons_append, List.append_assoc, List.cons_append]
      exact .pair hpair hinner ih

/-- Every bracket of a balanced row has its partner in it. -/
theorem Balanced.exists_pair (h : Balanced row) (hb : b ∈ row) :
    ∃ outer o inner c rest, row = outer ++ o :: (inner ++ c :: rest) ∧ Pairs o c ∧ Balanced inner ∧
      (b = o ∨ b = c) := by
  induction h with
  | nil => exact absurd hb List.not_mem_nil
  | @pair o c inner rest hpair hinner hrest ihinner ihrest =>
      rw [List.mem_cons, List.mem_append, List.mem_cons] at hb
      rcases hb with hb | hb | hb | hb
      · exact ⟨[], o, inner, c, rest, rfl, hpair, hinner, .inl hb⟩
      · rcases ihinner hb with ⟨outer, o', inner', c', rest', rfl, hpartner⟩
        exact ⟨o :: outer, o', inner', c', rest' ++ c :: rest, by simp, hpartner⟩
      · exact ⟨[], o, inner, c, rest, rfl, hpair, hinner, .inr hb⟩
      · rcases ihrest hb with ⟨outer, o', inner', c', rest', rfl, hpartner⟩
        exact ⟨o :: (inner ++ c :: outer), o', inner', c', rest', by simp, hpartner⟩

/-! ## What comes of a row -/

/-- What comes of a row behind brackets that are open: the brackets that are open then, the innermost first
    in both, and the closing brackets that were set aside. -/
inductive Settles : List Spot → List Spot → List Spot → List Spot → Prop where
  | done {stack : List Spot} : Settles stack [] stack []
  /-- An opening bracket is open from here on. -/
  | opens {stack after unmatched rest : List Spot} {b : Spot} (hb : b.IsOpener)
      (hrest : Settles (b :: stack) rest after unmatched) : Settles stack (b :: rest) after unmatched
  /-- A closing bracket closes the one on top. -/
  | closes {stack after unmatched rest : List Spot} {o b : Spot} (hpair : Pairs o b)
      (hrest : Settles stack rest after unmatched) : Settles (o :: stack) (b :: rest) after unmatched
  /-- A closing bracket does not close the one on top, or there is none. -/
  | offends {stack after unmatched rest : List Spot} {b : Spot} (hb : b.IsCloser)
      (htop : ∀ o, stack.head? = some o → ¬Pairs o b) (hrest : Settles stack rest after unmatched) :
      Settles stack (b :: rest) after (b :: unmatched)

namespace Settles

/-- The row may be read in two parts. -/
theorem split (h : Settles stack (row ++ rest) after unmatched) :
    ∃ middle first second, Settles stack row middle first ∧ Settles middle rest after second ∧
      unmatched = first ++ second := by
  induction row generalizing stack unmatched with
  | nil => exact ⟨stack, [], unmatched, .done, h, rfl⟩
  | cons b row ih =>
      cases h with
      | opens hb hrest =>
          rcases ih hrest with ⟨middle, first, second, hfirst, hsecond, rfl⟩
          exact ⟨middle, first, second, .opens hb hfirst, hsecond, rfl⟩
      | closes hpair hrest =>
          rcases ih hrest with ⟨middle, first, second, hfirst, hsecond, rfl⟩
          exact ⟨middle, first, second, .closes hpair hfirst, hsecond, rfl⟩
      | offends hb htop hrest =>
          rcases ih hrest with ⟨middle, first, second, hfirst, hsecond, rfl⟩
          exact ⟨middle, b :: first, second, .offends hb htop hfirst, hsecond, rfl⟩

/-- An opening bracket can only be put on top. -/
theorem tail_of_isOpener (hb : b.IsOpener) (h : Settles stack (b :: rest) after unmatched) :
    Settles (b :: stack) rest after unmatched := by
  cases h with
  | opens _ hrest => exact hrest
  | closes hpair _ => exact absurd hpair.isCloser hb.not_isCloser
  | offends hcloser _ _ => exact absurd hcloser hb.not_isCloser

/-- A closing bracket that closes the one on top can only do this. -/
theorem tail_of_pairs (hpair : Pairs o b) (h : Settles (o :: stack) (b :: rest) after unmatched) :
    Settles stack rest after unmatched := by
  cases h with
  | opens hopener _ => exact absurd hpair.isCloser hopener.not_isCloser
  | closes _ hrest => exact hrest
  | offends _ htop _ => exact absurd hpair (htop o rfl)

/-- Behind a balanced row the same brackets are open as before. -/
theorem of_balanced (hrow : Balanced row) (h : Settles stack (row ++ rest) after unmatched) :
    Settles stack rest after unmatched := by
  induction hrow generalizing stack rest with
  | nil => exact h
  | pair hpair _ _ ihinner ihrest =>
      rw [List.cons_append, List.append_assoc, List.cons_append] at h
      have hclosing := ihinner (h.tail_of_isOpener hpair.isOpener)
      exact ihrest (hclosing.tail_of_pairs hpair)

/-- The brackets of a row count up: those that were open and came to be open are still open or were closed,
    and those that closed none were set aside. -/
theorem count (h : Settles stack row after unmatched) :
    after.length + row.countP (·.IsCloser) =
      stack.length + row.countP (·.IsOpener) + unmatched.length := by
  induction h with
  | done => rfl
  | opens hb _ ih =>
      simp only [List.countP_cons, hb, hb.not_isCloser, decide_true, decide_false, if_true,
        Bool.false_eq_true, if_false, List.length_cons] at ih ⊢
      omega
  | closes hpair _ ih =>
      have hopener := mt Spot.IsOpener.not_isCloser (not_not_intro hpair.isCloser)
      simp only [List.countP_cons, hpair.isCloser, hopener, decide_true, decide_false, if_true,
        Bool.false_eq_true, if_false, List.length_cons] at ih ⊢
      omega
  | offends hb _ _ ih =>
      have hopener := mt Spot.IsOpener.not_isCloser (not_not_intro hb)
      simp only [List.countP_cons, hb, hopener, decide_true, decide_false, if_true,
        Bool.false_eq_true, if_false, List.length_cons] at ih ⊢
      omega

/-- The brackets that were set aside are closing brackets of the row, in order. -/
theorem unmatched_sublist (h : Settles stack row after unmatched) :
    unmatched.Sublist (row.filter (·.IsCloser)) := by
  induction h with
  | done => exact .slnil
  | opens _ _ ih => exact ih.trans ((List.sublist_cons_self ..).filter _)
  | closes _ _ ih => exact ih.trans ((List.sublist_cons_self ..).filter _)
  | offends hb _ _ ih =>
      rw [List.filter_cons_of_pos (p := fun b : Spot => decide b.IsCloser) (decide_eq_true hb)]
      exact ih.cons_cons _

/-- The brackets that are open at the end were open at the start or are of the row, in order. -/
theorem after_sublist (h : Settles stack row after unmatched) :
    after.reverse.Sublist (stack.reverse ++ row) := by
  induction h with
  | done =>
      rewrite [List.append_nil]
      exact List.Sublist.refl _
  | opens _ _ ih => rwa [List.reverse_cons, List.append_assoc, List.singleton_append] at ih
  | closes _ _ ih =>
      refine ih.trans ?_
      rw [List.reverse_cons, List.append_assoc, List.singleton_append]
      exact (List.Sublist.refl _).append ((List.sublist_cons_self ..).trans (List.sublist_cons_self ..))
  | offends _ _ _ ih => exact ih.trans ((List.Sublist.refl _).append (List.sublist_cons_self ..))

theorem mem_of_mem_after (h : Settles stack row after unmatched) (hb : b ∈ after) :
    b ∈ stack ∨ b ∈ row := by
  have hmem := h.after_sublist.subset (List.mem_reverse.mpr hb)
  rwa [List.mem_append, List.mem_reverse] at hmem

theorem mem_of_mem_unmatched (h : Settles stack row after unmatched) (hb : b ∈ unmatched) :
    b ∈ row ∧ b.IsCloser := by
  have hmem := List.mem_filter.mp (h.unmatched_sublist.subset hb)
  exact ⟨hmem.1, of_decide_eq_true hmem.2⟩

end Settles

/-! ## What is kept of a row -/

/-- The row without the brackets that were set aside. -/
def kept (unmatched row : List Spot) : List Spot :=
  row.filter fun b => b ∉ unmatched

theorem kept_cons_of_not_mem (h : b ∉ unmatched) : kept unmatched (b :: row) = b :: kept unmatched row :=
  List.filter_cons_of_pos (decide_eq_true h)

/-- A bracket that is set aside is taken out. If it stands only once in the row, no other one goes by it. -/
theorem kept_cons_offending (h : b ∉ row) :
    kept (b :: unmatched) (b :: row) = kept unmatched row := by
  rw [kept, List.filter_cons_of_neg (by simp)]
  refine List.filter_congr fun d hd => ?_
  have hne : d ≠ b := fun hsame => h (hsame ▸ hd)
  simp only [List.mem_cons, hne, false_or]

/-- What was set aside elsewhere is not in the row, so only what was set aside here is taken out. -/
theorem kept_congr {others : List Spot} (h : ∀ b ∈ row, b ∈ unmatched ↔ b ∈ others) :
    kept unmatched row = kept others row :=
  List.filter_congr fun b hb => by simp only [h b hb]

/-- What is kept of a row settles in the same way, with nothing set aside. -/
theorem Settles.keeps (h : Settles stack row after unmatched) (hrow : row.Nodup) :
    Settles stack (kept unmatched row) after [] := by
  induction h with
  | done => exact .done
  | opens hb hrest ih =>
      rcases List.nodup_cons.mp hrow with ⟨hnew, hrow⟩
      rw [kept_cons_of_not_mem fun hmem => hnew (hrest.mem_of_mem_unmatched hmem).1]
      exact .opens hb (ih hrow)
  | closes hpair hrest ih =>
      rcases List.nodup_cons.mp hrow with ⟨hnew, hrow⟩
      rw [kept_cons_of_not_mem fun hmem => hnew (hrest.mem_of_mem_unmatched hmem).1]
      exact .closes hpair (ih hrow)
  | offends _ _ _ ih =>
      rcases List.nodup_cons.mp hrow with ⟨hnew, hrow⟩
      rw [kept_cons_offending hnew]
      exact ih hrow

/-- A row with nothing to be set aside, with the brackets that are open behind it: it is balanced between
    each two of these. -/
inductive Standing : List Spot → List Spot → Prop where
  /-- No bracket is open. -/
  | outside {row : List Spot} (h : Balanced row) : Standing [] row
  /-- A bracket is open in a row, with a balanced row behind it. -/
  | inside {stack outer inner : List Spot} {o : Spot} (houter : Standing stack outer) (ho : o.IsOpener)
      (hinner : Balanced inner) : Standing (o :: stack) (outer ++ o :: inner)

namespace Standing

theorem append (h : Standing stack row) (hrest : Balanced rest) : Standing stack (row ++ rest) := by
  cases h with
  | outside hrow => exact .outside (hrow.append hrest)
  | inside houter ho hinner =>
      rw [List.append_assoc, List.cons_append]
      exact .inside houter ho (hinner.append hrest)

/-- A closing bracket makes a balanced row of the one on top and all that is behind it. -/
theorem close (h : Standing (o :: stack) row) (hpair : Pairs o c) : Standing stack (row ++ [c]) := by
  cases h with
  | inside houter _ hinner =>
      rw [List.append_assoc, List.cons_append]
      exact houter.append (.pair hpair hinner .nil)

theorem mem_of_mem_stack (h : Standing stack row) (hb : b ∈ stack) : b ∈ row ∧ b.IsOpener := by
  induction h with
  | outside _ => exact absurd hb List.not_mem_nil
  | inside _ ho _ ih =>
      rcases List.mem_cons.mp hb with rfl | hb
      · exact ⟨List.mem_append_right _ (List.mem_cons_self ..), ho⟩
      · exact ⟨List.mem_append_left _ (ih hb).1, (ih hb).2⟩

/-- What is in such a row besides the open brackets is balanced. -/
theorem balanced (h : Standing stack row) (hrow : row.Nodup) : Balanced (kept stack row) := by
  induction h with
  | @outside row hbalanced =>
      have hall : kept [] row = row := List.filter_eq_self.mpr fun b _ => by simp
      rwa [hall]
  | @inside stack outer inner o houter _ hinner ih =>
      rcases List.nodup_append.mp hrow with ⟨hnodup, htail, hdisjoint⟩
      rcases List.nodup_cons.mp htail with ⟨hnew, _⟩
      -- The open bracket itself is taken out, and none of those outside is in the row behind it.
      have hbefore : kept (o :: stack) outer = kept stack outer := by
        refine kept_congr fun b hb => ?_
        have hne : b ≠ o := hdisjoint b hb o (List.mem_cons_self ..)
        simp only [List.mem_cons, hne, false_or]
      have hbehind : kept (o :: stack) (o :: inner) = inner := by
        rw [kept_cons_offending hnew]
        refine List.filter_eq_self.mpr fun b hb => decide_eq_true fun hmem => ?_
        exact hdisjoint b (houter.mem_of_mem_stack hmem).1 b (List.mem_cons_of_mem _ hb) rfl
      have hsplit : kept (o :: stack) (outer ++ o :: inner) =
          kept (o :: stack) outer ++ kept (o :: stack) (o :: inner) := List.filter_append ..
      rw [hsplit, hbefore, hbehind]
      exact (ih hnodup).append hinner

/-- A bracket that is not open has its partner in the row. -/
theorem exists_pair (h : Standing stack row) (hb : b ∈ row) (hstack : b ∉ stack) :
    ∃ outer o inner c rest, row = outer ++ o :: (inner ++ c :: rest) ∧ Pairs o c ∧ Balanced inner ∧
      (b = o ∨ b = c) := by
  induction h with
  | outside hbalanced => exact hbalanced.exists_pair hb
  | @inside stack outer inner o _ _ hinner ih =>
      rw [List.mem_cons, not_or] at hstack
      rw [List.mem_append, List.mem_cons] at hb
      rcases hb with hb | hb | hb
      · rcases ih hb hstack.2 with ⟨outer', o', inner', c', rest', rfl, hpartner⟩
        exact ⟨outer', o', inner', c', rest' ++ o :: inner, by simp, hpartner⟩
      · exact absurd hb hstack.1
      · rcases hinner.exists_pair hb with ⟨outer', o', inner', c', rest', rfl, hpartner⟩
        exact ⟨outer ++ o :: outer', o', inner', c', rest', by simp, hpartner⟩

end Standing

/-- What is kept of a row stands behind what was there before. -/
theorem Settles.standing {outer : List Spot} (h : Settles stack row after unmatched) (hrow : row.Nodup)
    (houter : Standing stack outer) : Standing after (outer ++ kept unmatched row) := by
  induction h generalizing outer with
  | done =>
      have hnone : kept [] [] = [] := rfl
      rwa [hnone, List.append_nil]
  | @opens stack after unmatched rest b hb hrest ih =>
      rcases List.nodup_cons.mp hrow with ⟨hnew, hrow⟩
      rw [kept_cons_of_not_mem fun hmem => hnew (hrest.mem_of_mem_unmatched hmem).1,
        List.append_cons]
      exact ih hrow (.inside houter hb .nil)
  | closes hpair hrest ih =>
      rcases List.nodup_cons.mp hrow with ⟨hnew, hrow⟩
      rw [kept_cons_of_not_mem fun hmem => hnew (hrest.mem_of_mem_unmatched hmem).1,
        List.append_cons]
      exact ih hrow (houter.close hpair)
  | offends _ _ _ ih =>
      rcases List.nodup_cons.mp hrow with ⟨hnew, hrow⟩
      rw [kept_cons_offending hnew]
      exact ih hrow houter

/-! ## Brackets that fit -/

/-- Two brackets of a row fit: they are a pair, and what is between them is balanced once the brackets that
    were set aside are taken out. -/
def Fits (row unmatched : List Spot) (o c : Spot) : Prop :=
  ∃ outer inner rest, row = outer ++ o :: (inner ++ c :: rest) ∧ Pairs o c ∧ Balanced (kept unmatched inner)

theorem Fits.pairs (h : Fits row unmatched o c) : Pairs o c := by
  rcases h with ⟨_, _, _, _, hpair, _⟩
  exact hpair

/-- A bracket of what is kept is one of the row, and what is before it and behind it is what is kept of
    the row before it and behind it. -/
theorem exists_split {first second : List Spot} (h : kept unmatched row = first ++ b :: second) :
    ∃ before behind, row = before ++ b :: behind ∧ kept unmatched before = first ∧
      kept unmatched behind = second := by
  rcases List.filter_eq_append_iff.mp h with ⟨before, tail, rfl, hbefore, htail⟩
  rcases List.filter_eq_cons_iff.mp htail with ⟨skipped, behind, rfl, hskipped, _, hbehind⟩
  have hnone : kept unmatched skipped = [] := List.filter_eq_nil_iff.mpr hskipped
  refine ⟨before ++ skipped, behind, (List.append_assoc ..).symm, ?_, hbehind⟩
  rw [kept, List.filter_append, hbefore]
  exact (congrArg (first ++ ·) hnone).trans (List.append_nil _)

/-- Brackets that fit in what is kept fit in the row. -/
theorem fits_of_kept {outer : List Spot} (h : kept unmatched row = outer ++ o :: (inner ++ c :: rest))
    (hpair : Pairs o c) (hinner : Balanced inner) : Fits row unmatched o c := by
  rcases exists_split h with ⟨before, tail, rfl, _, htail⟩
  rcases exists_split htail with ⟨middle, behind, rfl, hmiddle, _⟩
  exact ⟨before, middle, behind, rfl, hpair, by rwa [hmiddle]⟩

/-- What was set aside before a row and behind it takes nothing out of it. -/
theorem kept_middle {first second third : List Spot} (hfirst : ∀ b ∈ row, b ∉ first)
    (hthird : ∀ b ∈ row, b ∉ third) : kept (first ++ (second ++ third)) row = kept second row := by
  refine kept_congr fun b hb => ?_
  rw [List.mem_append, List.mem_append, or_iff_right (hfirst b hb), or_iff_left (hthird b hb)]

/-- Brackets that fit are neither set aside nor left over. -/
theorem Settles.of_fits (h : Settles [] row after unmatched) (hrow : row.Nodup)
    (hfits : Fits row unmatched o c) : c ∉ unmatched ∧ o ∉ after := by
  rcases hfits with ⟨outer, inner, rest, rfl, hpair, hinner⟩
  rcases List.nodup_append.mp hrow with ⟨_, htail, houter⟩
  rcases List.nodup_cons.mp htail with ⟨hopening, htail⟩
  rcases List.nodup_append.mp htail with ⟨hnodup, hrest, hdisjoint⟩
  rcases List.nodup_cons.mp hrest with ⟨hclosing, _⟩
  -- The row is read up to the opening bracket, then up to the closing one, and then to its end.
  rcases h.split with ⟨stack, first, others, hfirst, hothers, rfl⟩
  rcases (hothers.tail_of_isOpener hpair.isOpener).split with
    ⟨middle, second, third, hsecond, hthird, rfl⟩
  -- Each part sets aside some of its own brackets, and no bracket is in two parts.
  have hbefore : ∀ b ∈ o :: (inner ++ c :: rest), b ∉ first := fun b hb hmem =>
    houter b (hfirst.mem_of_mem_unmatched hmem).1 b hb rfl
  have hbehind : ∀ b ∈ inner, b ∉ third := fun b hb hmem =>
    hdisjoint b hb b (hthird.mem_of_mem_unmatched hmem).1 rfl
  have hbetween : ∀ b ∈ inner, b ∉ first := fun b hb =>
    hbefore b (List.mem_cons_of_mem _ (List.mem_append_left _ hb))
  rw [kept_middle hbetween hbehind] at hinner
  -- What is kept between the two is balanced, so the closing bracket finds the opening one on top.
  have hmiddle : o :: stack = middle := by
    have hkept := hsecond.keeps hnodup
    rw [← List.append_nil (kept second inner)] at hkept
    cases hkept.of_balanced hinner
    rfl
  subst hmiddle
  have hlast := hthird.tail_of_pairs hpair
  have hmem : c ∈ inner ++ c :: rest := List.mem_append_right _ (List.mem_cons_self ..)
  constructor
  · rw [List.mem_append, List.mem_append, not_or, not_or]
    refine ⟨hbefore c (List.mem_cons_of_mem _ hmem), fun hset => ?_, fun hset => ?_⟩
    · exact hdisjoint c (hsecond.mem_of_mem_unmatched hset).1 c (List.mem_cons_self ..) rfl
    · exact hclosing (hlast.mem_of_mem_unmatched hset).1
  · intro hopen
    rcases hlast.mem_of_mem_after hopen with hstack | hlater
    · rcases hfirst.mem_of_mem_after hstack with hnone | hearlier
      · exact absurd hnone List.not_mem_nil
      · exact houter o hearlier o (List.mem_cons_self ..) rfl
    · exact hopening (List.mem_append_right _ (List.mem_cons_of_mem _ hlater))

/-! ## What has to be taken out -/

/-- The closing and the opening brackets that have to be taken out of a row: those that no other bracket
    fits, in their order, and the others are balanced. -/
structure Repairs (row unmatched unclosed : List Spot) : Prop where
  /-- The first are closing brackets, in the order of the row. -/
  closers : unmatched.Sublist (row.filter (·.IsCloser))
  /-- The second are opening brackets, in the order of the row. -/
  openers : unclosed.Sublist (row.filter (·.IsOpener))
  /-- A closing bracket is to be taken out exactly if no opening bracket fits it. -/
  offending : ∀ c ∈ row, c.IsCloser → (c ∈ unmatched ↔ ¬∃ o, Fits row unmatched o c)
  /-- An opening bracket is to be taken out exactly if no closing bracket fits it. -/
  leftover : ∀ o ∈ row, o.IsOpener → (o ∈ unclosed ↔ ¬∃ c, Fits row unmatched o c)
  /-- The brackets count up. -/
  count : unclosed.length + row.countP (·.IsCloser) = row.countP (·.IsOpener) + unmatched.length
  /-- What is not taken out is balanced. -/
  balanced : Balanced (row.filter fun b => b ∉ unmatched ∧ b ∉ unclosed)

/-- What fits a closing bracket goes by what was set aside before it. -/
theorem Fits.congr {outer others : List Spot} (h : Fits row unmatched o c) (hrow : row.Nodup)
    (hsplit : row = outer ++ c :: rest) (hsame : ∀ b ∈ outer, b ∈ unmatched ↔ b ∈ others) :
    Fits row others o c := by
  rcases h with ⟨before, inner, behind, hfits, hpair, hinner⟩
  -- The closing bracket stands in one place, so what is between the two is before it.
  have hplace : before ++ o :: inner = outer := by
    have hboth : (before ++ o :: inner) ++ c :: behind = outer ++ c :: rest := by
      rw [← hsplit, hfits, List.append_assoc, List.cons_append]
    have hnew := hrow
    rw [hsplit, ← hboth, List.nodup_middle, List.nodup_cons, List.mem_append, not_or] at hnew
    exact ((List.append_cons_inj_of_notMem hnew.1.1 hnew.1.2).mp hboth).1
  refine ⟨before, inner, behind, hfits, hpair, ?_⟩
  rwa [← kept_congr fun b hb => hsame b ?_]
  rw [← hplace]
  exact List.mem_append_right _ (List.mem_cons_of_mem _ hb)

/-- A part of a list without repetitions is what the list has of its members. -/
theorem filter_mem_of_sublist {part whole : List Spot} (h : part.Sublist whole) (hwhole : whole.Nodup) :
    whole.filter (· ∈ part) = part := by
  induction h with
  | slnil => rfl
  | @cons part whole b hpart ih =>
      rcases List.nodup_cons.mp hwhole with ⟨hnew, hwhole⟩
      rw [List.filter_cons_of_neg (by simpa using fun hmem => hnew (hpart.subset hmem))]
      exact ih hwhole
  | @cons_cons part whole b hpart ih =>
      rcases List.nodup_cons.mp hwhole with ⟨hnew, hwhole⟩
      rw [List.filter_cons_of_pos (by simp)]
      have hothers : whole.filter (· ∈ b :: part) = whole.filter (· ∈ part) := by
        refine List.filter_congr fun d hd => ?_
        have hne : d ≠ b := fun hsame => hnew (hsame ▸ hd)
        simp only [List.mem_cons, hne, false_or]
      rw [hothers, ih hwhole]

namespace Repairs

variable {others unclosed leftovers : List Spot}

/-- Which closing brackets are to be taken out of the start of a row is determined by it: each goes by those
    before it. -/
theorem mem_unmatched_iff (h : Repairs row unmatched unclosed) (h' : Repairs row others leftovers)
    (hrow : row.Nodup) {outer : List Spot} (houter : outer <+: row) :
    ∀ b ∈ outer, b ∈ unmatched ↔ b ∈ others := by
  induction outer using List.reverseRecOn with
  | nil => exact fun b hb => absurd hb List.not_mem_nil
  | append_singleton outer c ih =>
      rcases houter with ⟨rest, hsplit⟩
      rw [List.append_assoc, List.singleton_append] at hsplit
      -- Those before it are the same in both, so the same opening brackets fit it.
      have hsame := ih ⟨c :: rest, hsplit⟩
      intro b hb
      rcases List.mem_append.mp hb with hb | hb
      · exact hsame b hb
      rcases List.mem_singleton.mp hb with rfl
      have hmem : b ∈ row := by
        rw [← hsplit]
        exact List.mem_append_right _ (List.mem_cons_self ..)
      by_cases hcloser : b.IsCloser
      · rw [h.offending b hmem hcloser, h'.offending b hmem hcloser]
        refine not_congr (exists_congr fun o => ⟨fun hfits => ?_, fun hfits => ?_⟩)
        · exact hfits.congr hrow hsplit.symm hsame
        · exact hfits.congr hrow hsplit.symm fun d hd => (hsame d hd).symm
      · have hnot : ∀ {list : List Spot}, list.Sublist (row.filter (·.IsCloser)) → b ∉ list := by
          intro list hlist hb
          exact hcloser (of_decide_eq_true (List.mem_filter.mp (hlist.subset hb)).2)
        exact iff_of_false (hnot h.closers) (hnot h'.closers)

/-- What has to be taken out of a row is determined by the row. -/
theorem unique (h : Repairs row unmatched unclosed) (h' : Repairs row others leftovers)
    (hrow : row.Nodup) : unmatched = others ∧ unclosed = leftovers := by
  have hnodup : ∀ p : Spot → Bool, (row.filter p).Nodup := fun p => hrow.filter p
  have hunmatched : unmatched = others := by
    rw [← filter_mem_of_sublist h.closers (hnodup _), ← filter_mem_of_sublist h'.closers (hnodup _)]
    refine List.filter_congr fun b hb => decide_eq_decide.mpr ?_
    exact h.mem_unmatched_iff h' hrow List.prefix_rfl b (List.mem_filter.mp hb).1
  subst hunmatched
  refine ⟨rfl, ?_⟩
  rw [← filter_mem_of_sublist h.openers (hnodup _), ← filter_mem_of_sublist h'.openers (hnodup _)]
  refine List.filter_congr fun o ho => decide_eq_decide.mpr ?_
  rcases List.mem_filter.mp ho with ⟨hmem, hopener⟩
  have hopener := of_decide_eq_true hopener
  exact (h.leftover o hmem hopener).trans (h'.leftover o hmem hopener).symm

end Repairs

namespace Settles

theorem isOpener_of_mem_after (h : Settles [] row after unmatched) (hrow : row.Nodup) (hb : b ∈ after) :
    b.IsOpener :=
  ((h.standing hrow (.outside .nil)).mem_of_mem_stack hb).2

/-- A bracket that is neither set aside nor left over fits another one. -/
theorem exists_fits (h : Settles [] row after unmatched) (hrow : row.Nodup) (hb : b ∈ row)
    (hunmatched : b ∉ unmatched) (hafter : b ∉ after) :
    ∃ o c, Fits row unmatched o c ∧ (b = o ∨ b = c) := by
  have hstanding : Standing after (kept unmatched row) := h.standing hrow (.outside .nil)
  have hmem : b ∈ kept unmatched row := List.mem_filter.mpr ⟨hb, decide_eq_true hunmatched⟩
  rcases hstanding.exists_pair hmem hafter with ⟨outer, o, inner, c, rest, hsplit, hpair, hinner, hend⟩
  exact ⟨o, c, fits_of_kept hsplit hpair hinner, hend⟩

theorem mem_unmatched_iff (h : Settles [] row after unmatched) (hrow : row.Nodup) (hc : c ∈ row)
    (hcloser : c.IsCloser) : c ∈ unmatched ↔ ¬∃ o, Fits row unmatched o c := by
  constructor
  · rintro hmem ⟨o, hfits⟩
    exact (h.of_fits hrow hfits).1 hmem
  · intro hnone
    by_contra hunmatched
    -- It closes something, so it is not left over, and what it fits is before it.
    have hafter : c ∉ after := fun hmem => (h.isOpener_of_mem_after hrow hmem).not_isCloser hcloser
    rcases h.exists_fits hrow hc hunmatched hafter with ⟨o, c', hfits, rfl | rfl⟩
    · exact hfits.pairs.isOpener.not_isCloser hcloser
    · exact hnone ⟨o, hfits⟩

theorem mem_after_iff (h : Settles [] row after unmatched) (hrow : row.Nodup) (ho : o ∈ row)
    (hopener : o.IsOpener) : o ∈ after ↔ ¬∃ c, Fits row unmatched o c := by
  constructor
  · rintro hmem ⟨c, hfits⟩
    exact (h.of_fits hrow hfits).2 hmem
  · intro hnone
    by_contra hafter
    have hunmatched : o ∉ unmatched := fun hmem => hopener.not_isCloser (h.mem_of_mem_unmatched hmem).2
    rcases h.exists_fits hrow ho hunmatched hafter with ⟨o', c, hfits, rfl | rfl⟩
    · exact hnone ⟨c, hfits⟩
    · exact hopener.not_isCloser hfits.pairs.isCloser

/-- What comes of a row of different brackets, with none open before it, is what has to be taken out of it. -/
theorem repairs (h : Settles [] row after unmatched) (hrow : row.Nodup) :
    Repairs row unmatched after.reverse := by
  refine ⟨h.unmatched_sublist, ?_, fun c hc hcloser => h.mem_unmatched_iff hrow hc hcloser,
    fun o ho hopener => ?_, ?_, ?_⟩
  · have hsublist : after.reverse.Sublist row := by simpa using h.after_sublist
    have hall : after.reverse.filter (fun b : Spot => decide b.IsOpener) = after.reverse :=
      List.filter_eq_self.mpr fun b hb =>
        decide_eq_true (h.isOpener_of_mem_after hrow (List.mem_reverse.mp hb))
    rw [← hall]
    exact hsublist.filter _
  · rw [List.mem_reverse]
    exact h.mem_after_iff hrow ho hopener
  · have hcount := h.count
    rw [List.length_nil] at hcount
    rw [List.length_reverse]
    omega
  · -- What is kept stands behind the open brackets, and without these it is balanced.
    have hbalanced := (h.standing hrow (.outside .nil)).balanced (hrow.filter _)
    rw [List.nil_append, kept, kept, List.filter_filter] at hbalanced
    simpa only [List.mem_reverse, Bool.decide_and, Bool.and_comm] using hbalanced

end Settles

end CallSnippets
