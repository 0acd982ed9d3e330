import CallSnippets.Proofs.Text.Upper

/-!
# Texts in lower case

A text in lower case stays what it is when it is brought into lower case again. For single characters this
is read off the tables in the same way as for upper case. The capital sigma is the one letter whose image
goes by what is around it, so it is not enough to know its images: it must also be known that no image is
a capital sigma, since only then nothing around a character matters the second time.

## Main definitions

* `IsFixed`: The number of a character that the mapping does not move.
* `CaseRun.fixes`: The check of one run.
* `IsSmall`: A character that stays in lower case, whatever is around it.

## Theorems

* `fixed_run`: What the tables name is fixed.
* `isSmall_lowerChar`, `isSmall_lower`: What comes of lower case stays.
* `lower_lower`: Lower case once more.
-/

namespace CallSnippets

namespace Text

/-! ## The tables -/

/-- The number of a character that is mapped to itself. -/
def IsFixed (n : Nat) : Prop :=
  n.isValidChar ∧ lowerExpansions.lookup n = none ∧ ∀ run ∈ lowerRuns, run.covers n = false

instance (n : Nat) : Decidable (IsFixed n) :=
  inferInstanceAs (Decidable (_ ∧ _ ∧ _))

/-- The images of a run are fixed, as far as those parts of the tables go that reach among them. -/
def CaseRun.fixes (run : CaseRun) : Bool :=
  let runs := lowerRuns.filter fun other => run.reaches other.first other.last
  let expansions := lowerExpansions.filter fun e => run.reaches e.1 e.1
  (List.range (run.last - run.first + 1)).all fun i =>
    let n := run.imageNumber (run.first + i)
    !run.covers (run.first + i) ||
      (decide n.isValidChar && (expansions.all fun e => e.1 != n) && runs.all fun other => !other.covers n)

theorem fixes_runs : lowerRuns.all CaseRun.fixes = true := by
  decide +kernel

theorem fixed_expansions : ∀ e ∈ lowerExpansions, ∀ n ∈ e.2, IsFixed n := by
  decide +kernel

/-- The images that a run names are fixed. -/
theorem fixed_run {run : CaseRun} (hrun : run ∈ lowerRuns) {n : Nat} (hn : run.covers n = true) :
    IsFixed (run.imageNumber n) := by
  have hfixes := List.all_eq_true.mp fixes_runs run hrun
  rcases exists_index hn with ⟨i, hi, hindex⟩
  have hmember := List.all_eq_true.mp hfixes i hi
  simp only [hindex, hn, Bool.not_true, Bool.false_or, Bool.and_eq_true, decide_eq_true_eq,
    Bool.not_eq_true', List.all_eq_true, List.mem_filter, bne_iff_ne, and_imp] at hmember
  rcases hmember with ⟨⟨hvalid, hexpansions⟩, hruns⟩
  refine ⟨hvalid, lookup_eq_none fun e he hsame => ?_, fun other hother => ?_⟩
  · have hreached := reaches_of_covers hn (Nat.le_of_eq hsame) (Nat.le_of_eq hsame.symm)
    exact hexpansions e he hreached hsame
  · exact covers_eq_false hn (hruns other hother)

/-! ## Characters -/

/-- The character stays in lower case. It is no capital sigma, so it does so whatever is around it. -/
def IsSmall (c : CodePoint) : Prop :=
  c ≠ capitalSigma ∧ lowerChar c = [c]

/-- A fixed character is small. -/
theorem isSmall_fixed {n : Nat} (h : IsFixed n) : IsSmall (CodePoint.ofNat n) := by
  -- The capital sigma is in one of the runs, so it is not fixed.
  have hsigma : ¬IsFixed capitalSigma.toNat := by decide +kernel
  have hnumber := toNat_ofNat h.1
  rcases h with ⟨hvalid, hexpansions, hruns⟩
  constructor
  · intro hsame
    rw [← hsame, hnumber] at hsigma
    exact hsigma ⟨hvalid, hexpansions, hruns⟩
  · have hnone : lowerRuns.find? (·.covers n) = none := by
      refine List.find?_eq_none.mpr fun run hrun hcovers => ?_
      rw [hruns run hrun] at hcovers
      cases hcovers
    rw [lowerChar, caseImage, hnumber, hexpansions]
    simp only [hnone]

/-- The image of a character that is no capital sigma is small. -/
theorem isSmall_lowerChar {c d : CodePoint} (hc : c ≠ capitalSigma) (hd : d ∈ lowerChar c) :
    IsSmall d := by
  have himage := hd
  rw [lowerChar, caseImage] at himage
  cases hexpansion : lowerExpansions.lookup c.toNat with
  | some image =>
      simp only [hexpansion] at himage
      rcases List.lookup_eq_some_iff.mp hexpansion with ⟨before, after, hlist, _⟩
      have hmem : (c.toNat, image) ∈ lowerExpansions := by
        rw [hlist]
        exact List.mem_append_right before (List.mem_cons_self ..)
      rcases List.mem_map.mp himage with ⟨n, hn, rfl⟩
      exact isSmall_fixed (fixed_expansions _ hmem n hn)
  | none =>
      simp only [hexpansion] at himage
      cases hrun : lowerRuns.find? (·.covers c.toNat) with
      | none =>
          simp only [hrun] at himage
          have hsame : lowerChar c = [c] := by
            rw [lowerChar, caseImage, hexpansion]
            simp only [hrun]
          rw [List.mem_singleton.mp himage]
          exact ⟨hc, hsame⟩
      | some run =>
          simp only [hrun] at himage
          have hcovers : run.covers c.toNat = true := by simpa using List.find?_some hrun
          rw [List.mem_singleton.mp himage]
          exact isSmall_fixed (fixed_run (List.mem_of_find?_eq_some hrun) hcovers)

theorem isSmall_smallSigma (before after : Text) : IsSmall (smallSigma before after) := by
  have hfinal : IsSmall (.char 'ς') := isSmall_fixed (n := 0x3C2) (by decide +kernel)
  have hother : IsSmall (.char 'σ') := isSmall_fixed (n := 0x3C3) (by decide +kernel)
  rw [smallSigma]
  split
  · exact hfinal
  · exact hother

/-! ## Texts -/

/-- A text in lower case has small characters only. -/
theorem isSmall_lower {before t : Text} : ∀ c ∈ lowerAfter before t, IsSmall c := by
  induction t generalizing before with
  | nil => exact fun c hc => absurd hc List.not_mem_nil
  | cons first rest ih =>
      intro c hc
      rw [lowerAfter, List.mem_append] at hc
      rcases hc with hfirst | hrest
      · by_cases hsigma : first = capitalSigma
        · rw [if_pos hsigma] at hfirst
          rw [List.mem_singleton.mp hfirst]
          exact isSmall_smallSigma before rest
        · rw [if_neg hsigma] at hfirst
          exact isSmall_lowerChar hsigma hfirst
      · exact ih c hrest

/-- Small characters stay, whatever is before them. -/
theorem lowerAfter_eq_self {before t : Text} (h : ∀ c ∈ t, IsSmall c) : lowerAfter before t = t := by
  induction t generalizing before with
  | nil => rfl
  | cons c rest ih =>
      rcases List.forall_mem_cons.mp h with ⟨⟨hsigma, hstays⟩, hrest⟩
      rw [lowerAfter, if_neg hsigma, hstays, ih hrest, List.singleton_append]

/-- A text in lower case is not changed by bringing it into lower case again. -/
theorem lower_lower (t : Text) : lower (lower t) = lower t :=
  lowerAfter_eq_self isSmall_lower

end Text

end CallSnippets
