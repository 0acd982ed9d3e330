import CallSnippets.Text.Blank
import CallSnippets.Text.Case
import Mathlib.Data.List.Basic

/-!
# Texts in upper case

A text in upper case stays what it is when it is brought into upper case again, and it has white space at
an end only where the text that it was made from has. Neither of this can be told from how the mapping is
applied: it says something about the tables. Every image that they name is that of a character that they
do not move any more, and that is no white space.

The tables hold runs of characters, so this is checked run by run. It would take long to compare every
image with every run. Only the runs that overlap the images of a run are looked at for its members, and
these are few.

## Main definitions

* `IsSettled`: The number of a character that the mapping does not move, and that is no white space.
* `CaseRun.settles`: The check of one run.
* `IsTrimmed`: A text has no white space at its ends.

## Theorems

* `covers_eq_false`: What a run does not reach does not hold the images of its members.
* `settled_expansions`, `settled_run`: What the tables name is settled.
* `upperChar_cases`: A character stays, or has an image that stays.
* `upper_upper`: Upper case once more.
* `IsTrimmed.upper`: No white space comes up at the ends.
-/

namespace CallSnippets

namespace Text

/-! ## The tables -/

/-- The number of a character that is mapped to itself and is no white space. -/
def IsSettled (n : Nat) : Prop :=
  n.isValidChar ∧ isBlank (CodePoint.ofNat n) = false ∧ upperExpansions.lookup n = none ∧
    ∀ run ∈ upperRuns, run.covers n = false

instance (n : Nat) : Decidable (IsSettled n) :=
  inferInstanceAs (Decidable (_ ∧ _ ∧ _ ∧ _))

/-- The number of the image of a number. -/
def CaseRun.imageNumber (run : CaseRun) (n : Nat) : Nat :=
  (n + run.distance).toNat

/-- A number lies between those of the images of the first and the last member of a run. The order is
    tested as it is computed fastest. -/
def CaseRun.reaches (run : CaseRun) (first last : Nat) : Bool :=
  Nat.ble (run.imageNumber run.first) last && Nat.ble first (run.imageNumber run.last)

/-- The images of a run are settled, as far as those parts of the tables go that reach among them. -/
def CaseRun.settles (run : CaseRun) : Bool :=
  let runs := upperRuns.filter fun other => run.reaches other.first other.last
  let expansions := upperExpansions.filter fun e => run.reaches e.1 e.1
  (List.range (run.last - run.first + 1)).all fun i =>
    let n := run.imageNumber (run.first + i)
    !run.covers (run.first + i) ||
      (decide n.isValidChar && !isBlank (CodePoint.ofNat n) && (expansions.all fun e => e.1 != n) &&
        runs.all fun other => !other.covers n)

theorem settles_runs : upperRuns.all CaseRun.settles = true := by
  decide +kernel

theorem ne_nil_expansions : ∀ e ∈ upperExpansions, e.2 ≠ [] := by
  decide +kernel

-- Many of the images are the same, so each is checked once.
theorem settled_images : ∀ n ∈ (upperExpansions.flatMap Prod.snd).eraseDups, IsSettled n := by
  decide +kernel

theorem settled_expansions {e : Nat × List Nat} (he : e ∈ upperExpansions) {n : Nat} (hn : n ∈ e.2) :
    IsSettled n :=
  settled_images n (List.mem_eraseDups.mpr (List.mem_flatMap.mpr ⟨e, he, hn⟩))

theorem lookup_eq_none {α : Type} {l : List (Nat × α)} {n : Nat} (h : ∀ e ∈ l, e.1 ≠ n) :
    l.lookup n = none := by
  induction l with
  | nil => rfl
  | cons e rest ih =>
      rcases List.forall_mem_cons.mp h with ⟨he, hrest⟩
      rw [List.lookup_cons, beq_eq_false_iff_ne.mpr he.symm, ih hrest]

/-- What holds the image of a member of a run is among what the run reaches. -/
theorem reaches_of_covers {run : CaseRun} {n first last : Nat} (hn : run.covers n = true)
    (hfirst : first ≤ run.imageNumber n) (hlast : run.imageNumber n ≤ last) :
    run.reaches first last = true := by
  have hbounds : run.first ≤ n ∧ n ≤ run.last := by
    rw [CaseRun.covers] at hn
    simp only [Bool.and_eq_true, decide_eq_true_eq] at hn
    exact hn.1
  have himage : run.imageNumber run.first ≤ run.imageNumber n ∧
      run.imageNumber n ≤ run.imageNumber run.last := by
    unfold CaseRun.imageNumber
    omega
  rw [CaseRun.reaches, Bool.and_eq_true]
  exact ⟨Nat.ble_eq_true_of_le (Nat.le_trans himage.1 hlast),
    Nat.ble_eq_true_of_le (Nat.le_trans hfirst himage.2)⟩

/-- So a run that is not reached does not hold it. -/
theorem covers_eq_false {run other : CaseRun} {n : Nat} (hn : run.covers n = true)
    (h : run.reaches other.first other.last = true → other.covers (run.imageNumber n) = false) :
    other.covers (run.imageNumber n) = false := by
  by_contra hcovers
  rw [Bool.not_eq_false] at hcovers
  have hbetween : other.first ≤ run.imageNumber n ∧ run.imageNumber n ≤ other.last := by
    rw [CaseRun.covers] at hcovers
    simp only [Bool.and_eq_true, decide_eq_true_eq] at hcovers
    exact hcovers.1
  rw [h (reaches_of_covers hn hbetween.1 hbetween.2)] at hcovers
  cases hcovers

/-- A member of a run is found by counting from the first one. -/
theorem exists_index {run : CaseRun} {n : Nat} (hn : run.covers n = true) :
    ∃ i ∈ List.range (run.last - run.first + 1), run.first + i = n := by
  rw [CaseRun.covers] at hn
  simp only [Bool.and_eq_true, decide_eq_true_eq] at hn
  exact ⟨n - run.first, List.mem_range.mpr (by omega), by omega⟩

/-- The images that a run names are settled. -/
theorem settled_run {run : CaseRun} (hrun : run ∈ upperRuns) {n : Nat} (hn : run.covers n = true) :
    IsSettled (run.imageNumber n) := by
  have hsettles := List.all_eq_true.mp settles_runs run hrun
  rcases exists_index hn with ⟨i, hi, hindex⟩
  have hmember := List.all_eq_true.mp hsettles i hi
  simp only [hindex, hn, Bool.not_true, Bool.false_or, Bool.and_eq_true, decide_eq_true_eq,
    Bool.not_eq_true', List.all_eq_true, List.mem_filter, bne_iff_ne, and_imp] at hmember
  rcases hmember with ⟨⟨⟨hvalid, hblank⟩, hexpansions⟩, hruns⟩
  refine ⟨hvalid, hblank, lookup_eq_none fun e he hsame => ?_, fun other hother => ?_⟩
  · have hreached := reaches_of_covers hn (Nat.le_of_eq hsame) (Nat.le_of_eq hsame.symm)
    exact hexpansions e he hreached hsame
  · exact covers_eq_false hn (hruns other hother)

/-! ## Characters -/

theorem toNat_ofNat {n : Nat} (h : n.isValidChar) : (CodePoint.ofNat n).toNat = n := by
  have hhalf : ¬(CodePoint.firstHalf ≤ n ∧ n - CodePoint.firstHalf < 2048) := by
    unfold CodePoint.firstHalf
    unfold Nat.isValidChar at h
    omega
  rw [CodePoint.ofNat, dif_neg hhalf, CodePoint.toNat, Char.ofNat, dif_pos h]
  rfl

/-- A settled character stays. -/
theorem upperChar_settled {n : Nat} (h : IsSettled n) :
    upperChar (CodePoint.ofNat n) = [CodePoint.ofNat n] := by
  rcases h with ⟨hvalid, _, hexpansions, hruns⟩
  have hnone : upperRuns.find? (·.covers n) = none :=
    List.find?_eq_none.mpr fun run hrun hcovers => by
      rw [hruns run hrun] at hcovers
      cases hcovers
  rw [upperChar, caseImage, toNat_ofNat hvalid, hexpansions]
  simp only [hnone]

/-- A character stays, or has an image of characters that stay and are no white space. -/
theorem upperChar_cases (c : CodePoint) : upperChar c = [c] ∨
    (upperChar c ≠ [] ∧ ∀ d ∈ upperChar c, upperChar d = [d] ∧ isBlank d = false) := by
  rw [upperChar, caseImage]
  cases hexpansion : upperExpansions.lookup c.toNat with
  | some image =>
      have hmem : (c.toNat, image) ∈ upperExpansions := by
        rcases List.lookup_eq_some_iff.mp hexpansion with ⟨before, after, hlist, _⟩
        rw [hlist]
        exact List.mem_append_right before (List.mem_cons_self ..)
      refine .inr ⟨fun hnil => ne_nil_expansions _ hmem (List.map_eq_nil_iff.mp hnil), ?_⟩
      intro d hd
      rcases List.mem_map.mp hd with ⟨n, hn, rfl⟩
      have hsettled := settled_expansions hmem hn
      exact ⟨upperChar_settled hsettled, hsettled.2.1⟩
  | none =>
      cases hrun : upperRuns.find? (·.covers c.toNat) with
      | none => exact .inl rfl
      | some run =>
          have hcovers : run.covers c.toNat = true := by simpa using List.find?_some hrun
          have hsettled := settled_run (List.mem_of_find?_eq_some hrun) hcovers
          refine .inr ⟨List.cons_ne_nil _ _, fun d hd => ?_⟩
          rw [List.mem_singleton.mp hd]
          exact ⟨upperChar_settled hsettled, hsettled.2.1⟩

/-- The image of a character that is no white space holds none. -/
theorem upperChar_visible {c : CodePoint} (h : isBlank c = false) :
    upperChar c ≠ [] ∧ ∀ d ∈ upperChar c, isBlank d = false := by
  rcases upperChar_cases c with hsame | ⟨hne, hall⟩
  · rw [hsame]
    exact ⟨List.cons_ne_nil _ _, fun d hd => by rwa [List.mem_singleton.mp hd]⟩
  · exact ⟨hne, fun d hd => (hall d hd).2⟩

/-! ## Texts -/

variable {t : Text}

theorem upper_cons (c : CodePoint) (t : Text) : upper (c :: t) = upperChar c ++ upper t :=
  List.flatMap_cons

theorem upper_append (a b : Text) : upper (a ++ b) = upper a ++ upper b :=
  List.flatMap_append

theorem upper_eq_self (h : ∀ c ∈ t, upperChar c = [c]) : upper t = t := by
  induction t with
  | nil => rfl
  | cons c rest ih =>
      rcases List.forall_mem_cons.mp h with ⟨hc, hrest⟩
      rw [upper_cons, hc, ih hrest, List.singleton_append]

theorem upper_upperChar (c : CodePoint) : upper (upperChar c) = upperChar c := by
  refine upper_eq_self fun d hd => ?_
  rcases upperChar_cases c with hsame | ⟨_, hall⟩
  · rw [hsame] at hd
    rwa [List.mem_singleton.mp hd]
  · exact (hall d hd).1

/-- A text in upper case is not changed by bringing it into upper case again. -/
theorem upper_upper (t : Text) : upper (upper t) = upper t := by
  induction t with
  | nil => rfl
  | cons c rest ih => rw [upper_cons, upper_append, upper_upperChar, ih]

/-- A text has no white space at either end. -/
structure IsTrimmed (t : Text) : Prop where
  /-- It does not start with white space. -/
  head : ∀ c, t.head? = some c → isBlank c = false
  /-- It does not end with any. -/
  last : ∀ c, t.getLast? = some c → isBlank c = false

theorem trimStart_eq_self (h : ∀ c, t.head? = some c → isBlank c = false) : trimStart t = t := by
  cases t with
  | nil => rfl
  | cons c rest => rw [trimStart, List.dropWhile_cons_of_neg (Bool.eq_false_iff.mp (h c rfl))]

theorem trim_eq_self (h : IsTrimmed t) : trim t = t := by
  have hend : trimStart t.reverse = t.reverse :=
    trimStart_eq_self fun c hc => h.last c (by rwa [List.head?_reverse] at hc)
  rw [trim, trimStart_eq_self h.head, trimEnd, ← trimStart, hend, List.reverse_reverse]

theorem head?_trimStart {c : CodePoint} (h : (trimStart t).head? = some c) : isBlank c = false := by
  have hnot := List.head?_dropWhile_not isBlank t
  rw [← trimStart, h] at hnot
  exact hnot

theorem isTrimmed_trim (t : Text) : IsTrimmed (trim t) := by
  constructor
  case last =>
    intro c hc
    rw [trim, trimEnd, List.getLast?_reverse] at hc
    exact head?_trimStart hc
  case head =>
    intro c hc
    -- What is left at the end of a text starts as the text does.
    have hsplit : trimStart t = trim t ++ ((trimStart t).reverse.takeWhile isBlank).reverse := by
      rw [trim, trimEnd, ← List.reverse_append, List.takeWhile_append_dropWhile, List.reverse_reverse]
    refine head?_trimStart (t := t) ?_
    rw [hsplit, List.head?_append, hc]
    rfl

/-- No white space comes up at the ends of a text that is brought into upper case. -/
theorem IsTrimmed.upper (h : IsTrimmed t) : IsTrimmed (upper t) := by
  constructor
  case head =>
    intro c hc
    cases t with
    | nil => cases hc
    | cons first rest =>
        rcases upperChar_visible (h.head first rfl) with ⟨hne, hall⟩
        rw [upper_cons, List.head?_append_of_ne_nil _ hne] at hc
        exact hall c (List.mem_of_mem_head? hc)
  case last =>
    intro c hc
    rcases List.eq_nil_or_concat t with rfl | ⟨lead, last, rfl⟩
    · cases hc
    · rw [List.concat_eq_append] at h hc
      rcases upperChar_visible (h.last last List.getLast?_concat) with ⟨hne, hall⟩
      have hend : Text.upper [last] = upperChar last := List.append_nil _
      rw [upper_append, hend, List.getLast?_append_of_ne_nil _ hne] at hc
      exact hall c (List.mem_of_getLast? hc)

end Text

end CallSnippets
