import CallSnippets.Proofs.Snippet.Scan

/-!
# Escaped texts

A text is put into a string with a backslash before each single quotation mark. This keeps the mark
from ending the string, unless the text has a backslash of its own there: two backslashes are a pair,
and the mark behind them stands free. So what matters are the runs of backslashes before marks. A run
of even length falls into pairs, and the backslash that is added is the first of a new pair, which the
mark completes. A run of odd length leaves one over, and the added backslash completes its pair.

At the end of the text it is the mark that closes the string which must stand free, so a run there has
to be even as well. Runs anywhere else do no harm, whatever their length.

## Main definitions

* `escapeSingle`: A text with a backslash before each single quotation mark.
* `RunsEven`: The runs of backslashes that matter are even.
* `pairsUp`: The same, found out in one walk.

## Theorems

* `runsEven_iff`: The walk finds out whether the runs are even.
* `inside_escapeSingle`: A text whose runs are even does not leave its string.
-/

namespace CallSnippets

/-- The mark of the strings that are written. -/
abbrev singleMark : CodePoint := '\''

/-- The character that takes the next one with it. -/
abbrev backslash : CodePoint := '\\'

/-- A text with a backslash before each single quotation mark. -/
def escapeSingle (t : Text) : Text :=
  Text.replace '\'' "\\'" t

/-- Every longest run of backslashes that stands right before a single quotation mark or at the end of
    the text is of even length. -/
def RunsEven (t : Text) : Prop :=
  ∀ (before after : Text) (n : Nat), t = before ++ (List.replicate n backslash ++ after) →
    before.getLast? ≠ some backslash → (after = [] ∨ after.head? = some singleMark) → n % 2 = 0

/-- The walk over a text that pairs backslashes with what follows them. No mark may complete a pair, and
    no backslash may be left over; one may be waiting at the start. -/
def pairsUp (waiting : Bool) : Text → Bool
  | [] => !waiting
  | c :: rest =>
    if c = backslash then pairsUp (!waiting) rest
    else if c = singleMark then !waiting && pairsUp false rest
    else pairsUp false rest

/-- A run of backslashes leaves one waiting if it is odd. -/
theorem pairsUp_replicate (n : Nat) (t : Text) :
    pairsUp false (List.replicate n backslash ++ t) = pairsUp (n % 2 == 1) t := by
  -- The walk may come to the run with a backslash waiting, so both states are needed.
  have hrun : ∀ waiting, pairsUp waiting (List.replicate n backslash ++ t) =
      pairsUp (waiting ^^ (n % 2 == 1)) t := by
    induction n with
    | zero => intro waiting; simp
    | succ n ih =>
        intro waiting
        rw [List.replicate_succ, List.cons_append, pairsUp, if_pos rfl, ih]
        congr 1
        rcases Nat.mod_two_eq_zero_or_one n with h | h <;> cases waiting <;> simp [Nat.add_mod, h]
  rw [hrun false, Bool.false_xor]

/-- A walk that goes well goes well behind its first character, where nothing is waiting unless the
    character is a backslash. -/
theorem pairsUp_step {waiting : Bool} {c : CodePoint} {rest : Text}
    (h : pairsUp waiting (c :: rest) = true) :
    ∃ waiting', pairsUp waiting' rest = true ∧ (c ≠ backslash → waiting' = false) := by
  rw [pairsUp] at h
  by_cases hback : c = backslash
  · rw [if_pos hback] at h
    exact ⟨!waiting, h, fun hne => absurd hback hne⟩
  · rw [if_neg hback] at h
    refine ⟨false, ?_, fun _ => rfl⟩
    by_cases hmark : c = singleMark
    · rw [if_pos hmark, Bool.and_eq_true] at h
      exact h.2
    · rwa [if_neg hmark] at h

/-- The walk behind a text that ends in no backslash has nothing waiting. -/
theorem pairsUp_behind {before rest : Text} {waiting : Bool}
    (h : pairsUp waiting (before ++ rest) = true) (hne : before ≠ [])
    (hlast : before.getLast? ≠ some backslash) : pairsUp false rest = true := by
  induction before generalizing waiting with
  | nil => exact absurd rfl hne
  | cons c more ih =>
      rw [List.cons_append] at h
      rcases pairsUp_step h with ⟨waiting', hmore, hwaiting⟩
      cases more with
      | nil =>
          rw [List.getLast?_singleton, ne_eq, Option.some.injEq] at hlast
          rwa [hwaiting hlast] at hmore
      | cons d tail =>
          rw [List.getLast?_cons_cons] at hlast
          exact ih hmore (List.cons_ne_nil d tail) hlast

/-- The runs behind a character that is no backslash are runs of the whole text. -/
theorem runsEven_behind {before t : Text} {c : CodePoint} (hc : c ≠ backslash)
    (h : RunsEven (before ++ c :: t)) : RunsEven t := by
  intro first after n heq hlast hafter
  refine h (before ++ c :: first) after n ?_ ?_ hafter
  · rw [heq, List.append_assoc, List.cons_append]
  · rw [List.getLast?_append, List.getLast?_cons]
    cases hfirst : first.getLast? with
    | none => simpa using hc
    | some d =>
        rw [hfirst] at hlast
        simpa using hlast

/-- Even runs fall into pairs. -/
theorem pairsUp_of_runsEven {t : Text} {n : Nat} (h : RunsEven (List.replicate n backslash ++ t)) :
    pairsUp (n % 2 == 1) t = true := by
  induction t generalizing n with
  | nil =>
      have heven : n % 2 = 0 := h [] [] n rfl (by decide) (.inl rfl)
      rw [heven]
      rfl
  | cons c rest ih =>
      rw [pairsUp]
      by_cases hback : c = backslash
      -- A backslash makes the run in front longer by one.
      · have hlonger : RunsEven (List.replicate (n + 1) backslash ++ rest) := by
          rw [hback] at h
          rw [List.replicate_succ', List.append_assoc, List.singleton_append]
          exact h
        have hodd : ((n + 1) % 2 == 1) = !(n % 2 == 1) := by
          rcases Nat.mod_two_eq_zero_or_one n with hn | hn <;> simp [Nat.add_mod, hn]
        rw [if_pos hback, ← hodd]
        exact ih hlonger
      -- Any other character ends the run, which matters before a mark only.
      · have hrest : pairsUp false rest = true := ih (n := 0) (runsEven_behind hback h)
        rw [if_neg hback, hrest, Bool.and_true]
        by_cases hmark : c = singleMark
        · have heven : n % 2 = 0 := h [] (c :: rest) n rfl (by decide) (.inr (by rw [hmark]; rfl))
          rw [if_pos hmark, heven]
          rfl
        · rw [if_neg hmark]

/-- The walk finds out whether the runs are even. -/
theorem runsEven_iff {t : Text} : RunsEven t ↔ pairsUp false t = true := by
  refine ⟨fun h => pairsUp_of_runsEven (n := 0) h, fun h before after n heq hlast hafter => ?_⟩
  have hrun : pairsUp false (List.replicate n backslash ++ after) = true := by
    rw [heq] at h
    cases before with
    | nil => exact h
    | cons c more => exact pairsUp_behind h (List.cons_ne_nil c more) hlast
  rw [pairsUp_replicate] at hrun
  -- Behind the run is the end or a mark, and neither may find a backslash waiting.
  have hnone : (n % 2 == 1) = false := by
    rcases hafter with rfl | hmark
    · simpa only [pairsUp, Bool.not_eq_true'] using hrun
    · cases after with
      | nil => exact absurd hmark (by decide)
      | cons c rest =>
          rw [List.head?_cons, Option.some.injEq] at hmark
          rw [hmark, pairsUp, if_neg (by decide), if_pos rfl, Bool.and_eq_true,
            Bool.not_eq_true'] at hrun
          exact hrun.1
  have hne : n % 2 ≠ 1 := by simpa using hnone
  omega

instance (t : Text) : Decidable (RunsEven t) :=
  decidable_of_iff _ runsEven_iff.symm

/-! ## Strings -/

theorem escapeSingle_cons (c : CodePoint) (rest : Text) :
    escapeSingle (c :: rest) =
      (if c = singleMark then [backslash, singleMark] else [c]) ++ escapeSingle rest := rfl

/-- A text without marks needs no backslashes. -/
theorem escapeSingle_eq_self {t : Text} (h : singleMark ∉ t) : escapeSingle t = t := by
  induction t with
  | nil => rfl
  | cons c rest ih =>
      rw [List.mem_cons, not_or] at h
      rw [escapeSingle_cons, if_neg (Ne.symm h.1), ih h.2, List.singleton_append]

/-- The walk over an escaped text in a string ends in the string, with nothing waiting. -/
theorem scan_escapeSingle {t : Text} {waiting : Bool} (h : pairsUp waiting t = true) :
    ∀ (s : ScanState) (opened : Nat), s.mode = .string singleMark opened waiting →
      ∃ line, scan s (escapeSingle t) =
        { s with mode := .string singleMark opened false, line := line } := by
  induction t generalizing waiting with
  | nil =>
      intro s opened hs
      simp only [pairsUp, Bool.not_eq_true'] at h
      rw [h] at hs
      exact ⟨s.line, by rw [← hs]; rfl⟩
  | cons c rest ih =>
      intro s opened hs
      rw [pairsUp] at h
      rw [escapeSingle_cons]
      by_cases hback : c = backslash
      -- A backslash waits for its pair, or completes one.
      · have hstep : s.step c = { s with
            mode := .string singleMark opened (!waiting), line := ScanState.lineAt s.line c } := by
          cases waiting with
          | true => simp only [ScanState.step, hs, ScanState.stepString, if_true, Bool.not_true]
          | false =>
              simp only [ScanState.step, hs, ScanState.stepString, Bool.false_eq_true, if_false,
                if_pos hback, Bool.not_false]
        rw [if_pos hback] at h
        rw [if_neg (by rw [hback]; decide), List.singleton_append, scan_cons, hstep]
        exact ih h _ opened rfl
      · rw [if_neg hback] at h
        by_cases hmark : c = singleMark
        · rw [if_pos hmark, Bool.and_eq_true, Bool.not_eq_true'] at h
          rw [if_pos hmark, scan_append]
          -- The mark and the backslash that is added before it are a pair of their own.
          have hpair : Inside singleMark [backslash, singleMark] := inside_escape singleMark
          rcases hpair s opened (by rw [hs, h.1]) with ⟨line, hline⟩
          rw [hline]
          exact ih h.2 _ opened (by rw [hs, h.1])
        · have hstep : s.step c = { s with
              mode := .string singleMark opened false, line := ScanState.lineAt s.line c } := by
            cases waiting with
            | true => simp only [ScanState.step, hs, ScanState.stepString, if_true]
            | false =>
                simp only [ScanState.step, hs, ScanState.stepString, Bool.false_eq_true, if_false,
                  if_neg hback, if_neg hmark]
          rw [if_neg hmark] at h
          rw [if_neg hmark, List.singleton_append, scan_cons, hstep]
          exact ih h _ opened rfl

/-- A text whose runs are even does not leave its string. -/
theorem inside_escapeSingle {t : Text} (h : RunsEven t) : Inside singleMark (escapeSingle t) := by
  intro s opened hs
  rcases scan_escapeSingle (runsEven_iff.mp h) s opened hs with ⟨line, hline⟩
  exact ⟨line, by rw [hline, ← hs]⟩

end CallSnippets
