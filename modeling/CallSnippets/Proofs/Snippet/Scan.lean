import CallSnippets.Snippet.Check

/-!
# Texts that close what they open

A snippet is put together from texts, and the walk over its characters can be followed from text to
text if each of them leaves the walk as it found it: outside of strings, with the same brackets open,
and with nothing noted. Such texts are called closed. They stay closed when they are put one after the
other, and a pair of brackets around one, or a pair of marks around the inside of a string, is closed
again, so most texts are seen to be closed from how they are made.

Inside of a string the same is asked of a text with regard to the string: the walk is still in it, and
the last character has not taken the next one with it.

Only the line may change on the way, since it counts in messages alone.

## Main definitions

* `specials`, `isInert`: The characters that open or close something, and the other ones.
* `Closed`: A text that leaves the walk as it found it.
* `Inside`: A text that leaves the walk inside of a string.
* `enclosed`: A text between two characters.
* `EndsStatement`: A closed text with the mark behind it that ends a statement.

## Theorems

* `step_inert`, `step_opener`, `step_mark`: Single steps outside of strings.
* `closed_append`, `closed_inert`: Texts that stay closed.
* `closed_bracketed`: A closed text between brackets is closed.
* `closed_string`: The inside of a string between marks is closed.
* `flaws_eq_nil`: A text that ends a statement has no flaws.
-/

namespace CallSnippets

/-- The characters that open or close something. -/
def specials : Text :=
  "'\"`()[]\x7b\x7d"

/-- The character opens and closes nothing. -/
def isInert (c : CodePoint) : Bool :=
  !specials.contains c

/-- A class without special characters has inert ones only. -/
theorem isInert_of_class {p : CodePoint → Bool} (hp : specials.all (fun c => !p c) = true)
    {c : CodePoint} (hc : p c = true) : isInert c = true := by
  simp only [isInert, Bool.not_eq_true', List.contains_eq_mem, decide_eq_false_iff_not]
  intro hmem
  have hnot := List.all_eq_true.mp hp c hmem
  rw [hc] at hnot
  exact absurd hnot (by decide)

theorem ne_of_isInert {c d : CodePoint} (hc : isInert c = true) (hd : isInert d = false) : c ≠ d := by
  intro h
  rw [h, hd] at hc
  exact absurd hc (by decide)

/-- A text between two characters. -/
def enclosed (first last : CodePoint) (t : Text) : Text :=
  first :: t ++ [last]

theorem enclosed_append (first last : CodePoint) (t rest : Text) :
    enclosed first last t ++ rest = first :: (t ++ last :: rest) := by
  rw [enclosed, List.append_assoc, List.singleton_append, List.cons_append]

/-- The text leaves the walk as it found it. -/
def Closed (t : Text) : Prop :=
  ∀ s : ScanState, s.mode = .code → ∃ line, scan s t = { s with line := line }

/-- The text leaves the walk inside of a string with a mark. -/
def Inside (mark : CodePoint) (t : Text) : Prop :=
  ∀ (s : ScanState) (opened : Nat), s.mode = .string mark opened false →
    ∃ line, scan s t = { s with line := line }

theorem scan_append (s : ScanState) (a b : Text) : scan s (a ++ b) = scan (scan s a) b :=
  List.foldl_append

theorem scan_cons (s : ScanState) (c : CodePoint) (t : Text) :
    scan s (c :: t) = scan (s.step c) t := rfl

/-! ## Closed texts -/

theorem closed_nil : Closed [] :=
  fun s _ => ⟨s.line, rfl⟩

theorem closed_append {a b : Text} (ha : Closed a) (hb : Closed b) : Closed (a ++ b) := by
  intro s hs
  rcases ha s hs with ⟨line, heq⟩
  rw [scan_append, heq]
  exact hb { s with line := line } hs

theorem stepCode_inert {s : ScanState} {c : CodePoint} (hc : isInert c = true) : s.stepCode c = s := by
  have hmark : isMark c = false := by
    simp only [isMark, Bool.or_eq_false_iff, decide_eq_false_iff_not]
    exact ⟨⟨ne_of_isInert hc (by decide), ne_of_isInert hc (by decide)⟩,
      ne_of_isInert hc (by decide)⟩
  have hopener : isOpener c = false := by
    simp only [isOpener, Bool.or_eq_false_iff, decide_eq_false_iff_not]
    exact ⟨⟨ne_of_isInert hc (by decide), ne_of_isInert hc (by decide)⟩,
      ne_of_isInert hc (by decide)⟩
  have hcloser : openerOf? c = none := by
    rw [openerOf?, if_neg (ne_of_isInert hc (by decide)), if_neg (ne_of_isInert hc (by decide)),
      if_neg (ne_of_isInert hc (by decide))]
  simp only [ScanState.stepCode, hmark, hopener, hcloser, Bool.false_eq_true, if_false]

section

variable {s : ScanState} {c : CodePoint}

/-- An inert character moves the line at most. -/
theorem step_inert (hs : s.mode = .code) (hc : isInert c = true) :
    s.step c = { s with line := ScanState.lineAt s.line c } := by
  simp only [ScanState.step, hs]
  exact stepCode_inert hc

/-- An opening bracket goes on top of the open ones. -/
theorem step_opener (hs : s.mode = .code) (hmark : isMark c = false) (hopener : isOpener c = true) :
    s.step c = { s with
      line := ScanState.lineAt s.line c, openers := (c, ScanState.lineAt s.line c) :: s.openers } := by
  simp only [ScanState.step, hs, ScanState.stepCode, hmark, hopener, Bool.false_eq_true, if_false,
    if_true]

/-- A mark opens a string. -/
theorem step_mark (hs : s.mode = .code) (hmark : isMark c = true) :
    s.step c = { s with
      line := ScanState.lineAt s.line c, mode := .string c (ScanState.lineAt s.line c) false } := by
  simp only [ScanState.step, hs, ScanState.stepCode, hmark, if_true]

end

theorem closed_inert {t : Text} (h : ∀ c ∈ t, isInert c = true) : Closed t := by
  induction t with
  | nil => exact closed_nil
  | cons c rest ih =>
      intro s hs
      -- The walk goes on from the same state, on the next line at most.
      rw [scan_cons, step_inert hs (h c (List.mem_cons_self ..))]
      exact ih (fun d hd => h d (List.mem_cons_of_mem c hd)) _ hs

/-- The characters are an opening bracket and the one that closes it. -/
def isPair (opener closer : CodePoint) : Bool :=
  !isMark opener && isOpener opener && !isMark closer && !isOpener closer &&
    openerOf? closer = some opener

/-- A closed text between brackets is closed: the closing bracket finds the opening one on top. -/
theorem closed_bracketed {opener closer : CodePoint} {t : Text} (h : isPair opener closer = true)
    (ht : Closed t) : Closed (enclosed opener closer t) := by
  intro s hs
  simp only [isPair, Bool.and_eq_true, Bool.not_eq_true', decide_eq_true_eq] at h
  rcases h with ⟨⟨⟨⟨hmark, hopener⟩, hmark'⟩, hopener'⟩, hcloser⟩
  let line := ScanState.lineAt s.line opener
  -- The text between leaves the opening bracket on top, where the closing one takes it away.
  rcases ht { s with line := line, openers := (opener, line) :: s.openers } hs with ⟨inner, hinner⟩
  refine ⟨ScanState.lineAt inner closer, ?_⟩
  rw [enclosed, List.cons_append, scan_cons, step_opener hs hmark hopener, scan_append, hinner,
    scan_cons]
  simp only [scan, List.foldl_nil, ScanState.step, hs, ScanState.stepCode, hmark', hopener', hcloser,
    Bool.false_eq_true, if_false, if_true]

/-! ## Insides of strings -/

section

variable {mark : CodePoint}

theorem inside_nil : Inside mark [] :=
  fun s _ _ => ⟨s.line, rfl⟩

theorem inside_append {a b : Text} (ha : Inside mark a) (hb : Inside mark b) : Inside mark (a ++ b) := by
  intro s opened hs
  rcases ha s opened hs with ⟨line, heq⟩
  rw [scan_append, heq]
  exact hb { s with line := line } opened hs

/-- A text without marks and backslashes stays inside. -/
theorem inside_plain {t : Text} (h : ∀ c ∈ t, c ≠ mark ∧ c ≠ '\\') : Inside mark t := by
  induction t with
  | nil => exact inside_nil
  | cons c rest ih =>
      intro s opened hs
      rcases h c (List.mem_cons_self ..) with ⟨hmark, hback⟩
      have hstep : s.step c = { s with line := ScanState.lineAt s.line c } := by
        simp only [ScanState.step, hs, ScanState.stepString, Bool.false_eq_true, if_false,
          if_neg hback, if_neg hmark]
      rw [scan_cons, hstep]
      exact ih (fun d hd => h d (List.mem_cons_of_mem c hd)) _ opened hs

/-- A backslash takes the next character with it, whatever it is. -/
theorem inside_escape (c : CodePoint) : Inside mark ['\\', c] := by
  intro s opened hs
  refine ⟨ScanState.lineAt (ScanState.lineAt s.line '\\') c, ?_⟩
  simp only [scan, List.foldl_cons, List.foldl_nil, ScanState.step, hs, ScanState.stepString,
    Bool.false_eq_true, if_false, if_true]

/-- The inside of a string between its marks is closed. -/
theorem closed_string {t : Text} (hmark : isMark mark = true) (hback : mark ≠ '\\')
    (ht : Inside mark t) : Closed (enclosed mark mark t) := by
  intro s hs
  let line := ScanState.lineAt s.line mark
  -- The first mark opens the string, and the walk is inside until the last one.
  rcases ht { s with line := line, mode := .string mark line false } line rfl with ⟨inner, hinner⟩
  refine ⟨ScanState.lineAt inner mark, ?_⟩
  rw [enclosed, List.cons_append, scan_cons, step_mark hs hmark, scan_append, hinner, scan_cons]
  simp only [scan, List.foldl_nil, ScanState.step, ScanState.stepString, Bool.false_eq_true, if_false,
    if_neg hback, if_true, ← hs]

end

/-! ## Flaws -/

/-- The mark that ends a statement. -/
abbrev endMark : CodePoint := ';'

/-- The text is closed and ends a statement. -/
def EndsStatement (t : Text) : Prop :=
  ∃ statement, t = statement ++ [endMark] ∧ Closed statement

theorem endsStatement_append {a b : Text} (ha : Closed a) (hb : EndsStatement b) :
    EndsStatement (a ++ b) := by
  rcases hb with ⟨statement, rfl, hstatement⟩
  exact ⟨a ++ statement, (List.append_assoc ..).symm, closed_append ha hstatement⟩

theorem isTerminated_append (t : Text) : isTerminated (t ++ [endMark]) = true := by
  have hend : Text.isBlank endMark = false := by decide
  have htrim : Text.trimEnd (t ++ [endMark]) = t ++ [endMark] := by
    rw [Text.trimEnd, List.reverse_append, List.reverse_singleton, List.singleton_append,
      List.dropWhile_cons_of_neg (by rw [hend]; decide), List.reverse_cons, List.reverse_reverse]
  rw [isTerminated, htrim]
  exact List.isSuffixOf_iff_suffix.mpr (List.suffix_append t [endMark])

theorem allBlank_append (t : Text) : Text.allBlank (t ++ [endMark]) = false := by
  have hend : Text.isBlank endMark = false := by decide
  simp only [Text.allBlank, List.all_append, List.all_cons, hend, Bool.false_and, Bool.and_false]

/-- A closed text that ends a statement has no flaws. -/
theorem flaws_eq_nil {t : Text} (ht : EndsStatement t) : flaws t = [] := by
  rcases ht with ⟨statement, rfl, hstatement⟩
  -- The walk ends where it started, with no bracket open and nothing noted.
  rcases closed_append hstatement (closed_inert (by decide) : Closed [endMark]) .start rfl with
    ⟨line, hscan⟩
  simp only [flaws, allBlank_append, isTerminated_append, hscan, Bool.false_eq_true, if_false, if_true]
  rfl

end CallSnippets
