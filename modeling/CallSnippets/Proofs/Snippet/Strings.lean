import CallSnippets.Proofs.Grammar.JavaScript
import CallSnippets.Proofs.Snippet.Nested

/-!
# Strings that end with their last mark

A value is put between two single marks, with a backslash before each single mark of its own. The walk
over the characters then reads one string from the first of the two marks to the second if and only if the
runs of backslashes in the value that matter are even. If one of them is odd, the string ends too early, at
a mark of the value, or not at all, because the last mark is taken by a backslash.

That the walk is inside of a string all the way is said of every part that the text starts with. Such a
part may end between a backslash and the character that it takes with it, so two kinds of parts have to be
told apart; they differ in one backslash at the end.

## Main definitions

* `ReadsOneString`: The walk reads a text as one string.

## Theorems

* `stringText_cons_iff`, `stringText_escape_iff`: The first character of what stands between two marks.
* `StringText.start`: What such a text starts with.
* `scan_unfinished`: The walk over a string that is not at its end.
* `readsOneString_iff`: A text between marks is read as one string if it may stand between them.
* `stringText_escapeSingle`: An escaped value may stand between marks if its runs are even.
* `readsOneString_escape`: When an escaped value is read as one string.
-/

namespace CallSnippets

variable {mark c : CodePoint} {t rest part : Text}

/-! ## What stands between marks -/

theorem stringText_cons_iff (hback : c ≠ backslash) :
    StringText mark (c :: rest) ↔ c ≠ mark ∧ StringText mark rest := by
  constructor
  · intro h
    cases h with
    | plain hmark _ hrest => exact ⟨hmark, hrest⟩
    | escape _ => exact absurd rfl hback
  · intro h
    exact .plain h.1 hback h.2

theorem stringText_escape_iff : StringText mark (backslash :: c :: rest) ↔ StringText mark rest := by
  constructor
  · intro h
    cases h with
    | plain _ hback _ => exact absurd rfl hback
    | escape hrest => exact hrest
  · exact .escape

theorem not_stringText_backslash : ¬StringText mark [backslash] := by
  intro h
  cases h with
  | plain _ hback _ => exact hback rfl

/-- A text that may stand between marks starts with such texts, and with such texts that have the backslash
    of an escape behind them. -/
theorem StringText.start (h : StringText mark t) (hpart : part <+: t) :
    ∃ whole escaped, part = whole ++ pending escaped ∧ StringText mark whole := by
  induction h generalizing part with
  | nil => exact ⟨[], false, List.prefix_nil.mp hpart, .nil⟩
  | @plain c rest hmark hback _ ih =>
      rcases List.prefix_cons_iff.mp hpart with rfl | ⟨more, rfl, hmore⟩
      · exact ⟨[], false, rfl, .nil⟩
      rcases ih hmore with ⟨whole, escaped, rfl, hwhole⟩
      exact ⟨c :: whole, escaped, rfl, .plain hmark hback hwhole⟩
  | @escape c rest _ ih =>
      -- The part may end before the escape, between its two characters, or behind it.
      rcases List.prefix_cons_iff.mp hpart with rfl | ⟨behind, rfl, hbehind⟩
      · exact ⟨[], false, rfl, .nil⟩
      rcases List.prefix_cons_iff.mp hbehind with rfl | ⟨more, rfl, hmore⟩
      · exact ⟨[], true, rfl, .nil⟩
      rcases ih hmore with ⟨whole, escaped, rfl, hwhole⟩
      exact ⟨backslash :: c :: whole, escaped, rfl, .escape hwhole⟩

/-- In a string the walk stays there over such a text, and knows whether a backslash is waiting. -/
theorem scan_unfinished {s : ScanState} {opened : Nat} (hmode : s.mode = .string mark opened false)
    (h : StringText mark t) (escaped : Bool) :
    ∃ line, scan s (t ++ pending escaped) =
      { s with mode := .string mark opened escaped, line := line } := by
  rcases h.inside s opened hmode with ⟨line, hscan⟩
  cases escaped with
  | false =>
      refine ⟨line, ?_⟩
      have hnothing : pending false = [] := rfl
      rw [hnothing, List.append_nil, hscan, ← hmode]
  | true =>
      refine ⟨ScanState.lineAt line backslash, ?_⟩
      rw [scan_append, hscan]
      have hstep : ({ s with line := line } : ScanState).step backslash = { s with
          mode := .string mark opened true, line := ScanState.lineAt line backslash } := by
        simp only [ScanState.step, hmode, ScanState.stepString, Bool.false_eq_true, if_false, if_true]
      exact hstep

/-! ## Texts between marks -/

/-- The walk reads the text as one string with a mark: it is in the string behind each part that the text
    starts with, and out of it behind the whole text, where it is as it was before but for the line. -/
def ReadsOneString (mark : CodePoint) (t : Text) : Prop :=
  Closed t ∧ ∀ (s : ScanState) (part rest : Text), s.mode = .code → t = part ++ rest → part ≠ [] →
    rest ≠ [] → ∃ opened escaped, (scan s part).mode = .string mark opened escaped

theorem ReadsOneString.stringText (hmark : mark ∈ quoteMarks)
    (h : ReadsOneString mark (enclosed mark mark t)) : StringText mark t := by
  rcases h with ⟨hclosed, hinside⟩
  -- Behind the first mark the walk ends well, so the text has an end of the string in it.
  have hstep := step_mark (s := .start) rfl (isMark_iff.mpr hmark)
  rcases hclosed .start rfl with ⟨line, hscan⟩
  rw [enclosed, List.cons_append, scan_cons] at hscan
  have hneeds : (ScanState.start.step mark).Needs (t ++ [mark]) :=
    needs_scan (by rw [hscan]; rfl) (by rw [hscan]; rfl) (by rw [hscan, hstep])
  rw [hstep] at hneeds
  rcases hneeds with ⟨inner, rest, hsplit, hinner, _⟩
  have hinner : StringText mark inner := hinner
  -- Were there more behind this end, the walk would be out of the string before the last mark.
  have hrest : rest = [] := by
    by_contra hne
    have hwhole : enclosed mark mark t = enclosed mark mark inner ++ rest := by
      rw [enclosed_append, ← hsplit]
      rfl
    have hstring := closed_string (isMark_iff.mpr hmark) (ne_backslash_of_mark hmark) hinner.inside
    rcases hstring .start rfl with ⟨line', hscan'⟩
    rcases hinside .start _ rest rfl hwhole (List.cons_ne_nil _ _) hne with ⟨opened, escaped, hmode⟩
    rw [hscan'] at hmode
    cases hmode
  rw [hrest] at hsplit
  rw [List.append_cancel_right hsplit]
  exact hinner

theorem StringText.readsOneString (h : StringText mark t) (hmark : mark ∈ quoteMarks) :
    ReadsOneString mark (enclosed mark mark t) := by
  refine ⟨closed_string (isMark_iff.mpr hmark) (ne_backslash_of_mark hmark) h.inside, ?_⟩
  intro s part rest hmode hsplit hpart hrest
  cases part with
  | nil => exact absurd rfl hpart
  | cons first part =>
      rw [enclosed, List.cons_append, List.cons_append, List.cons.injEq] at hsplit
      rcases hsplit with ⟨rfl, hsplit⟩
      -- What is left is not empty, so it ends in the last mark.
      have hprefix : part <+: t := by
        rcases List.eq_nil_or_concat rest with rfl | ⟨lead, last, rfl⟩
        · exact absurd rfl hrest
        · rw [List.concat_eq_append, ← List.append_assoc] at hsplit
          exact ⟨lead, (List.append_inj' hsplit rfl).1.symm⟩
      rcases h.start hprefix with ⟨whole, escaped, rfl, hwhole⟩
      have hstep := step_mark hmode (isMark_iff.mpr hmark)
      have hopened : (s.step mark).mode = .string mark (ScanState.lineAt s.line mark) false := by
        rw [hstep]
      rcases scan_unfinished hopened hwhole escaped with ⟨line, hscan⟩
      rw [scan_cons, hscan]
      exact ⟨_, escaped, rfl⟩

/-- A text between marks is read as one string if and only if it may stand between them. -/
theorem readsOneString_iff (hmark : mark ∈ quoteMarks) :
    ReadsOneString mark (enclosed mark mark t) ↔ StringText mark t :=
  ⟨fun h => h.stringText hmark, fun h => h.readsOneString hmark⟩

/-! ## Escaped values -/

/-- An escaped value may stand behind the backslash that is waiting, or behind none, if the walk that pairs
    backslashes goes well. -/
theorem stringText_pending (waiting : Bool) (v : Text) :
    StringText singleMark (pending waiting ++ escapeSingle v) ↔ pairsUp waiting v = true := by
  induction v generalizing waiting with
  | nil =>
      cases waiting with
      | false => exact iff_of_true .nil rfl
      | true => exact iff_of_false not_stringText_backslash Bool.false_ne_true
  | cons c rest ih =>
      have hfree : StringText singleMark (escapeSingle rest) ↔ pairsUp false rest = true := ih false
      rw [pairsUp, escapeSingle_cons]
      by_cases hback : c = backslash
      · have hother : ¬c = singleMark := by
          rw [hback]
          decide
        rw [if_pos hback, if_neg hother, ← ih (!waiting), hback]
        cases waiting with
        | false => exact Iff.rfl
        | true => exact stringText_escape_iff
      · rw [if_neg hback]
        by_cases hmark : c = singleMark
        · rw [if_pos hmark, if_pos hmark, Bool.and_eq_true, ← hfree]
          cases waiting with
          | false =>
              exact stringText_escape_iff.trans (and_iff_right rfl).symm
          | true =>
              -- The backslash that is added completes a pair, so the mark stands free.
              have hloose : ¬StringText singleMark (singleMark :: escapeSingle rest) :=
                fun h => ((stringText_cons_iff (by decide)).mp h).1 rfl
              exact iff_of_false (fun h => hloose (stringText_escape_iff.mp h))
                (fun h => Bool.false_ne_true h.1)
        · rw [if_neg hmark, if_neg hmark, ← hfree]
          cases waiting with
          | false => exact (stringText_cons_iff hback).trans (and_iff_right hmark)
          | true => exact stringText_escape_iff

/-- An escaped value may stand between single marks if and only if its runs are even. -/
theorem stringText_escapeSingle {v : Text} : StringText singleMark (escapeSingle v) ↔ RunsEven v :=
  (stringText_pending false v).trans runsEven_iff.symm

/-- A value between single marks, escaped as in JavaScript, is read as one string that ends with the last
    mark if and only if every longest run of backslashes in it that stands right before a single mark or at
    its end is of even length. -/
theorem readsOneString_escape (v : Text) :
    ReadsOneString singleMark (enclosed singleMark singleMark (javaScript.escape v)) ↔ RunsEven v := by
  have hescape : javaScript.escape v = escapeSingle v := JavaScript.escape_javaScript v
  rw [hescape, readsOneString_iff (by decide), stringText_escapeSingle]

end CallSnippets
