import CallSnippets.Proofs.Snippet.Escaped
import Mathlib.Data.List.TakeWhile
import Mathlib.Tactic.SplitIfs

/-!
# Nested texts

The language of the texts that the check of a snippet finds nothing wrong with, given by its rules and
without regard to any walk. A text is nested if it is a row of parts, each of which is a character that
opens and closes nothing, a nested text between two brackets that fit, or a string between two equal
marks.

Every nested text is closed, by its structure. For the other way the walk is read from its end. Each
state asks something of the text that is still to come: a bracket that is open asks for a nested text and
the bracket that closes it, and a string asks for its end. A walk that ends outside of strings with no
bracket open, and that notes nothing, has got at each step what its state asked for. At the start nothing
is asked but that the text is nested.

What was noted once stays noted, so a walk that ends with nothing noted has noted nothing on its way.

## Main definitions

* `brackets`, `quoteMarks`: The brackets and the marks of strings.
* `StringText`: What may stand between two marks.
* `Nested`: The nested texts.
* `ClosesAll`: A text closes the brackets that are open, one after the other.
* `ScanState.Needs`: A text is what a state of the walk asks for.

## Theorems

* `Nested.closed`: A nested text is closed.
* `unmatched_scan`: What was noted stays noted.
* `step_code`, `step_string`: What one step can do outside of strings and in them.
* `needs_step`, `needs_scan`: What one step and what a whole walk ask for.
* `closed_iff_nested`: The closed texts are the nested ones.
* `flawMessages_eq_nil_iff`: When a text has no flaws.
-/

namespace CallSnippets

/-- The brackets, each with the one that closes it. -/
def brackets : List (CodePoint × CodePoint) :=
  [('(', ')'), ('[', ']'), ('{', '}')]

/-- The marks that strings stand between. -/
def quoteMarks : Text :=
  "'\"`"

/-- What may stand between two marks: characters other than the mark and the backslash, and backslashes
    with one more character each, whatever that is. -/
inductive StringText (mark : CodePoint) : Text → Prop where
  | nil : StringText mark []
  /-- A character that stands for itself. -/
  | plain {c : CodePoint} {rest : Text} (hmark : c ≠ mark) (hback : c ≠ backslash)
      (hrest : StringText mark rest) : StringText mark (c :: rest)
  /-- A backslash and the character that it takes with it. -/
  | escape {c : CodePoint} {rest : Text} (hrest : StringText mark rest) :
      StringText mark (backslash :: c :: rest)

/-- The texts whose brackets fit and whose strings end. -/
inductive Nested : Text → Prop where
  | nil : Nested []
  /-- A character that is neither a bracket nor a mark. -/
  | other {c : CodePoint} {rest : Text} (hc : c ∉ specials) (hrest : Nested rest) :
      Nested (c :: rest)
  /-- A nested text between brackets that fit. -/
  | bracketed {opener closer : CodePoint} {inner rest : Text} (hpair : (opener, closer) ∈ brackets)
      (hinner : Nested inner) (hrest : Nested rest) : Nested (enclosed opener closer inner ++ rest)
  /-- A string between two equal marks. -/
  | string {mark : CodePoint} {inner rest : Text} (hmark : mark ∈ quoteMarks)
      (hinner : StringText mark inner) (hrest : Nested rest) :
      Nested (enclosed mark mark inner ++ rest)

section

variable {mark : CodePoint} {a b t : Text}

theorem StringText.append (ha : StringText mark a) (hb : StringText mark b) :
    StringText mark (a ++ b) := by
  induction ha with
  | nil => exact hb
  | plain hmark hback hrest ih => exact .plain hmark hback ih
  | escape hrest ih => exact .escape ih

theorem stringText_plain (h : ∀ c ∈ t, c ≠ mark ∧ c ≠ backslash) : StringText mark t := by
  induction t with
  | nil => exact .nil
  | cons c rest ih =>
      rcases h c (List.mem_cons_self ..) with ⟨hmark, hback⟩
      exact .plain hmark hback (ih fun d hd => h d (List.mem_cons_of_mem c hd))

end

/-! ## Nested texts are closed -/

theorem StringText.inside {mark : CodePoint} {t : Text} (h : StringText mark t) : Inside mark t := by
  induction h with
  | nil => exact inside_nil
  | plain hmark hback hrest ih =>
      rename_i c rest
      have hc : Inside mark [c] := inside_plain (by simpa using ⟨hmark, hback⟩)
      exact inside_append hc ih
  | escape hrest ih => exact inside_append (inside_escape _) ih

theorem isPair_of_mem {opener closer : CodePoint} (h : (opener, closer) ∈ brackets) :
    isPair opener closer = true := by
  have hall : ∀ p ∈ brackets, isPair p.1 p.2 = true := by decide
  exact hall (opener, closer) h

theorem isMark_iff {c : CodePoint} : isMark c = true ↔ c ∈ quoteMarks := by
  have hmarks : quoteMarks = [.char '\'', .char '"', .char '`'] := by decide
  rw [hmarks]
  simp only [isMark, Bool.or_eq_true, decide_eq_true_eq, List.mem_cons, List.not_mem_nil, or_false,
    or_assoc]

theorem isOpener_iff {c : CodePoint} : isOpener c = true ↔ ∃ closer, (c, closer) ∈ brackets := by
  simp only [isOpener, brackets, Bool.or_eq_true, decide_eq_true_eq, List.mem_cons, Prod.mk.injEq,
    List.not_mem_nil, or_false, or_assoc, exists_or, exists_and_left, exists_eq, and_true]

theorem mem_of_openerOf? {opener closer : CodePoint} (h : openerOf? closer = some opener) :
    (opener, closer) ∈ brackets := by
  rw [openerOf?] at h
  split_ifs at h with hround hsquare hcurly
  · rw [hround, ← Option.some.inj h]
    decide
  · rw [hsquare, ← Option.some.inj h]
    decide
  · rw [hcurly, ← Option.some.inj h]
    decide

theorem not_special {c : CodePoint} (hmark : ¬isMark c = true) (hopener : ¬isOpener c = true)
    (hcloser : openerOf? c = none) : c ∉ specials := by
  have hall : ∀ d ∈ specials, isMark d = true ∨ isOpener d = true ∨ openerOf? d ≠ none := by decide
  intro hmem
  rcases hall c hmem with h | h | h
  · exact hmark h
  · exact hopener h
  · exact h hcloser

theorem ne_backslash_of_mark {c : CodePoint} (h : c ∈ quoteMarks) : c ≠ backslash := by
  rintro rfl
  exact absurd h (by decide)

theorem isInert_iff {c : CodePoint} : isInert c = true ↔ c ∉ specials := by
  simp only [isInert, Bool.not_eq_true', List.contains_eq_mem, decide_eq_false_iff_not]

/-- A nested text is closed. -/
theorem Nested.closed {t : Text} (h : Nested t) : Closed t := by
  induction h with
  | nil => exact closed_nil
  | other hc hrest ih =>
      rename_i c rest
      have hinert : Closed [c] := closed_inert (by simpa using isInert_iff.mpr hc)
      exact closed_append hinert ih
  | bracketed hpair hinner hrest ihinner ihrest =>
      exact closed_append (closed_bracketed (isPair_of_mem hpair) ihinner) ihrest
  | string hmark hinner hrest ih =>
      have hstring := closed_string (isMark_iff.mpr hmark) (ne_backslash_of_mark hmark) hinner.inside
      exact closed_append hstring ih

/-! ## What a state of the walk asks for -/

/-- The text closes the brackets that are open, the innermost first, and is nested in between. -/
def ClosesAll : List CodePoint → Text → Prop
  | [], t => Nested t
  | opener :: outer, t => ∃ inner closer rest, t = inner ++ closer :: rest ∧ Nested inner ∧
      (opener, closer) ∈ brackets ∧ ClosesAll outer rest

/-- What keeps a text nested that it is put before does so for any open brackets. -/
theorem ClosesAll.append {a t : Text} {openers : List CodePoint} (h : ClosesAll openers t)
    (ha : ∀ rest, Nested rest → Nested (a ++ rest)) : ClosesAll openers (a ++ t) := by
  cases openers with
  | nil => exact ha t h
  | cons opener outer =>
      rcases h with ⟨inner, closer, rest, rfl, hinner, hpair, hrest⟩
      exact ⟨a ++ inner, closer, rest, (List.append_assoc ..).symm, ha inner hinner, hpair, hrest⟩

/-- The backslash that takes the next character with it, if there is one. -/
def pending (escaped : Bool) : Text :=
  if escaped then [backslash] else []

/-- The text is what a state of the walk needs to end well: inside of a string the rest of the string
    comes first. -/
def ScanState.Needs (s : ScanState) (t : Text) : Prop :=
  match s.mode with
  | .code => ClosesAll (s.openers.map Prod.fst) t
  | .string mark _ escaped => ∃ inner rest, t = inner ++ mark :: rest ∧
      StringText mark (pending escaped ++ inner) ∧ ClosesAll (s.openers.map Prod.fst) rest

section

variable {s : ScanState} {c : CodePoint} {t : Text}

/-- What the walk does with a character outside of strings: a mark opens a string, an opening bracket is
    put on top, a character that is neither changes nothing, and a closing bracket takes away the bracket
    on top if it fits, and is noted if it does not. -/
theorem step_code (hmode : s.mode = .code) :
    (c ∈ quoteMarks ∧ s.step c = { s with
        mode := .string c (ScanState.lineAt s.line c) false, line := ScanState.lineAt s.line c }) ∨
      ((∃ closer, (c, closer) ∈ brackets) ∧ s.step c = { s with
        openers := (c, ScanState.lineAt s.line c) :: s.openers, line := ScanState.lineAt s.line c }) ∨
      (c ∉ specials ∧ s.step c = { s with line := ScanState.lineAt s.line c }) ∨
      (∃ opener line outer, s.openers = (opener, line) :: outer ∧ (opener, c) ∈ brackets ∧
        s.step c = { s with openers := outer, line := ScanState.lineAt s.line c }) ∨
      ((∃ opener, (opener, c) ∈ brackets ∧ s.openers.head?.map Prod.fst ≠ some opener) ∧
        s.step c = { s with
          unmatched := (c, ScanState.lineAt s.line c) :: s.unmatched,
          line := ScanState.lineAt s.line c }) := by
  simp only [ScanState.step, hmode, ScanState.stepCode]
  by_cases hmark : isMark c = true
  · rw [if_pos hmark]
    exact .inl ⟨isMark_iff.mp hmark, rfl⟩
  rw [if_neg hmark]
  by_cases hopener : isOpener c = true
  · rw [if_pos hopener]
    exact .inr (.inl ⟨isOpener_iff.mp hopener, rfl⟩)
  rw [if_neg hopener]
  cases hcloser : openerOf? c with
  | none => exact .inr (.inr (.inl ⟨not_special hmark hopener hcloser, rfl⟩))
  | some opener =>
      have hpair := mem_of_openerOf? hcloser
      refine .inr (.inr (.inr ?_))
      cases hopeners : s.openers with
      | nil => exact .inr ⟨⟨opener, hpair, by simp⟩, rfl⟩
      | cons top outer =>
          rcases top with ⟨top, line⟩
          simp only
          by_cases htop : top = opener
          · rw [if_pos htop, htop]
            exact .inl ⟨opener, line, outer, rfl, hpair, rfl⟩
          · rw [if_neg htop]
            exact .inr ⟨⟨opener, hpair, by simpa using htop⟩, rfl⟩

/-- What the walk does with a character inside of a string: it is taken by the backslash before it, or it
    is a backslash that takes the next one, or it ends the string, or it stands for itself. -/
theorem step_string {mark : CodePoint} {line : Nat} {escaped : Bool}
    (hmode : s.mode = .string mark line escaped) :
    (escaped = true ∧ s.step c = { s with
        mode := .string mark line false, line := ScanState.lineAt s.line c }) ∨
      (escaped = false ∧ c = backslash ∧ s.step c = { s with
        mode := .string mark line true, line := ScanState.lineAt s.line c }) ∨
      (escaped = false ∧ c = mark ∧ s.step c = { s with
        mode := .code, line := ScanState.lineAt s.line c }) ∨
      (escaped = false ∧ c ≠ backslash ∧ c ≠ mark ∧
        s.step c = { s with line := ScanState.lineAt s.line c }) := by
  simp only [ScanState.step, hmode, ScanState.stepString]
  cases escaped with
  | true => exact .inl ⟨rfl, rfl⟩
  | false =>
      rw [if_neg Bool.false_ne_true]
      by_cases hback : c = backslash
      · rw [if_pos hback]
        exact .inr (.inl ⟨rfl, hback, rfl⟩)
      rw [if_neg hback]
      by_cases hmark : c = mark
      · rw [if_pos hmark]
        exact .inr (.inr (.inl ⟨rfl, hmark, rfl⟩))
      · rw [if_neg hmark]
        exact .inr (.inr (.inr ⟨rfl, hback, hmark, rfl⟩))

theorem unmatched_step (s : ScanState) (c : CodePoint) : s.unmatched <:+ (s.step c).unmatched := by
  cases hmode : s.mode with
  | code =>
      rcases step_code (c := c) hmode with ⟨_, h⟩ | ⟨_, h⟩ | ⟨_, h⟩ | ⟨_, _, _, _, _, h⟩ | ⟨_, h⟩
      -- Only the last step notes something, and it puts it before what there is.
      case inr.inr.inr.inr =>
        rw [h]
        exact List.suffix_cons _ _
      all_goals
        rewrite [h]
        exact List.suffix_refl _
  | string mark line escaped =>
      rcases step_string (c := c) hmode with ⟨_, h⟩ | ⟨_, _, h⟩ | ⟨_, _, h⟩ | ⟨_, _, _, h⟩
      all_goals
        rewrite [h]
        exact List.suffix_refl _

theorem unmatched_scan (s : ScanState) (t : Text) : s.unmatched <:+ (scan s t).unmatched := by
  induction t generalizing s with
  | nil => exact List.suffix_refl _
  | cons c rest ih =>
      rw [scan_cons]
      exact (unmatched_step s c).trans (ih (s.step c))

/-- What a state needs is made from what the state behind the next character needs, unless that
    character is noted. -/
theorem needs_step (hnoted : (s.step c).unmatched = s.unmatched) (h : (s.step c).Needs t) :
    s.Needs (c :: t) := by
  cases hmode : s.mode with
  | code =>
      simp only [ScanState.Needs, hmode]
      rcases step_code (c := c) hmode with
        ⟨hmark, hstep⟩ | ⟨_, hstep⟩ | ⟨hother, hstep⟩ | ⟨opener, line, outer, hopeners, hpair, hstep⟩ |
          ⟨_, hstep⟩
      -- A mark opens a string, which the text ends before it goes on.
      · simp only [hstep, ScanState.Needs, pending] at h
        rcases h with ⟨inner, rest, rfl, hinner, hrest⟩
        rw [← enclosed_append]
        exact hrest.append fun more hmore => .string hmark hinner hmore
      -- A bracket is open from here on, and the text closes it first of all.
      · simp only [hstep, ScanState.Needs, hmode, List.map_cons] at h
        rcases h with ⟨inner, closer, rest, rfl, hinner, hpair, hrest⟩
        rw [← enclosed_append]
        exact hrest.append fun more hmore => .bracketed hpair hinner hmore
      · simp only [hstep, ScanState.Needs, hmode] at h
        exact h.append (a := [c]) fun more hmore => .other hother hmore
      -- The bracket on top is closed with nothing in between.
      · simp only [hstep, ScanState.Needs, hmode] at h
        rw [hopeners, List.map_cons]
        exact ⟨[], c, t, rfl, .nil, hpair, h⟩
      · rw [hstep] at hnoted
        exact absurd hnoted (List.cons_ne_self _ _)
  | string mark line escaped =>
      simp only [ScanState.Needs, hmode]
      rcases step_string (c := c) hmode with
        ⟨rfl, hstep⟩ | ⟨rfl, rfl, hstep⟩ | ⟨rfl, rfl, hstep⟩ | ⟨rfl, hback, hmark, hstep⟩
      · simp only [hstep, ScanState.Needs, pending] at h
        rcases h with ⟨inner, rest, rfl, hinner, hrest⟩
        exact ⟨c :: inner, rest, rfl, .escape hinner, hrest⟩
      · simp only [hstep, ScanState.Needs, pending] at h
        rcases h with ⟨inner, rest, rfl, hinner, hrest⟩
        exact ⟨backslash :: inner, rest, rfl, hinner, hrest⟩
      · simp only [hstep, ScanState.Needs] at h
        exact ⟨[], t, rfl, .nil, h⟩
      · simp only [hstep, ScanState.Needs, hmode] at h
        rcases h with ⟨inner, rest, rfl, hinner, hrest⟩
        exact ⟨c :: inner, rest, rfl, .plain hmark hback hinner, hrest⟩

/-- A walk that ends well has got what its first state needs. -/
theorem needs_scan (hmode : (scan s t).mode = .code) (hopeners : (scan s t).openers = [])
    (hnoted : (scan s t).unmatched = s.unmatched) : s.Needs t := by
  induction t generalizing s with
  | nil =>
      rw [scan, List.foldl_nil] at hmode hopeners
      simp only [ScanState.Needs, hmode, hopeners]
      exact .nil
  | cons c rest ih =>
      rw [scan_cons] at hmode hopeners hnoted
      -- What is noted only grows, so a walk that ends as it started has noted nothing in between.
      have hstep : (s.step c).unmatched = s.unmatched := by
        have hless := (unmatched_step s c).length_le
        have hmore := unmatched_scan (s.step c) rest
        rw [hnoted] at hmore
        exact hmore.eq_of_length_le hless
      exact needs_step hstep (ih hmode hopeners (hnoted.trans hstep.symm))

end

/-- The closed texts are the nested ones. -/
theorem closed_iff_nested {t : Text} : Closed t ↔ Nested t := by
  refine ⟨fun h => ?_, Nested.closed⟩
  rcases h .start rfl with ⟨line, hscan⟩
  exact needs_scan (s := .start) (by rw [hscan]; rfl) (by rw [hscan]; rfl) (by rw [hscan])

/-! ## Flaws -/

theorem trimEnd_of_allBlank {t : Text} (h : Text.allBlank t = true) : Text.trimEnd t = [] := by
  rw [Text.trimEnd, List.reverse_eq_nil_iff, List.dropWhile_eq_nil_iff]
  exact fun c hc => List.all_eq_true.mp h c (List.mem_reverse.mp hc)

theorem isTerminated_iff {t : Text} : isTerminated t = true ↔ [endMark] <:+ Text.trimEnd t :=
  List.isSuffixOf_iff_suffix

/-- The walk ends well if and only if the text is nested. -/
theorem scan_start_iff {t : Text} :
    (scan .start t).mode = .code ∧ (scan .start t).openers = [] ∧ (scan .start t).unmatched = [] ↔
      Nested t := by
  refine ⟨fun ⟨hmode, hopeners, hnoted⟩ => needs_scan hmode hopeners hnoted, fun h => ?_⟩
  rcases h.closed .start rfl with ⟨line, hscan⟩
  rw [hscan]
  exact ⟨rfl, rfl, rfl⟩

/-- A text has no flaws if and only if it ends in the mark that ends a statement, white space aside, and
    is nested. -/
theorem flawMessages_eq_nil_iff (t : Text) :
    flawMessages t = [] ↔ [endMark] <:+ Text.trimEnd t ∧ Nested t := by
  rw [flawMessages, List.map_eq_nil_iff, ← isTerminated_iff, ← scan_start_iff, flaws]
  by_cases hblank : Text.allBlank t = true
  · have hopen : ¬isTerminated t = true := by
      rw [isTerminated_iff, trimEnd_of_allBlank hblank]
      decide
    simp only [if_pos hblank, hopen, List.cons_ne_nil, Bool.false_eq_true, false_and]
  · have hmode : (scan .start t).mode.flaw? = none ↔ (scan .start t).mode = .code := by
      cases (scan .start t).mode <;> simp [ScanMode.flaw?]
    have hend : (if isTerminated t = true then [] else [Flaw.unfinished]) = [] ↔
        isTerminated t = true := by
      split_ifs <;> simp_all
    simp only [if_neg hblank, List.append_eq_nil_iff, List.map_eq_nil_iff, List.reverse_eq_nil_iff,
      Option.toList_eq_nil_iff, hmode, hend]
    constructor
    · rintro ⟨⟨⟨hnoted, hcode⟩, hopeners⟩, hterminated⟩
      exact ⟨hterminated, hcode, hopeners, hnoted⟩
    · rintro ⟨hterminated, hcode, hopeners, hnoted⟩
      exact ⟨⟨⟨hnoted, hcode⟩, hopeners⟩, hterminated⟩

end CallSnippets
