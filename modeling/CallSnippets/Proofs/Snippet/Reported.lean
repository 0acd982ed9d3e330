import CallSnippets.Proofs.Snippet.Brackets
import CallSnippets.Proofs.Snippet.Strings
import Mathlib.Data.List.Infix

/-!
# What the check of a snippet reports

A text is a row of characters that open and close nothing, of brackets and of strings, and at its end there
may be a string that does not end. This gives the brackets that stand outside of strings, in their order,
and the mark of the string that does not end. Every text can be read in this way.

The walk over the characters goes along with the reading. At each bracket the open ones are those of the
reading, the line is one more than there are line feeds before it, and what is noted is what the row of
brackets sets aside. So the flaws of a text that is not blank are the closing brackets that nothing opens,
the string that does not end, the opening brackets that nothing closes, and the end of the last statement.

## Main definitions

* `Reads`: The brackets of a text outside of strings, and the mark of the string that does not end.
* `Spot.entry`: How the walk knows a bracket.

## Theorems

* `exists_reads`: Every text can be read.
* `Reads.placed`, `Reads.ordered`: What is read stands in the text, in its order.
* `line_scan`: The line counts line feeds, also in strings.
* `step_bracket`, `Reads.follows`: The walk goes along with the reading.
* `flawMessages_reads`: The flaws of a text that is not blank.
-/

namespace CallSnippets

variable {before t rest inner : Text} {row stack : List Spot} {unended : Option Spot} {mark c : CodePoint}
  {b : Spot}

/-! ## The brackets outside of strings -/

/-- The brackets of a text that stand outside of its strings, and the mark of the string that the text ends
    in, each with what is before it in a whole that has something before the text. -/
inductive Reads : Text → Text → List Spot → Option Spot → Prop where
  | nil {before : Text} : Reads before [] [] none
  /-- A character that is neither a bracket nor a mark. -/
  | other {before rest : Text} {c : CodePoint} {row : List Spot} {unended : Option Spot}
      (hc : c ∉ specials) (hrest : Reads (before ++ [c]) rest row unended) :
      Reads before (c :: rest) row unended
  /-- A bracket of either kind. -/
  | bracket {before rest : Text} {c : CodePoint} {row : List Spot} {unended : Option Spot}
      (hc : Spot.IsOpener ⟨before, c⟩ ∨ Spot.IsCloser ⟨before, c⟩)
      (hrest : Reads (before ++ [c]) rest row unended) :
      Reads before (c :: rest) (⟨before, c⟩ :: row) unended
  /-- A string between two equal marks. -/
  | string {before inner rest : Text} {mark : CodePoint} {row : List Spot} {unended : Option Spot}
      (hmark : mark ∈ quoteMarks) (hinner : StringText mark inner)
      (hrest : Reads (before ++ enclosed mark mark inner) rest row unended) :
      Reads before (enclosed mark mark inner ++ rest) row unended
  /-- A string that has not come to its end, perhaps because of a backslash. -/
  | unended {before inner : Text} {mark : CodePoint} (escaped : Bool) (hmark : mark ∈ quoteMarks)
      (hinner : StringText mark inner) :
      Reads before (mark :: (inner ++ pending escaped)) [] (some ⟨before, mark⟩)

/-- Behind a mark, and perhaps a backslash, a string comes to its end or the text comes to its own. -/
theorem exists_end (mark : CodePoint) (waiting : Bool) (t : Text) :
    (∃ inner rest, t = inner ++ mark :: rest ∧ StringText mark (pending waiting ++ inner)) ∨
      ∃ inner escaped, pending waiting ++ t = inner ++ pending escaped ∧ StringText mark inner := by
  induction t generalizing waiting with
  | nil => exact .inr ⟨[], waiting, List.append_nil _, .nil⟩
  | cons c rest ih =>
      cases waiting with
      | true =>
          -- The backslash takes the character with it, whatever it is.
          rcases ih false with ⟨inner, behind, rfl, hinner⟩ | ⟨inner, escaped, hsplit, hinner⟩
          · exact .inl ⟨c :: inner, behind, rfl, .escape hinner⟩
          · refine .inr ⟨backslash :: c :: inner, escaped, ?_, .escape hinner⟩
            exact congrArg (fun more => backslash :: c :: more) hsplit
      | false =>
          by_cases hback : c = backslash
          · rw [hback]
            rcases ih true with ⟨inner, behind, rfl, hinner⟩ | ⟨inner, escaped, hsplit, hinner⟩
            · exact .inl ⟨backslash :: inner, behind, rfl, hinner⟩
            · exact .inr ⟨inner, escaped, hsplit, hinner⟩
          by_cases hmark : c = mark
          · rw [hmark]
            exact .inl ⟨[], rest, rfl, .nil⟩
          · rcases ih false with ⟨inner, behind, rfl, hinner⟩ | ⟨inner, escaped, hsplit, hinner⟩
            · exact .inl ⟨c :: inner, behind, rfl, .plain hmark hback hinner⟩
            · exact .inr ⟨c :: inner, escaped, congrArg (c :: ·) hsplit, .plain hmark hback hinner⟩

/-- A character that opens or closes something is a mark or a bracket. -/
theorem mark_or_bracket (h : c ∈ specials) (before : Text) :
    c ∈ quoteMarks ∨ Spot.IsOpener ⟨before, c⟩ ∨ Spot.IsCloser ⟨before, c⟩ := by
  have hall : ∀ d ∈ specials,
      d ∈ quoteMarks ∨ (∃ p ∈ brackets, p.1 = d) ∨ ∃ p ∈ brackets, p.2 = d := by decide
  exact hall c h

/-- Every text can be read, whatever is before it. -/
theorem exists_reads (before t : Text) : ∃ row unended, Reads before t row unended := by
  -- A string takes a part of the text at once, so the induction is on the length.
  induction hlength : t.length using Nat.strong_induction_on generalizing before t with
  | _ n ih =>
      cases t with
      | nil => exact ⟨[], none, .nil⟩
      | cons c rest =>
          rw [List.length_cons] at hlength
          have hnext : ∃ row unended, Reads (before ++ [c]) rest row unended :=
            ih rest.length (by omega) _ rest rfl
          by_cases hspecial : c ∈ specials
          · rcases mark_or_bracket hspecial before with hmark | hbracket
            · rcases exists_end c false rest with
                ⟨inner, behind, rfl, hinner⟩ | ⟨inner, escaped, hsplit, hinner⟩
              · rw [List.length_append, List.length_cons] at hlength
                rcases ih behind.length (by omega) (before ++ enclosed c c inner) behind rfl with
                  ⟨row, unended, hrest⟩
                rw [← enclosed_append]
                exact ⟨row, unended, .string hmark hinner hrest⟩
              · have hsplit : rest = inner ++ pending escaped := hsplit
                rw [hsplit]
                exact ⟨[], some ⟨before, c⟩, .unended escaped hmark hinner⟩
            · rcases hnext with ⟨row, unended, hrest⟩
              exact ⟨⟨before, c⟩ :: row, unended, .bracket hbracket hrest⟩
          · rcases hnext with ⟨row, unended, hrest⟩
            exact ⟨row, unended, .other hspecial hrest⟩

namespace Reads

/-- What is read stands in the text, with what is said to be before it. -/
theorem placed (h : Reads before t row unended) (hb : b ∈ row ++ unended.toList) :
    ∃ ahead, b.before = before ++ ahead ∧ ahead ++ [b.char] <+: t := by
  induction h with
  | nil => exact absurd hb List.not_mem_nil
  | @other before rest c row unended _ _ ih =>
      rcases ih hb with ⟨ahead, hbefore, hahead⟩
      exact ⟨c :: ahead, by rw [hbefore, ← List.append_cons], List.cons_prefix_cons.mpr ⟨rfl, hahead⟩⟩
  | @bracket before rest c row unended _ _ ih =>
      rw [List.cons_append, List.mem_cons] at hb
      rcases hb with rfl | hb
      · exact ⟨[], (List.append_nil _).symm, List.cons_prefix_cons.mpr ⟨rfl, List.nil_prefix⟩⟩
      · rcases ih hb with ⟨ahead, hbefore, hahead⟩
        exact ⟨c :: ahead, by rw [hbefore, ← List.append_cons], List.cons_prefix_cons.mpr ⟨rfl, hahead⟩⟩
  | @string before inner rest mark row unended _ _ _ ih =>
      rcases ih hb with ⟨ahead, hbefore, hahead⟩
      refine ⟨enclosed mark mark inner ++ ahead, by rw [hbefore, List.append_assoc], ?_⟩
      rw [List.append_assoc]
      exact (List.prefix_append_right_inj _).mpr hahead
  | @unended before inner mark escaped _ _ =>
      rcases List.mem_singleton.mp hb with rfl
      exact ⟨[], (List.append_nil _).symm, List.cons_prefix_cons.mpr ⟨rfl, List.nil_prefix⟩⟩

/-- The brackets are in the order of the text. -/
theorem ordered (h : Reads before t row unended) :
    row.Pairwise fun b d => b.before ++ [b.char] <+: d.before := by
  induction h with
  | nil => exact .nil
  | other _ _ ih => exact ih
  | bracket _ hrest ih =>
      refine List.pairwise_cons.mpr ⟨fun d hd => ?_, ih⟩
      rcases hrest.placed (List.mem_append_left _ hd) with ⟨ahead, hbefore, _⟩
      rw [hbefore]
      exact List.prefix_append ..
  | string _ _ _ ih => exact ih
  | unended _ _ _ => exact .nil

/-- No bracket is read twice. -/
theorem nodup (h : Reads before t row unended) : row.Nodup := by
  refine h.ordered.imp ?_
  rintro b d hprefix rfl
  have hle := hprefix.length_le
  rw [List.length_append, List.length_singleton] at hle
  omega

end Reads

/-! ## Lines -/

theorem lineAt_eq (line : Nat) (c : CodePoint) :
    ScanState.lineAt line c = line + [c].count (.char '\n') := by
  rw [ScanState.lineAt]
  split_ifs with hfeed
  · rw [hfeed]
    rfl
  · rw [List.count_singleton, if_neg (by simpa using fun h => hfeed h)]
    rfl

theorem line_step (s : ScanState) (c : CodePoint) :
    (s.step c).line = s.line + [c].count (.char '\n') := by
  rw [← lineAt_eq]
  cases hmode : s.mode with
  | code =>
      rcases step_code (c := c) hmode with ⟨_, h⟩ | ⟨_, h⟩ | ⟨_, h⟩ | ⟨_, _, _, _, _, h⟩ | ⟨_, h⟩
      all_goals rw [h]
  | string mark line escaped =>
      rcases step_string (c := c) hmode with ⟨_, h⟩ | ⟨_, _, h⟩ | ⟨_, _, h⟩ | ⟨_, _, _, h⟩
      all_goals rw [h]

/-- The line counts the line feeds of a text, outside of strings and in them. -/
theorem line_scan (s : ScanState) (t : Text) : (scan s t).line = s.line + t.count (.char '\n') := by
  induction t generalizing s with
  | nil => rfl
  | cons c rest ih =>
      rw [scan_cons, ih, line_step, Nat.add_assoc, ← List.count_append, List.singleton_append]

/-- A character that opens or closes something is no line feed. -/
theorem lineAt_special (h : c ∈ specials) (line : Nat) : ScanState.lineAt line c = line := by
  have hall : ∀ d ∈ specials, d ≠ .char '\n' := by decide
  exact if_neg (hall c h)

/-! ## The walk -/

/-- The bracket as the walk knows it. -/
def Spot.entry (b : Spot) : CodePoint × Nat :=
  (b.char, b.line)

/-- A bracket opens or closes something, and is no mark. -/
theorem bracket_special (h : Spot.IsOpener ⟨before, c⟩ ∨ Spot.IsCloser ⟨before, c⟩) :
    c ∈ specials ∧ c ∉ quoteMarks := by
  have hall : ∀ p ∈ brackets,
      (p.1 ∈ specials ∧ p.1 ∉ quoteMarks) ∧ p.2 ∈ specials ∧ p.2 ∉ quoteMarks := by decide
  rcases h with ⟨p, hp, rfl⟩ | ⟨p, hp, rfl⟩
  · exact (hall p hp).1
  · exact (hall p hp).2

theorem eq_of_closer {opener other : CodePoint} (h : (opener, c) ∈ brackets)
    (hother : (other, c) ∈ brackets) : opener = other := by
  have hall : ∀ p ∈ brackets, ∀ q ∈ brackets, p.2 = q.2 → p.1 = q.1 := by decide
  exact hall _ h _ hother rfl

/-- The line behind a character. -/
theorem line_behind {s : ScanState} (h : s.line = 1 + before.count (.char '\n')) :
    (s.step c).line = 1 + (before ++ [c]).count (.char '\n') := by
  rw [line_step, h, List.count_append, Nat.add_assoc]

/-- What the walk does with a bracket goes along with what the row does with it: behind it the brackets in
    `opened` are open and those in `aside` were set aside, and the row settles from there. -/
theorem step_bracket {s : ScanState} (hc : Spot.IsOpener ⟨before, c⟩ ∨ Spot.IsCloser ⟨before, c⟩)
    (hmode : s.mode = .code) (hline : s.line = 1 + before.count (.char '\n'))
    (hopeners : s.openers = stack.map Spot.entry) :
    ∃ opened aside, (∀ row after unmatched, Settles opened row after unmatched →
        Settles stack (⟨before, c⟩ :: row) after (aside ++ unmatched)) ∧
      (s.step c).mode = .code ∧ (s.step c).openers = opened.map Spot.entry ∧
      (s.step c).unmatched = (aside.map Spot.entry).reverse ++ s.unmatched := by
  have hspecial := bracket_special hc
  have hentry : (c, ScanState.lineAt s.line c) = Spot.entry ⟨before, c⟩ := by
    rw [lineAt_special hspecial.1, hline]
    rfl
  rcases step_code (c := c) hmode with
    ⟨hmark, _⟩ | ⟨⟨closer, hopener⟩, hstep⟩ | ⟨hother, _⟩ | ⟨opener, line, outer, htop, hpair, hstep⟩ |
      ⟨⟨opener, hpair, htop⟩, hstep⟩
  · exact absurd hmark hspecial.2
  · rw [hentry, hopeners] at hstep
    rw [hstep]
    exact ⟨⟨before, c⟩ :: stack, [], fun _ _ _ => .opens ⟨_, hopener, rfl⟩, hmode, rfl, rfl⟩
  · exact absurd hspecial.1 hother
  · -- The bracket on top is one of those that are open.
    rcases List.map_eq_cons_iff.mp (hopeners.symm.trans htop) with ⟨o, inner, rfl, ho, hinner⟩
    have hchar : o.char = opener := congrArg Prod.fst ho
    have hcloses : Spot.Pairs o ⟨before, c⟩ := by rwa [Spot.Pairs, hchar]
    rw [hstep]
    exact ⟨inner, [], fun _ _ _ => .closes hcloses, hmode, hinner.symm, rfl⟩
  · have hfits : ∀ o, stack.head? = some o → ¬Spot.Pairs o ⟨before, c⟩ := by
      intro o ho hcloses
      rw [hopeners, List.head?_map, ho, ← eq_of_closer hcloses hpair] at htop
      exact htop rfl
    rw [hentry] at hstep
    rw [hstep]
    exact ⟨stack, [⟨before, c⟩], fun _ _ _ => .offends ⟨_, hpair, rfl⟩ hfits, hmode, hopeners, rfl⟩

/-- A text read behind brackets that are open takes the walk from these brackets to those that are open
    behind it. What is noted is what the row sets aside, and if the walk ends in a string, then in the one
    that does not end. -/
theorem Reads.follows {s : ScanState} (h : Reads before t row unended) (hmode : s.mode = .code)
    (hline : s.line = 1 + before.count (.char '\n')) (hopeners : s.openers = stack.map Spot.entry) :
    ∃ after unmatched, Settles stack row after unmatched ∧
      (scan s t).openers = after.map Spot.entry ∧
      (scan s t).unmatched = (unmatched.map Spot.entry).reverse ++ s.unmatched ∧
      (scan s t).mode.flaw? = unended.map fun b => .unterminated b.char b.line := by
  induction h generalizing s stack with
  | nil => exact ⟨stack, [], .done, hopeners, rfl, by rw [scan, List.foldl_nil, hmode]; rfl⟩
  | other hc _ ih =>
      have hstep := step_inert hmode (isInert_iff.mpr hc)
      rcases ih (by rw [hstep]; exact hmode) (line_behind hline) (by rw [hstep]; exact hopeners) with
        ⟨after, unmatched, hsettles, hafter, hunmatched, hflaw⟩
      exact ⟨after, unmatched, hsettles, hafter, hunmatched.trans (by rw [hstep]), hflaw⟩
  | bracket hc _ ih =>
      rcases step_bracket hc hmode hline hopeners with ⟨opened, aside, hrow, hcode, hopen, haside⟩
      rcases ih hcode (line_behind hline) hopen with ⟨after, unmatched, hsettles, hafter, hunmatched, hflaw⟩
      refine ⟨after, aside ++ unmatched, hrow _ _ _ hsettles, hafter, ?_, hflaw⟩
      rw [scan_cons, hunmatched, haside, List.map_append, List.reverse_append, List.append_assoc]
  | @string before inner rest mark row unended hmark hinner _ ih =>
      have hclosed := closed_string (isMark_iff.mpr hmark) (ne_backslash_of_mark hmark) hinner.inside
      rcases hclosed s hmode with ⟨line, hscan⟩
      -- The line goes on in the string as it does outside of it.
      have hbehind := line_scan s (enclosed mark mark inner)
      rw [hscan, hline, Nat.add_assoc, ← List.count_append] at hbehind
      rw [scan_append, hscan]
      exact ih hmode hbehind hopeners
  | @unended before inner mark escaped hmark hinner =>
      have hspecial : mark ∈ specials := by
        have hall : ∀ d ∈ quoteMarks, d ∈ specials := by decide
        exact hall mark hmark
      have hstep := step_mark hmode (isMark_iff.mpr hmark)
      rw [lineAt_special hspecial, hline] at hstep
      have hstring : (s.step mark).mode = .string mark (Spot.line ⟨before, mark⟩) false := by
        rw [hstep]
        rfl
      rcases scan_unfinished hstring hinner escaped with ⟨line, hscan⟩
      rw [scan_cons, hscan, hstep]
      exact ⟨stack, [], .done, hopeners, rfl, rfl⟩

/-! ## What is reported -/

/-- The flaws of a text that is not blank. It can be read, and however it is read, with its brackets outside
    of strings in a row, they are, each with its line: the closing brackets that have to be taken out of the
    row, the mark of the string that does not end, the opening brackets that have to be taken out, and that
    the last statement is not terminated if the text does not end with the mark for it, white space aside. -/
theorem flawMessages_reads (t : Text) (hfull : Text.allBlank t = false) :
    (∃ row unended, Reads [] t row unended) ∧
      ∀ row unended, Reads [] t row unended →
        (∀ b ∈ row ++ unended.toList, b.before ++ [b.char] <+: t) ∧
        (row.Pairwise fun b d => b.before ++ [b.char] <+: d.before) ∧
        ∃ unmatched unclosed, Repairs row unmatched unclosed ∧
          flawMessages t = (unmatched.map (fun b => Flaw.unmatched b.char b.line) ++
            unended.toList.map (fun b => Flaw.unterminated b.char b.line) ++
            unclosed.map (fun b => Flaw.unclosed b.char b.line) ++
            if [endMark] <:+ Text.trimEnd t then [] else [Flaw.unfinished]).map Flaw.message := by
  refine ⟨exists_reads [] t, fun row unended h => ⟨?_, h.ordered, ?_⟩⟩
  · intro b hb
    rcases h.placed hb with ⟨ahead, hbefore, hahead⟩
    rwa [hbefore]
  · have hstart : ScanState.start.openers = ([] : List Spot).map Spot.entry := rfl
    rcases h.follows rfl rfl hstart with ⟨after, unmatched, hsettles, hopeners, hunmatched, hflaw⟩
    refine ⟨unmatched, after.reverse, hsettles.repairs h.nodup, ?_⟩
    -- What the walk has collected is in the order of the text, or the other way around.
    have hnoted : (scan .start t).unmatched.reverse = unmatched.map Spot.entry := by
      rw [hunmatched, ScanState.start, List.append_nil, List.reverse_reverse]
    have hopen : (scan .start t).openers.reverse = after.reverse.map Spot.entry := by
      rw [hopeners, List.map_reverse]
    have hend : (if isTerminated t = true then [] else [Flaw.unfinished]) =
        if [endMark] <:+ Text.trimEnd t then [] else [Flaw.unfinished] := by
      simp only [isTerminated_iff]
    have hmode : (scan .start t).mode.flaw?.toList =
        unended.toList.map fun b => Flaw.unterminated b.char b.line := by
      rw [hflaw, Option.toList_map]
    simp only [flawMessages, flaws, hfull, Bool.false_eq_true, if_false, hnoted, hopen, hend, hmode,
      List.map_map]
    rfl

/-- A text with a bracket that fits nothing, one that is not closed, and a string that does not end. -/
def tangledText : Text :=
  "(\x7b'\n)')\x7d\n\"a\\"

/-- The brackets of the text outside of its first string. -/
def tangledRow : List Spot :=
  [⟨"", '('⟩, ⟨"(", '{'⟩, ⟨"(\x7b'\n)'", ')'⟩, ⟨"(\x7b'\n)')", '}'⟩]

theorem reads_tangledText : Reads [] tangledText tangledRow (some ⟨"(\x7b'\n)')\x7d\n", '"'⟩) := by
  have hfirst : StringText singleMark ("\n)" : Text) :=
    .plain (by decide) (by decide) (.plain (by decide) (by decide) .nil)
  have hlast : StringText '"' ("a" : Text) := .plain (by decide) (by decide) .nil
  exact .bracket (by decide) (.bracket (by decide) (.string (by decide) hfirst
    (.bracket (by decide) (.bracket (by decide) (.other (by decide) (.unended true (by decide) hlast))))))

theorem flawMessages_reads_tangled :
    Text.allBlank tangledText = false ∧
      (∃ unmatched unclosed, Repairs tangledRow unmatched unclosed ∧
        flawMessages tangledText = (unmatched.map (fun b => Flaw.unmatched b.char b.line) ++
          [Flaw.unterminated '"' 3] ++ unclosed.map (fun b => Flaw.unclosed b.char b.line) ++
          [Flaw.unfinished]).map Flaw.message) ∧
      flawMessages tangledText = ["unmatched ')' (line 2)", "unterminated \" string (line 3)",
        "unclosed '(' (line 1)", "last statement is not terminated with ';'"] := by
  have hfull : Text.allBlank tangledText = false := by decide
  rcases ((flawMessages_reads tangledText hfull).2 _ _ reads_tangledText).2.2 with
    ⟨unmatched, unclosed, hrepairs, hmessages⟩
  exact ⟨hfull, ⟨unmatched, unclosed, hrepairs, hmessages⟩, by decide⟩

end CallSnippets
