import CallSnippets.Literal.Keys
import CallSnippets.Proofs.Steps

/-!
# Searching for strings

The keys of a body are found by a search for a pattern: a mark, letters, another mark, and maybe blanks with
a colon behind them, where a letter is a character that is neither a mark nor a backslash, or a backslash
with any character behind it. The search goes from left to right. What matches is replaced and the search
goes on behind it; where nothing matches, one character is copied and the search tries again at the next one.

Such a search can be costly and hard to foresee, for a pattern may match in several ways, and after a failure
it is tried again within what was read before. Here neither makes a difference. A string matches in one way at
most, up to the first mark that no backslash escapes. And if a mark has no partner, none of the later marks
has one: each of them was passed over as the second half of an escape, so the search that starts behind it
reads the text just as the one before did. So a single pass does the same, and copies all that is left once it
comes to a mark without a partner.

## Main definitions

* `Pattern`, `Pattern.ways`: Patterns, and the ways in which they match, in the order in which they are tried.
* `StringMatch`, `matchesAt`: The matches of a string at the start of a text.
* `Substituted`: What the search makes of a text.
* `nextMark`: Reading to the next mark that is not escaped.
* `pass`: The single pass.

## Theorems

* `followed_many_one`: A pattern over and over, where one step can be taken in one way.
* `matchesAt_mark`: A string matches in one way, with or without its colon.
* `stringEnd_later`: Behind a mark without a partner no mark has one.
* `substituted_iff`: Rewriting keys is the search.
* `rewriteKeys_eq_pass`: Rewriting keys is the single pass.
* `rewriteKeys_search`: All of this.
-/

namespace CallSnippets

/-! ## Patterns -/

/-- A pattern of characters. -/
inductive Pattern where
  /-- One character of a kind. -/
  | one (holds : CodePoint → Bool)
  /-- One pattern and another one behind it. -/
  | next (a b : Pattern)
  /-- One pattern, or else another one. -/
  | either (a b : Pattern)
  /-- A pattern as many times as possible, or else fewer times. -/
  | many (a : Pattern)

/-- The ways to match one thing and another one behind it, the first way of the first thing first: what is
    taken for the first, what for the second, and what is left. -/
def followed (a b : Text → List (Text × Text)) (t : Text) : List (Text × Text × Text) :=
  (a t).flatMap fun first => (b first.2).map fun second => (first.1, second)

/-- The ways to match a thing over and over, as many times as possible first. What takes nothing is not
    repeated. -/
def repeatedly (step : Text → List (Text × Text)) (t : Text) : List (Text × Text) :=
  ((step t).flatMap fun first =>
    if first.2.length < t.length then
      (repeatedly step first.2).map fun more => (first.1 ++ more.1, more.2)
    else []) ++ [([], t)]
termination_by t.length

/-- The ways in which a pattern matches at the start of a text, in the order in which they are tried: what is
    taken, and what is left. -/
def Pattern.ways : Pattern → Text → List (Text × Text)
  | one _, [] => []
  | one holds, c :: rest => if holds c then [([c], rest)] else []
  | next a b, t => (followed a.ways b.ways t).map fun way => (way.1 ++ way.2.1, way.2.2)
  | either a b, t => a.ways t ++ b.ways t
  | many a, t => repeatedly a.ways t

/-- The mark at both ends of a string. -/
def markPattern : Pattern :=
  .one (· = stringMark)

/-- A letter of a string. -/
def letterPattern : Pattern :=
  .either (.one fun c => c ≠ stringMark && c ≠ '\\') (.next (.one (· = '\\')) (.one fun _ => true))

/-- Blanks. -/
def blanksPattern : Pattern :=
  .many (.one Text.isBlank)

/-- A colon. -/
def colonPattern : Pattern :=
  .one (· = keyMark)

/-- A match of a string. -/
structure StringMatch where
  /-- The characters between the marks. -/
  content : Text
  /-- The blanks before a colon, if the colon is part of the match. -/
  blanks? : Option Text
  /-- The text behind the match. -/
  rest : Text

/-- The matches of a string at the start of a text, in the order in which they are tried: each with its colon
    first, and then without it. -/
def matchesAt (t : Text) : List StringMatch :=
  (markPattern.ways t).flatMap fun opening =>
    (followed (Pattern.many letterPattern).ways markPattern.ways opening.2).flatMap fun string =>
      ((followed blanksPattern.ways colonPattern.ways string.2.2).map fun colon =>
        ⟨string.1, some colon.1, colon.2.2⟩) ++ [⟨string.1, none, string.2.2⟩]

/-- What is put in the place of a match: the key if the colon is part of it, and else the match as it is. -/
def StringMatch.replacement (keyTemplate : Text) (m : StringMatch) : Except Template.Problem Text :=
  match m.blanks? with
  | some _ => Template.fill keyTemplate (Template.byPosition [Text.trimEnd m.content])
  | none => .ok (stringMark :: m.content ++ [stringMark])

/-- What the search makes of a text. -/
inductive Substituted (keyTemplate : Text) : Text → Except Template.Problem Text → Prop where
  /-- There is no more text. -/
  | done : Substituted keyTemplate [] (.ok [])
  /-- Nothing matches at the first character, and the search tries again at the next one. -/
  | failed {c : CodePoint} {rest : Text} {x : Except Template.Problem Text}
      (h : matchesAt (c :: rest) = []) (hrest : Substituted keyTemplate rest x) :
      Substituted keyTemplate (c :: rest) (x.map (c :: ·))
  /-- The first match is replaced, and the search goes on behind it. -/
  | found {t : Text} {m : StringMatch} {others : List StringMatch} {x : Except Template.Problem Text}
      (h : matchesAt t = m :: others) (hrest : Substituted keyTemplate m.rest x) :
      Substituted keyTemplate t (do
        let first ← m.replacement keyTemplate
        let more ← x
        return first ++ more)

/-! ## The single pass -/

/-- The characters up to the next mark that is not escaped, and the text behind it, where it is told whether
    the first character is escaped. -/
def nextMark : Bool → Text → Option (Text × Text)
  | _, [] => none
  | true, c :: rest => (nextMark false rest).map fun p => (c :: p.1, p.2)
  | false, c :: rest =>
    if c = stringMark then some ([], rest)
    else (nextMark (c = '\\') rest).map fun p => (c :: p.1, p.2)

/-- What the last rule for the end of a string is left with is no backslash. -/
theorem ne_backslash_of_rules {c : CodePoint} {rest : Text} (hlast : c = '\\' → rest = [] → False)
    (hescape : ∀ d more, c = '\\' → rest = d :: more → False) : c ≠ '\\' := by
  rintro rfl
  cases rest with
  | nil => exact hlast rfl rfl
  | cons d more => exact hescape d more rfl rfl

/-- Reading to the next mark is what the search for tokens does at a mark. -/
theorem nextMark_eq (t : Text) : nextMark false t = stringEnd t := by
  fun_induction stringEnd t with
  | case1 => rfl
  | case2 rest => rfl
  | case3 => rfl
  | case4 c rest ih =>
      -- The second half of an escape is read as such, whatever it is.
      have hread : nextMark false ('\\' :: c :: rest) =
          ((nextMark false rest).map fun p => (c :: p.1, p.2)).map fun p => (CodePoint.char '\\' :: p.1, p.2) :=
        rfl
      rw [hread, ih, Option.map_map]
      rfl
  | case5 c rest hmark hlast hescape ih =>
      have hback := ne_backslash_of_rules hlast hescape
      rw [nextMark, if_neg hmark, decide_eq_false hback, ih]

theorem nextMark_shorter {t content rest : Text} (h : nextMark false t = some (content, rest)) :
    rest.length < t.length := by
  rw [eq_of_stringEnd ((nextMark_eq t).symm.trans h), List.length_append, List.length_cons]
  omega

theorem colonSplit_shorter {t blanks rest : Text} (h : colonSplit t = some (blanks, rest)) :
    rest.length < t.length := by
  rw [eq_of_colonSplit h, List.length_append, List.length_cons]
  omega

/-- A text with its keys rewritten in a single pass from left to right. At a mark the text is read to the next
    one that is not escaped, and the string between them is rewritten or copied. At a mark without such a
    partner all that is left is copied. -/
def pass (keyTemplate : Text) : Text → Except Template.Problem Text
  | [] => .ok []
  | c :: rest =>
    if c = stringMark then
      match _hstring : nextMark false rest with
      | none => .ok (c :: rest)
      | some (content, after) =>
        match _hcolon : colonSplit after with
        | none => do
          let more ← pass keyTemplate after
          return (stringMark :: content ++ [stringMark]) ++ more
        | some (_, behind) => do
          let key ← Template.fill keyTemplate (Template.byPosition [Text.trimEnd content])
          let more ← pass keyTemplate behind
          return key ++ more
    else (pass keyTemplate rest).map (c :: ·)
termination_by t => t.length
decreasing_by
  · have := nextMark_shorter _hstring
    rw [List.length_cons]
    omega
  · have := nextMark_shorter _hstring
    have := colonSplit_shorter _hcolon
    rw [List.length_cons]
    omega
  · exact Nat.lt_succ_self _

variable {keyTemplate t content : Text} {c : CodePoint} {rest after : Text} {x : Except Template.Problem Text}

/-! ## Ways to match -/

section

variable {a b : Pattern} {taken : Text}

theorem repeatedly_nil {step : Text → List (Text × Text)} (h : step t = []) :
    repeatedly step t = [([], t)] := by
  rw [repeatedly, h]
  rfl

theorem repeatedly_one {step : Text → List (Text × Text)} (h : step t = [(taken, rest)])
    (hshort : rest.length < t.length) :
    repeatedly step t =
      ((repeatedly step rest).map fun more => (taken ++ more.1, more.2)) ++ [([], t)] := by
  rw [repeatedly, h, List.flatMap_singleton, if_pos hshort]

/-- Where one more step cannot be taken, the other pattern has to follow at once. -/
theorem followed_many_nil (h : a.ways t = []) :
    followed (Pattern.many a).ways b.ways t = (b.ways t).map fun way => ([], way) := by
  rw [followed, Pattern.ways, repeatedly_nil h, List.flatMap_singleton]

/-- Where one more step can be taken in one way, it is taken, or else the other pattern follows at once. -/
theorem followed_many_one (h : a.ways t = [(taken, rest)]) (hshort : rest.length < t.length) :
    followed (Pattern.many a).ways b.ways t =
      ((followed (Pattern.many a).ways b.ways rest).map fun way => (taken ++ way.1, way.2)) ++
        (b.ways t).map fun way => ([], way) := by
  rw [followed, Pattern.ways, repeatedly_one h hshort, List.flatMap_append, List.flatMap_singleton,
    List.flatMap_map, followed, Pattern.ways, List.map_flatMap]
  simp only [List.map_map, Function.comp_def]

theorem ways_one {holds : CodePoint → Bool} (c : CodePoint) (rest : Text) :
    (Pattern.one holds).ways (c :: rest) = if holds c then [([c], rest)] else [] := rfl

theorem ways_other {d : CodePoint} (h : c ≠ d) (rest : Text) :
    (Pattern.one (· = d)).ways (c :: rest) = [] := by
  rw [ways_one, decide_eq_false h, if_neg Bool.false_ne_true]

end

/-- A character that is neither a mark nor a backslash is a letter. -/
theorem ways_letter (hmark : c ≠ stringMark) (hback : c ≠ '\\') (rest : Text) :
    letterPattern.ways (c :: rest) = [([c], rest)] := by
  have hplain : (decide (c ≠ stringMark) && decide (c ≠ '\\')) = true :=
    Bool.and_eq_true_iff.mpr ⟨decide_eq_true hmark, decide_eq_true hback⟩
  rw [letterPattern, Pattern.ways, ways_one, if_pos hplain, Pattern.ways, followed, ways_other hback]
  rfl

/-- The letters up to a mark can be taken in one way at most. -/
theorem followed_letters (t : Text) :
    followed (Pattern.many letterPattern).ways markPattern.ways t =
      ((stringEnd t).map fun p => (p.1, [stringMark], p.2)).toList := by
  fun_induction stringEnd t with
  | case1 => rw [followed_many_nil rfl]; rfl
  | case2 rest => rw [followed_many_nil rfl]; rfl
  | case3 => rw [followed_many_nil rfl]; rfl
  | case4 c rest ih =>
      have hletter : letterPattern.ways ('\\' :: c :: rest) = [([.char '\\', c], rest)] := rfl
      have hshort : rest.length < (CodePoint.char '\\' :: c :: rest).length := by
        simp only [List.length_cons]
        omega
      rw [followed_many_one hletter hshort, ih]
      cases stringEnd rest <;> rfl
  | case5 c rest hmark hlast hescape ih =>
      have hback := ne_backslash_of_rules hlast hescape
      have hstop : markPattern.ways (c :: rest) = [] := ways_other hmark rest
      rw [followed_many_one (ways_letter hmark hback rest) (Nat.lt_succ_self _), ih, hstop]
      cases stringEnd rest <;> rfl

/-- The blanks up to a colon can be taken in one way at most. -/
theorem followed_blanks (t : Text) :
    followed blanksPattern.ways colonPattern.ways t =
      ((colonSplit t).map fun p => (p.1, [keyMark], p.2)).toList := by
  induction t with
  | nil => rw [blanksPattern, followed_many_nil rfl]; rfl
  | cons c rest ih =>
      rw [colonSplit]
      by_cases hcolon : c = keyMark
      · rw [hcolon, if_pos rfl, blanksPattern, followed_many_nil rfl]
        rfl
      have hstop : colonPattern.ways (c :: rest) = [] := ways_other hcolon rest
      rw [if_neg hcolon]
      cases hc : Text.isBlank c with
      | true =>
          have hone : (Pattern.one Text.isBlank).ways (c :: rest) = [([c], rest)] := by
            rw [ways_one, hc, if_pos rfl]
          rw [blanksPattern] at ih ⊢
          rw [followed_many_one hone (Nat.lt_succ_self _), ih, hstop, if_pos rfl]
          cases colonSplit rest <;> rfl
      | false =>
          have hnone : (Pattern.one Text.isBlank).ways (c :: rest) = [] := by
            rw [ways_one, hc, if_neg Bool.false_ne_true]
          rw [blanksPattern, followed_many_nil hnone, hstop, if_neg Bool.false_ne_true]
          rfl

/-- No string starts at a character that is no mark. -/
theorem matchesAt_other (hc : c ≠ stringMark) (rest : Text) : matchesAt (c :: rest) = [] := by
  rw [matchesAt, markPattern, ways_other hc]
  rfl

theorem matchesAt_mark (rest : Text) :
    matchesAt (stringMark :: rest) =
      (followed (Pattern.many letterPattern).ways markPattern.ways rest).flatMap fun string =>
        ((followed blanksPattern.ways colonPattern.ways string.2.2).map fun colon =>
          ⟨string.1, some colon.1, colon.2.2⟩) ++ [⟨string.1, none, string.2.2⟩] := by
  have hopening : markPattern.ways (stringMark :: rest) = [([stringMark], rest)] := rfl
  rw [matchesAt, hopening, List.flatMap_singleton]

/-- At a mark there is no string exactly if the mark has no partner. -/
theorem matchesAt_eq_nil : matchesAt (stringMark :: rest) = [] ↔ stringEnd rest = none := by
  rw [matchesAt_mark, followed_letters]
  cases stringEnd rest with
  | none => exact iff_of_true rfl rfl
  | some p =>
      rw [Option.map_some, Option.toList_some, List.flatMap_singleton]
      simp only [List.append_eq_nil_iff, List.cons_ne_nil, and_false, reduceCtorEq]

/-- If it has one, the string ends there, and its colon is part of it if it has one. -/
theorem matchesAt_string (hstring : stringEnd rest = some (content, after)) :
    matchesAt (stringMark :: rest) =
      ((colonSplit after).map fun p => (⟨content, some p.1, p.2⟩ : StringMatch)).toList ++
        [⟨content, none, after⟩] := by
  rw [matchesAt_mark, followed_letters, hstring, Option.map_some, Option.toList_some,
    List.flatMap_singleton, followed_blanks]
  cases colonSplit after <;> rfl

/-! ## Marks without a partner -/

/-- Behind a mark without a partner no mark has one. -/
theorem stringEnd_later {between later : Text} (h : stringEnd (between ++ stringMark :: later) = none) :
    stringEnd later = none := by
  generalize hrest : between ++ stringMark :: later = rest at h
  -- Reading goes on from the first mark in the steps of the induction, and a later mark can only be met as the
  -- second half of an escape. From there on it reads what a search that starts at this mark reads.
  fun_induction stringEnd rest generalizing between with
  | case1 => cases between <;> cases hrest
  | case2 rest => cases h
  | case3 =>
      cases between with
      | nil => cases hrest
      | cons c between => cases between <;> cases hrest
  | case4 c rest ih =>
      rw [Option.map_eq_none_iff] at h
      cases between with
      | nil => cases hrest
      | cons b between =>
          cases between with
          | nil =>
              cases hrest
              exact h
          | cons d between =>
              cases hrest
              exact ih rfl h
  | case5 c rest hmark _ _ ih =>
      rw [Option.map_eq_none_iff] at h
      cases between with
      | nil =>
          cases hrest
          exact absurd rfl hmark
      | cons b between =>
          cases hrest
          exact ih rfl h

/-- No mark in a text has a partner. -/
def Unpaired (t : Text) : Prop :=
  ∀ between later, t = between ++ stringMark :: later → stringEnd later = none

theorem unpaired_of_stringEnd (h : stringEnd rest = none) : Unpaired rest := by
  rintro between later rfl
  exact stringEnd_later h

theorem Unpaired.tail (h : Unpaired (c :: rest)) : Unpaired rest :=
  fun between later hsplit => h (c :: between) later (by rw [hsplit]; rfl)

/-- Text without pairs of marks is outside of strings. -/
theorem Unpaired.tokens_eq (h : Unpaired t) : tokens t = t.map Token.char := by
  induction t with
  | nil => rw [tokens, List.map_nil]
  | cons c rest ih =>
      have hnext : nextToken c rest = (.char c, rest) := by
        rw [nextToken]
        split
        · rename_i hmark
          rw [h [] rest (by rw [hmark]; rfl)]
        · rfl
      rw [tokens, hnext, List.map_cons, ih h.tail]

/-- The search finds nothing in such a text. -/
theorem Unpaired.substituted (keyTemplate : Text) (h : Unpaired t) : Substituted keyTemplate t (.ok t) := by
  induction t with
  | nil => exact .done
  | cons c rest ih =>
      refine .failed (x := .ok rest) ?_ (ih h.tail)
      by_cases hc : c = stringMark
      · rw [hc, matchesAt_eq_nil]
        exact h [] rest (by rw [hc]; rfl)
      · exact matchesAt_other hc rest

theorem writeTokens_chars (keyTemplate t : Text) : writeTokens keyTemplate (t.map Token.char) = .ok t := by
  induction t with
  | nil => rfl
  | cons c rest ih =>
      rw [List.map_cons, writeTokens, ih]
      rfl

/-! ## The search and the pass -/

/-- A text is rewritten token by token. -/
theorem rewriteKeys_next (keyTemplate : Text) (c : CodePoint) (rest : Text) :
    rewriteKeys keyTemplate (c :: rest) = (do
      let first ← (nextToken c rest).1.write keyTemplate
      let more ← rewriteKeys keyTemplate (nextToken c rest).2
      return first ++ more) := by
  rw [rewriteKeys, tokens]
  rfl

/-- At a mark without a partner all that is left is copied. -/
theorem rewriteKeys_open (keyTemplate : Text) (h : stringEnd rest = none) :
    rewriteKeys keyTemplate (stringMark :: rest) = .ok (stringMark :: rest) := by
  have hnext : nextToken stringMark rest = (.char stringMark, rest) := by
    rw [nextToken, if_pos rfl, h]
  rw [rewriteKeys_next, hnext, rewriteKeys, (unpaired_of_stringEnd h).tokens_eq, writeTokens_chars]
  rfl

/-- A string that no colon follows is copied. -/
theorem rewriteKeys_string (keyTemplate : Text) (hstring : stringEnd rest = some (content, after))
    (hcolon : colonSplit after = none) :
    rewriteKeys keyTemplate (stringMark :: rest) = (do
      let more ← rewriteKeys keyTemplate after
      return (stringMark :: content ++ [stringMark]) ++ more) := by
  have hnext : nextToken stringMark rest = (.string content, after) := by
    rw [nextToken, if_pos rfl, hstring]
    simp only [hcolon]
  rw [rewriteKeys_next, hnext]
  rfl

/-- A string that a colon follows is written by the template. -/
theorem rewriteKeys_key (keyTemplate : Text) {blanks behind : Text}
    (hstring : stringEnd rest = some (content, after)) (hcolon : colonSplit after = some (blanks, behind)) :
    rewriteKeys keyTemplate (stringMark :: rest) = (do
      let key ← Template.fill keyTemplate (Template.byPosition [Text.trimEnd content])
      let more ← rewriteKeys keyTemplate behind
      return key ++ more) := by
  have hnext : nextToken stringMark rest = (.key content blanks, behind) := by
    rw [nextToken, if_pos rfl, hstring]
    simp only [hcolon]
  rw [rewriteKeys_next, hnext]
  rfl

/-- Any other character is copied. -/
theorem rewriteKeys_other (keyTemplate : Text) (hc : c ≠ stringMark) (rest : Text) :
    rewriteKeys keyTemplate (c :: rest) = (rewriteKeys keyTemplate rest).map (c :: ·) := by
  have hnext : nextToken c rest = (.char c, rest) := by
    rw [nextToken, if_neg hc]
  rw [rewriteKeys_next, hnext]
  cases rewriteKeys keyTemplate rest <;> rfl

theorem rewriteKeys_nil (keyTemplate : Text) : rewriteKeys keyTemplate [] = .ok [] := by
  rw [rewriteKeys, tokens]
  rfl

/-- Rewriting keys is the single pass. -/
theorem rewriteKeys_eq_pass (keyTemplate t : Text) : rewriteKeys keyTemplate t = pass keyTemplate t := by
  fun_induction pass keyTemplate t with
  | case1 => exact rewriteKeys_nil keyTemplate
  | case2 rest hstring =>
      rw [nextMark_eq] at hstring
      exact rewriteKeys_open keyTemplate hstring
  | case3 rest content after hstring hcolon ih =>
      rw [nextMark_eq] at hstring
      rw [rewriteKeys_string keyTemplate hstring hcolon, ih]
  | case4 rest content after hstring blanks behind hcolon ih =>
      rw [nextMark_eq] at hstring
      rw [rewriteKeys_key keyTemplate hstring hcolon, ih]
  | case5 c rest hc ih => rw [rewriteKeys_other keyTemplate hc, ih]

/-- What the search makes of a text is determined. -/
theorem Substituted.unique {y : Except Template.Problem Text} (hx : Substituted keyTemplate t x)
    (hy : Substituted keyTemplate t y) : x = y := by
  induction hx generalizing y with
  | done =>
      cases hy with
      | done => rfl
      | found h _ => cases h
  | failed h _ ih =>
      cases hy with
      | failed _ hrest => rw [ih hrest]
      | found h' _ => rw [h] at h'; cases h'
  | found h _ ih =>
      cases hy with
      | done => cases h
      | failed h' _ => rw [h] at h'; cases h'
      | found h' hrest =>
          rw [h] at h'
          cases h'
          rw [ih hrest]

/-- The search makes of a text what the single pass does. -/
theorem substituted_pass (keyTemplate t : Text) : Substituted keyTemplate t (pass keyTemplate t) := by
  fun_induction pass keyTemplate t with
  | case1 => exact .done
  | case2 rest hstring =>
      rw [nextMark_eq] at hstring
      exact .failed (x := .ok rest) (matchesAt_eq_nil.mpr hstring)
        ((unpaired_of_stringEnd hstring).substituted keyTemplate)
  | case3 rest content after hstring hcolon ih =>
      rw [nextMark_eq] at hstring
      have hfound := matchesAt_string hstring
      rw [hcolon] at hfound
      exact .found hfound ih
  | case4 rest content after hstring blanks behind hcolon ih =>
      rw [nextMark_eq] at hstring
      have hfound := matchesAt_string hstring
      rw [hcolon] at hfound
      exact .found hfound ih
  | case5 c rest hc ih => exact .failed (matchesAt_other hc rest) ih

/-- Rewriting keys is the search. -/
theorem substituted_iff : Substituted keyTemplate t x ↔ rewriteKeys keyTemplate t = x := by
  have hpass := substituted_pass keyTemplate t
  rw [← rewriteKeys_eq_pass] at hpass
  exact ⟨fun h => hpass.unique h, fun h => h ▸ hpass⟩

/-- Rewriting keys is the search for strings, and it is the single pass. Once a mark has no partner, no string
    starts at a later one. -/
theorem rewriteKeys_search (keyTemplate t : Text) :
    (∀ x, Substituted keyTemplate t x ↔ rewriteKeys keyTemplate t = x) ∧
      rewriteKeys keyTemplate t = pass keyTemplate t ∧
      ∀ rest, matchesAt (stringMark :: rest) = [] → ∀ between later, rest = between ++ stringMark :: later →
        matchesAt (stringMark :: later) = [] := by
  refine ⟨fun x => substituted_iff, rewriteKeys_eq_pass keyTemplate t, ?_⟩
  intro rest hopen between later hsplit
  exact matchesAt_eq_nil.mpr (unpaired_of_stringEnd (matchesAt_eq_nil.mp hopen) between later hsplit)

/-- A key, and behind it a mark without a partner before one that is escaped. -/
def unclosed : Text :=
  "\"a\" :\"b\\\":1"

/-- The key is rewritten. The mark that is escaped starts no string, although a colon follows it. -/
theorem rewriteKeys_search_unclosed :
    unclosed = "\"a\" :" ++ stringMark :: ("b\\" ++ stringMark :: Text.ofString ":1") ∧
      matchesAt (stringMark :: ("b\\" ++ stringMark :: Text.ofString ":1")) = [] ∧
      matchesAt (stringMark :: Text.ofString ":1") = [] ∧
      Substituted "\x7b0\x7d:" unclosed (.ok "a:\"b\\\":1") := by
  have hopen : matchesAt (stringMark :: ("b\\" ++ stringMark :: Text.ofString ":1")) = [] :=
    matchesAt_eq_nil.mpr (by decide)
  rcases rewriteKeys_search "\x7b0\x7d:" unclosed with ⟨hsearch, _, hlater⟩
  exact ⟨rfl, hopen, hlater _ hopen "b\\" ":1" rfl,
    (hsearch _).mpr (eq_ok_of_toOption (by decide +kernel))⟩

end CallSnippets
