import CallSnippets.Proofs.Json.Document
import CallSnippets.Proofs.Steps
import Mathlib.Data.List.TakeDrop
import Mathlib.Data.List.TakeWhile

/-!
# Texts that are accepted

Every text that the reader accepts is the text of a document: whatever the reader passes over has been
taken apart into white space, letters, digits and words, and nothing else.

Each reader gets one statement, on what it passes over in front of the rest that it hands back. The
readers of values, members and items call one another with less fuel each time, so the three are
treated together: what each of them reads with more fuel follows from what the others read with less.

## Main definitions

* `ReadsValues`, `ReadsMembers`, `ReadsItems`: What is read with some fuel is text of the right sort.

## Theorems

* `readString_sound`, `readNumber_sound`, `readWord?_sound`: The parts.
* `readsValues_succ`, `readsMembers_succ`, `readsItems_succ`: Readers with one more step of fuel.
* `read_sound`: A text that is read is the text of a document.
-/

namespace CallSnippets

namespace Json

theorem skipSpace_sound (t : Text) : ∃ gap : Gap, t = gap.text ++ skipSpace t := by
  refine ⟨⟨t.takeWhile isSpace, fun c hc => ?_⟩, List.takeWhile_append_dropWhile.symm⟩
  exact List.mem_takeWhile_imp hc

/-! ## Strings -/

theorem hexNumber?_sound {count value n : Nat} {t rest : Text}
    (h : Text.hexNumber? count value t = some (n, rest)) :
    ∃ digits : Text, digits.length = count ∧ (∀ c ∈ digits, (Text.hexValue c).isSome = true) ∧
      t = digits ++ rest := by
  induction count generalizing value t with
  | zero =>
      simp only [Text.hexNumber?, Option.some.injEq, Prod.mk.injEq] at h
      refine ⟨[], rfl, by simp only [List.not_mem_nil, false_imp_iff, implies_true], h.2⟩
  | succ count ih =>
      cases t with
      | nil => simp only [Text.hexNumber?, reduceCtorEq] at h
      | cons c more =>
          rw [Text.hexNumber?] at h
          cases hc : Text.hexValue c with
          | none => simp only [hc, reduceCtorEq] at h
          | some d =>
              simp only [hc] at h
              rcases ih h with ⟨digits, hlength, hhex, rfl⟩
              -- The first digit is one by its value, the others by the hypothesis.
              refine ⟨c :: digits, by rw [List.length_cons, hlength], ?_, rfl⟩
              intro a ha
              rcases List.mem_cons.mp ha with rfl | ha
              · rw [hc]; rfl
              · exact hhex a ha

/-- The four digits of an escape make a letter. -/
theorem code_sound {n : Nat} {t rest : Text} (h : Text.hexNumber? 4 0 t = some (n, rest)) :
    ∃ letter : Letter, escapeMark :: codeMark :: t = letter.text ++ rest := by
  rcases hexNumber?_sound h with ⟨digits, hfour, hhex, rfl⟩
  exact ⟨.code digits hfour hhex, rfl⟩

theorem chars_cons (letter : Letter) (letters : List Letter) :
    chars (letter :: letters) = letter.text ++ chars letters := rfl

theorem chars_append (a b : List Letter) : chars (a ++ b) = chars a ++ chars b :=
  List.flatMap_append

theorem readCodeEscape_sound {t rest : Text} {c : CodePoint}
    (h : readCodeEscape (codeMark :: t) = .ok (c, rest)) :
    ∃ letters : List Letter, escapeMark :: codeMark :: t = chars letters ++ rest := by
  unfold readCodeEscape at h
  simp only [List.drop_succ_cons, List.drop_zero] at h
  split at h
  · simp only [reduceCtorEq] at h
  · simp only [reduceCtorEq] at h
  · next n behind _ hfirst =>
    rcases code_sound hfirst with ⟨first, heq⟩
    -- One escape is passed over, unless it is joined to a second one.
    have hone : ∀ {d : CodePoint}, Except.ok (ε := Failure) (d, behind) = .ok (c, rest) →
        ∃ letters : List Letter, escapeMark :: codeMark :: t = chars letters ++ rest := by
      intro d hd
      simp only [Except.ok.injEq, Prod.mk.injEq] at hd
      exact ⟨[first], by rw [heq, hd.2, chars_cons, chars, List.flatMap_nil, List.append_nil]⟩
    split at h
    · next second =>
      split at h
      · split at h
        · simp only [reduceCtorEq] at h
        · next m behind' hsecond =>
          rcases code_sound hsecond with ⟨letter, heq'⟩
          split at h
          · simp only [Except.ok.injEq, Prod.mk.injEq] at h
            refine ⟨[first, letter], ?_⟩
            rw [heq, heq', h.2, chars_cons, chars_cons, chars, List.flatMap_nil, List.append_nil,
              List.append_assoc]
          · exact hone h
      · exact hone h
    · exact hone h

theorem readString_sound {fuel : Nat} {opening t s rest : Text}
    (h : readString fuel opening t = .ok (s, rest)) :
    ∃ letters : List Letter, t = chars letters ++ stringMark :: rest := by
  induction fuel generalizing t s with
  | zero =>
      unfold readString at h
      split at h
      · simp only [reduceCtorEq] at h
      · simp only [Except.ok.injEq, Prod.mk.injEq] at h
        exact ⟨[], by rw [h.2]; rfl⟩
      · simp only [reduceCtorEq] at h
      · simp only [reduceCtorEq] at h
      · simp only [reduceCtorEq] at h
  | succ fuel ih =>
      unfold readString at h
      split at h
      · simp only [reduceCtorEq] at h
      · simp only [Except.ok.injEq, Prod.mk.injEq] at h
        exact ⟨[], by rw [h.2]; rfl⟩
      · simp only [reduceCtorEq] at h
      · next c more =>
        by_cases hc : c = codeMark
        · subst hc
          simp only [if_true] at h
          rcases bind_eq_ok.mp h with ⟨⟨d, behind⟩, hcode, h⟩
          rcases bind_eq_ok.mp h with ⟨⟨u, last⟩, hmore, h⟩
          simp only [pure_eq_ok, Except.ok.injEq, Prod.mk.injEq] at h
          rcases readCodeEscape_sound hcode with ⟨first, hfirst⟩
          rcases ih (h.2 ▸ hmore) with ⟨others, rfl⟩
          exact ⟨first ++ others, by rw [hfirst, chars_append, List.append_assoc]⟩
        · simp only [if_neg hc] at h
          cases hescape : simpleEscape c with
          | none => simp only [hescape, error_bind, reduceCtorEq] at h
          | some e =>
              simp only [hescape, ok_bind] at h
              rcases bind_eq_ok.mp h with ⟨⟨u, last⟩, hmore, h⟩
              simp only [pure_eq_ok, Except.ok.injEq, Prod.mk.injEq] at h
              rcases ih (h.2 ▸ hmore) with ⟨others, rfl⟩
              exact ⟨.escape c (by rw [hescape]; rfl) :: others, rfl⟩
      · next c more hmark hlast hescape =>
        by_cases hcontrol : c.toNat < 0x20
        · simp only [if_pos hcontrol, reduceCtorEq] at h
        · simp only [if_neg hcontrol] at h
          rcases bind_eq_ok.mp h with ⟨⟨u, last⟩, hmore, h⟩
          simp only [pure_eq_ok, Except.ok.injEq, Prod.mk.injEq] at h
          rcases ih (h.2 ▸ hmore) with ⟨others, rfl⟩
          -- A backslash would have been the start of an escape.
          have hback : c ≠ escapeMark := by
            intro hc
            cases hothers : chars others ++ stringMark :: rest with
            | nil => exact hlast hc hothers
            | cons d after => exact hescape d after hc hothers
          have hplain : isPlain c = true := by
            simp only [isPlain, Bool.and_eq_true, decide_eq_true_eq, ne_eq]
            exact ⟨⟨hmark, hback⟩, Nat.le_of_not_lt hcontrol⟩
          exact ⟨.plain c hplain :: others, rfl⟩

/-! ## Numbers and words -/

theorem spanDigits_sound (t : Text) :
    (∀ c ∈ (spanDigits t).1, Text.isAsciiDigit c = true) ∧
      t = (spanDigits t).1 ++ (spanDigits t).2 := by
  rw [spanDigits, List.span_eq_takeWhile_dropWhile]
  exact ⟨fun c hc => List.mem_takeWhile_imp hc, List.takeWhile_append_dropWhile.symm⟩

theorem spanWhole_sound {t digits rest : Text} (h : spanWhole t = some (digits, rest)) :
    ∃ whole : Whole, whole.text = digits ∧ t = digits ++ rest := by
  unfold spanWhole at h
  split at h
  · simp only [Option.some.injEq, Prod.mk.injEq] at h
    rcases h with ⟨rfl, rfl⟩
    have hdigit : ∀ c ∈ ("0" : Text), Text.isAsciiDigit c = true := by decide
    exact ⟨⟨⟨"0", hdigit, by decide⟩, fun _ => rfl⟩, rfl, rfl⟩
  · next hzero =>
    rcases spanDigits_sound t with ⟨hdigit, heq⟩
    cases hspan : spanDigits t with
    | mk ds after =>
        rw [hspan] at hdigit heq
        cases ds with
        | nil => simp only [hspan, reduceCtorEq] at h
        | cons d ds =>
            simp only [hspan, Option.some.injEq, Prod.mk.injEq] at h
            rcases h with ⟨rfl, rfl⟩
            refine ⟨⟨⟨d :: ds, hdigit, List.cons_ne_nil d ds⟩, fun hd => ?_⟩, rfl, heq⟩
            -- A text that starts with a zero is not read by this branch.
            simp only [List.head?_cons, Option.some.injEq] at hd
            exact absurd (by rw [heq, hd]; rfl) (hzero (ds ++ after))

theorem spanFraction_sound (t : Text) :
    ∃ fraction : Option Digits, t = fraction.elim [] Digits.fraction ++ (spanFraction t).2 := by
  unfold spanFraction
  split
  · next more =>
    rcases spanDigits_sound more with ⟨hdigit, heq⟩
    cases hspan : spanDigits more with
    | mk ds after =>
        rw [hspan] at hdigit heq
        cases ds with
        | nil => exact ⟨none, rfl⟩
        | cons d ds =>
            exact ⟨some ⟨d :: ds, hdigit, List.cons_ne_nil d ds⟩, by rw [heq]; rfl⟩
  · exact ⟨none, rfl⟩

theorem spanSign_sound (t : Text) :
    ∃ sign : Text, (sign = [] ∨ sign = "+" ∨ sign = "-") ∧ t = sign ++ (spanSign t).2 := by
  unfold spanSign
  split
  · exact ⟨"-", .inr (.inr rfl), rfl⟩
  · exact ⟨"+", .inr (.inl rfl), rfl⟩
  · exact ⟨[], .inl rfl, rfl⟩

theorem spanExponent_sound (t : Text) :
    ∃ exponent : Option Exponent, t = exponent.elim [] Exponent.text ++ (spanExponent t).2 := by
  unfold spanExponent
  split
  · next c more =>
    by_cases hletter : c = 'e' ∨ c = 'E'
    · rcases spanSign_sound more with ⟨sign, hsign, hmore⟩
      rcases spanDigits_sound (spanSign more).2 with ⟨hdigit, heq⟩
      simp only [if_pos hletter]
      cases hspan : spanDigits (spanSign more).2 with
      | mk ds after =>
          rw [hspan] at hdigit heq
          cases ds with
          | nil => exact ⟨none, rfl⟩
          | cons d ds =>
              refine ⟨some ⟨c, hletter, sign, hsign, ⟨d :: ds, hdigit, List.cons_ne_nil d ds⟩⟩, ?_⟩
              rw [heq] at hmore
              rw [hmore]
              simp only [Option.elim_some, Exponent.text, List.cons_append, List.append_assoc]
    · simp only [if_neg hletter]
      exact ⟨none, rfl⟩
  · exact ⟨none, rfl⟩

theorem spanMinus_sound (t : Text) :
    ∃ sign : Text, (sign = [] ∨ sign = "-") ∧ t = sign ++ (spanMinus t).2 := by
  unfold spanMinus
  split
  · exact ⟨"-", .inr rfl, rfl⟩
  · exact ⟨[], .inl rfl, rfl⟩

theorem readNumber_sound {limit : Option Nat} {t rest : Text} {v : Value}
    (h : readNumber limit t = .ok (v, rest)) : ∃ number : Number, t = number.text ++ rest := by
  unfold readNumber at h
  rcases spanMinus_sound t with ⟨sign, hsign, ht⟩
  cases hwhole : spanWhole (spanMinus t).2 with
  | none => simp only [hwhole, reduceCtorEq] at h
  | some split =>
      rcases spanWhole_sound hwhole with ⟨whole, hdigits, hbody⟩
      rcases spanFraction_sound split.2 with ⟨fraction, hfraction⟩
      rcases spanExponent_sound (spanFraction split.2).2 with ⟨exponent, hexponent⟩
      -- What the number is worth differs from case to case, but not where it ends.
      have hrest : rest = (spanExponent (spanFraction split.2).2).2 := by
        simp only [hwhole] at h
        split at h
        · split at h
          · split at h
            · simp only [reduceCtorEq] at h
            · simp only [Except.ok.injEq, Prod.mk.injEq] at h
              exact h.2.symm
          · simp only [Except.ok.injEq, Prod.mk.injEq] at h
            exact h.2.symm
        · simp only [Except.ok.injEq, Prod.mk.injEq] at h
          exact h.2.symm
      refine ⟨⟨sign, hsign, whole, fraction, exponent⟩, ?_⟩
      rw [ht, hbody, ← hdigits, hfraction, hexponent, ← hrest]
      simp only [Number.text, List.append_assoc]

theorem dropStart?_sound {opening t rest : Text} (h : Text.dropStart? opening t = some rest) :
    t = opening ++ rest := by
  induction opening generalizing t with
  | nil =>
      simp only [Text.dropStart?, Option.some.injEq] at h
      exact h
  | cons a more ih =>
      cases t with
      | nil => simp only [Text.dropStart?, reduceCtorEq] at h
      | cons c behind =>
          simp only [Text.dropStart?] at h
          by_cases hac : a = c
          · rw [if_pos hac] at h
            rw [hac, ih h, List.cons_append]
          · simp only [if_neg hac, reduceCtorEq] at h

theorem readWord?_sound {t rest : Text} {v : Value} (h : readWord? t = some (v, rest)) :
    ∃ word : Word, t = word.text ++ rest := by
  rcases List.exists_of_findSome?_eq_some h with ⟨w, hw, hfound⟩
  simp only [Option.map_eq_some_iff, Prod.mk.injEq] at hfound
  rcases hfound with ⟨behind, hdrop, _, rfl⟩
  exact ⟨⟨w.1, List.mem_map_of_mem hw⟩, dropStart?_sound hdrop⟩

/-! ## Values, members and items -/

section

variable (limit : Option Nat) (fuel : Nat)

/-- What is read as a value is the text of a tree. -/
def ReadsValues : Prop :=
  ∀ ⦃t rest : Text⦄ ⦃v : Value⦄, readValue fuel limit t = .ok (v, rest) →
    ∃ value : Tree, t = value.textWith Key.text ++ rest

/-- What is read as members is their text and the bracket behind them. -/
def ReadsMembers : Prop :=
  ∀ ⦃t rest : Text⦄ ⦃entries : List (Value × Value)⦄,
    readMembers fuel limit t = .ok (entries, rest) →
      ∃ members : Members, t = members.textWith Key.text ++ .char '}' :: rest

/-- What is read as items is their text and the bracket behind them. -/
def ReadsItems : Prop :=
  ∀ ⦃t rest : Text⦄ ⦃values : List Value⦄, readItems fuel limit t = .ok (values, rest) →
    ∃ items : Items, t = items.textWith Key.text ++ .char ']' :: rest

end

section

variable {limit : Option Nat} {fuel : Nat}

theorem readsValues_succ (hmembers : ReadsMembers limit fuel) (hitems : ReadsItems limit fuel) :
    ReadsValues limit (fuel + 1) := by
  intro t rest v h
  unfold readValue at h
  split at h
  · next more =>
    rcases bind_eq_ok.mp h with ⟨⟨s, behind⟩, hs, h⟩
    simp only [pure_eq_ok, Except.ok.injEq, Prod.mk.injEq] at h
    rcases readString_sound hs with ⟨letters, hletters⟩
    refine ⟨.string letters, ?_⟩
    rw [hletters, h.2, Tree.textWith, quoted, enclosed_append]
  · next more =>
    rcases skipSpace_sound more with ⟨gap, hgap⟩
    split at h
    · next behind hempty =>
      simp only [Except.ok.injEq, Prod.mk.injEq] at h
      refine ⟨.emptyObject gap, ?_⟩
      rw [hgap, hempty, h.2, Tree.textWith, enclosed_append]
    · rcases bind_eq_ok.mp h with ⟨⟨entries, behind⟩, hentries, h⟩
      simp only [pure_eq_ok, Except.ok.injEq, Prod.mk.injEq] at h
      rcases hmembers hentries with ⟨members, heq⟩
      refine ⟨.object gap members, ?_⟩
      rw [hgap, heq, h.2, Tree.textWith, enclosed_append, List.append_assoc]
  · next more =>
    rcases skipSpace_sound more with ⟨gap, hgap⟩
    split at h
    · next behind hempty =>
      simp only [Except.ok.injEq, Prod.mk.injEq] at h
      refine ⟨.emptyArray gap, ?_⟩
      rw [hgap, hempty, h.2, Tree.textWith, enclosed_append]
    · rcases bind_eq_ok.mp h with ⟨⟨values, behind⟩, hvalues, h⟩
      simp only [pure_eq_ok, Except.ok.injEq, Prod.mk.injEq] at h
      rcases hitems hvalues with ⟨items, heq⟩
      refine ⟨.array gap items, ?_⟩
      rw [hgap, heq, h.2, Tree.textWith, enclosed_append, List.append_assoc]
  -- Words are tried before numbers, since one of them starts with a minus.
  · cases hword : readWord? t with
    | none =>
        simp only [hword] at h
        rcases readNumber_sound h with ⟨number, heq⟩
        exact ⟨.number number, heq⟩
    | some found =>
        simp only [hword, Except.ok.injEq] at h
        rcases readWord?_sound (hword.trans (congrArg some h)) with ⟨word, heq⟩
        exact ⟨.word word, heq⟩

/-- The text of a member in front of more text. -/
theorem member_textWith (letters : List Letter) (gap before after : Gap) (value : Tree) (rest : Text) :
    (Member.mk ⟨letters, gap⟩ before value after).textWith Key.text ++ rest =
      stringMark :: (chars letters ++ stringMark :: (gap.text ++ keyMark ::
        (before.text ++ (value.textWith Key.text ++ (after.text ++ rest))))) := by
  simp only [Member.textWith, Key.text, quoted, enclosed_append, List.append_assoc, List.cons_append,
    List.nil_append]

theorem readsMembers_succ (hvalues : ReadsValues limit fuel) (hmembers : ReadsMembers limit fuel) :
    ReadsMembers limit (fuel + 1) := by
  intro t rest entries h
  unfold readMembers at h
  split at h
  · next more =>
    rcases bind_eq_ok.mp h with ⟨⟨s, behind⟩, hs, h⟩
    rcases readString_sound hs with ⟨letters, hletters⟩
    rcases skipSpace_sound behind with ⟨gap, hgap⟩
    simp only at h
    split at h
    · next afterColon hcolon =>
      rcases bind_eq_ok.mp h with ⟨⟨v, afterValue⟩, hv, h⟩
      rcases skipSpace_sound afterColon with ⟨before, hbefore⟩
      rcases hvalues hv with ⟨value, hvalue⟩
      rcases skipSpace_sound afterValue with ⟨after, hafter⟩
      -- What has been read so far is one member, whatever stands behind it.
      have hm : stringMark :: more =
          (Member.mk ⟨letters, gap⟩ before value after).textWith Key.text ++ skipSpace afterValue := by
        rw [member_textWith, ← hafter, ← hvalue, ← hbefore, ← hcolon, ← hgap, ← hletters]
      simp only at h
      split at h
      · next behind hend =>
        simp only [pure_eq_ok, Except.ok.injEq, Prod.mk.injEq] at h
        refine ⟨.last (.mk ⟨letters, gap⟩ before value after), ?_⟩
        rw [hm, hend, h.2, Members.textWith]
      · next behind hnext =>
        rcases bind_eq_ok.mp h with ⟨⟨others, last⟩, hothers, h⟩
        simp only [pure_eq_ok, Except.ok.injEq, Prod.mk.injEq] at h
        rcases skipSpace_sound behind with ⟨lead, hlead⟩
        rcases hmembers hothers with ⟨members, heq⟩
        refine ⟨.next (.mk ⟨letters, gap⟩ before value after) lead members, ?_⟩
        rw [hm, hnext, hlead, heq, h.2, Members.textWith]
        simp only [List.cons_append, List.append_assoc]
      · simp only [reduceCtorEq] at h
    · simp only [reduceCtorEq] at h
  · simp only [reduceCtorEq] at h

theorem readsItems_succ (hvalues : ReadsValues limit fuel) (hitems : ReadsItems limit fuel) :
    ReadsItems limit (fuel + 1) := by
  intro t rest values h
  unfold readItems at h
  rcases bind_eq_ok.mp h with ⟨⟨v, afterValue⟩, hv, h⟩
  rcases hvalues hv with ⟨value, hvalue⟩
  rcases skipSpace_sound afterValue with ⟨after, hafter⟩
  simp only at h
  split at h
  · next behind hend =>
    simp only [pure_eq_ok, Except.ok.injEq, Prod.mk.injEq] at h
    refine ⟨.last value after, ?_⟩
    rw [hvalue, hafter, hend, h.2]
    simp only [Items.textWith, List.append_assoc]
  · next behind hnext =>
    rcases bind_eq_ok.mp h with ⟨⟨others, last⟩, hothers, h⟩
    simp only [pure_eq_ok, Except.ok.injEq, Prod.mk.injEq] at h
    rcases skipSpace_sound behind with ⟨lead, hlead⟩
    rcases hitems hothers with ⟨items, heq⟩
    refine ⟨.next value after lead items, ?_⟩
    rw [hvalue, hafter, hnext, hlead, heq, h.2]
    simp only [Items.textWith, List.cons_append, List.append_assoc]
  · simp only [reduceCtorEq] at h

end

/-- The readers of values, members and items call one another with less fuel. -/
theorem reads_all (limit : Option Nat) (fuel : Nat) :
    ReadsValues limit fuel ∧ ReadsMembers limit fuel ∧ ReadsItems limit fuel := by
  induction fuel with
  | zero =>
      -- Without fuel nothing is read.
      refine ⟨fun t rest v h => ?_, fun t rest v h => ?_, fun t rest v h => ?_⟩
      · simp only [readValue, reduceCtorEq] at h
      · simp only [readMembers, reduceCtorEq] at h
      · simp only [readItems, reduceCtorEq] at h
  | succ fuel ih =>
      rcases ih with ⟨hvalues, hmembers, hitems⟩
      exact ⟨readsValues_succ hmembers hitems, readsMembers_succ hvalues hmembers,
        readsItems_succ hvalues hitems⟩

/-- A text that is read is the text of a document. -/
theorem read_sound {limit : Option Nat} {t : Text} {v : Value} (h : read limit t = .ok v) :
    ∃ d : Document, d.text = t := by
  unfold read at h
  split at h
  · simp only [reduceCtorEq] at h
  · rcases bind_eq_ok.mp h with ⟨⟨v', behind⟩, hv, h⟩
    rcases skipSpace_sound t with ⟨before, hbefore⟩
    rcases (reads_all limit _).1 hv with ⟨value, hvalue⟩
    rcases skipSpace_sound behind with ⟨after, hafter⟩
    simp only at h
    split at h
    · next hend =>
      refine ⟨⟨before, value, after⟩, ?_⟩
      rw [hend, List.append_nil] at hafter
      rw [Document.text, Document.textWith, List.append_assoc, ← hafter, ← hvalue, ← hbefore]
    · simp only [reduceCtorEq] at h

end Json

end CallSnippets
