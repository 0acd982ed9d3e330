import CallSnippets.Proofs.Json.Accepted

/-!
# Numbers that are too long

A reader with a limit on digits gives up at a whole number that has more of them. It gives up for this
reason only where it has come to such a number, so the number stands in the text as it is written, and
the digits that the failure tells are its digits. The text need not be JSON otherwise: what stands
behind the number is never looked at.

What the readers have passed over before is known from what they accept. So the number is found by
following the readers down to it, and every step on the way back puts more text in front of it.

## Main definitions

* `Exceeds`: A text has a whole number in it with more digits than a limit allows.

## Theorems

* `readNumber_tooLong`: The number at which a reader gives up.
* `findsValues_succ`, `findsMembers_succ`, `findsItems_succ`: Readers with one more step of fuel.
* `read_tooLong`: A text at which a reader gives up has a number that is too long.
-/

namespace CallSnippets

namespace Json

/-- A whole number with more digits than the limit allows stands in the text. -/
structure Exceeds (limit : Option Nat) (digits : Nat) (t : Text) : Prop where
  /-- The limit is below the count of digits. -/
  limited : ∃ most, limit = some most ∧ most < digits
  /-- The number has that many digits. -/
  number : ∃ (n : Number) (before after : Text),
    t = before ++ (n.text ++ after) ∧ n.isWhole = true ∧ n.whole.text.length = digits

section

variable {limit : Option Nat} {digits : Nat}

theorem Exceeds.append {t : Text} (h : Exceeds limit digits t) (front : Text) :
    Exceeds limit digits (front ++ t) := by
  rcases h.number with ⟨n, before, after, rfl, hwhole, hdigits⟩
  exact ⟨h.limited, n, front ++ before, after, (List.append_assoc ..).symm, hwhole, hdigits⟩

theorem Exceeds.cons {t : Text} (h : Exceeds limit digits t) (c : CodePoint) :
    Exceeds limit digits (c :: t) :=
  h.append [c]

theorem exceeds_skipSpace {t : Text} (h : Exceeds limit digits (skipSpace t)) :
    Exceeds limit digits t := by
  rcases skipSpace_sound t with ⟨gap, hgap⟩
  rw [hgap]
  exact h.append gap.text

/-! ## Parts -/

theorem readNumber_tooLong {t : Text} (h : readNumber limit t = .error (.tooLong digits)) :
    Exceeds limit digits t := by
  unfold readNumber at h
  rcases spanMinus_sound t with ⟨sign, hsign, ht⟩
  cases hwhole : spanWhole (spanMinus t).2 with
  | none => simp only [hwhole, Except.error.injEq, reduceCtorEq] at h
  | some split =>
      rcases spanWhole_sound hwhole with ⟨whole, hdigits, hbody⟩
      simp only [hwhole] at h
      -- A number with a fraction or an exponent has no limit.
      split at h
      · split at h
        · next most =>
          split at h
          · next hmost =>
            simp only [Except.error.injEq, Failure.tooLong.injEq] at h
            rw [h] at hmost
            refine ⟨⟨most, rfl, hmost⟩, ⟨sign, hsign, whole, none, none⟩, [], split.2, ?_, rfl, ?_⟩
            · rw [ht, hbody, ← hdigits]
              simp only [Number.text, Option.elim_none, List.append_nil, List.nil_append,
                List.append_assoc]
            · rw [hdigits, h]
          · simp only [reduceCtorEq] at h
        · simp only [reduceCtorEq] at h
      · simp only [reduceCtorEq] at h

theorem readCodeEscape_tooLong (t : Text) : readCodeEscape t ≠ .error (.tooLong digits) := by
  intro h
  unfold readCodeEscape at h
  split at h
  · simp only [Except.error.injEq, reduceCtorEq] at h
  · simp only [Except.error.injEq, reduceCtorEq] at h
  · split at h
    · split at h
      · split at h
        · simp only [Except.error.injEq, reduceCtorEq] at h
        · split at h <;> simp only [reduceCtorEq] at h
      · simp only [reduceCtorEq] at h
    · simp only [reduceCtorEq] at h

/-- There are no numbers in strings. -/
theorem readString_tooLong (fuel : Nat) (opening t : Text) :
    readString fuel opening t ≠ .error (.tooLong digits) := by
  induction fuel generalizing t with
  | zero =>
      intro h
      unfold readString at h
      split at h <;> simp only [Except.error.injEq, reduceCtorEq] at h
  | succ fuel ih =>
      intro h
      unfold readString at h
      split at h
      · simp only [Except.error.injEq, reduceCtorEq] at h
      · simp only [reduceCtorEq] at h
      · simp only [Except.error.injEq, reduceCtorEq] at h
      · next c more =>
        -- Behind the escape, whichever it is, the rest of the string is read.
        have hrest : ∀ {behind : Text} {put : Text × Text → Except Failure (Text × Text)},
            (∀ found, ∃ made, put found = .ok made) →
              readString fuel opening behind >>= put ≠ .error (.tooLong digits) := by
          intro behind put hput h
          rcases bind_eq_error.mp h with h | ⟨found, _, h⟩
          · exact ih behind h
          · rcases hput found with ⟨made, hmade⟩
            simp only [hmade, reduceCtorEq] at h
        simp only at h
        split at h
        · rcases bind_eq_error.mp h with h | ⟨_, _, h⟩
          · exact readCodeEscape_tooLong _ h
          · exact hrest (fun _ => ⟨_, rfl⟩) h
        · split at h
          · exact hrest (fun _ => ⟨_, rfl⟩) h
          · simp only [error_bind, Except.error.injEq, reduceCtorEq] at h
      · next c more _ _ _ =>
        simp only at h
        split at h
        · simp only [Except.error.injEq, reduceCtorEq] at h
        · rcases bind_eq_error.mp h with h | ⟨_, _, h⟩
          · exact ih more h
          · simp only [pure_eq_ok, reduceCtorEq] at h

end

/-! ## Values, members and items -/

section

variable (limit : Option Nat) (fuel : Nat)

/-- A reader of values gives up at a number in its text. -/
def FindsValues : Prop :=
  ∀ ⦃t : Text⦄ ⦃digits : Nat⦄, readValue fuel limit t = .error (.tooLong digits) →
    Exceeds limit digits t

/-- A reader of members gives up at a number in its text. -/
def FindsMembers : Prop :=
  ∀ ⦃t : Text⦄ ⦃digits : Nat⦄, readMembers fuel limit t = .error (.tooLong digits) →
    Exceeds limit digits t

/-- A reader of items gives up at a number in its text. -/
def FindsItems : Prop :=
  ∀ ⦃t : Text⦄ ⦃digits : Nat⦄, readItems fuel limit t = .error (.tooLong digits) →
    Exceeds limit digits t

end

section

variable {limit : Option Nat} {fuel : Nat}

theorem findsValues_succ (hmembers : FindsMembers limit fuel) (hitems : FindsItems limit fuel) :
    FindsValues limit (fuel + 1) := by
  intro t digits h
  unfold readValue at h
  split at h
  · rcases bind_eq_error.mp h with h | ⟨_, _, h⟩
    · exact absurd h (readString_tooLong _ _ _)
    · simp only [pure_eq_ok, reduceCtorEq] at h
  · split at h
    · simp only [reduceCtorEq] at h
    · rcases bind_eq_error.mp h with h | ⟨_, _, h⟩
      · exact (exceeds_skipSpace (hmembers h)).cons _
      · simp only [pure_eq_ok, reduceCtorEq] at h
  · split at h
    · simp only [reduceCtorEq] at h
    · rcases bind_eq_error.mp h with h | ⟨_, _, h⟩
      · exact (exceeds_skipSpace (hitems h)).cons _
      · simp only [pure_eq_ok, reduceCtorEq] at h
  · cases hword : readWord? t with
    | none =>
        simp only [hword] at h
        exact readNumber_tooLong h
    | some found => simp only [hword, reduceCtorEq] at h

theorem findsMembers_succ (hvalues : FindsValues limit fuel) (hmembers : FindsMembers limit fuel) :
    FindsMembers limit (fuel + 1) := by
  intro t digits h
  unfold readMembers at h
  split at h
  · next more =>
    rcases bind_eq_error.mp h with h | ⟨⟨s, behind⟩, hs, h⟩
    · exact absurd h (readString_tooLong _ _ _)
    · rcases readString_sound hs with ⟨letters, hletters⟩
      -- What is found behind the name is found in the whole text.
      suffices hbehind : Exceeds limit digits (skipSpace behind) by
        rw [hletters]
        exact (((exceeds_skipSpace hbehind).cons stringMark).append (chars letters)).cons _
      simp only at h
      split at h
      · next afterColon hcolon =>
        rw [hcolon]
        refine Exceeds.cons (exceeds_skipSpace ?_) _
        rcases bind_eq_error.mp h with h | ⟨⟨v, afterValue⟩, hv, h⟩
        · exact hvalues h
        · rcases (reads_all limit fuel).1 hv with ⟨value, hvalue⟩
          rw [hvalue]
          refine Exceeds.append (exceeds_skipSpace ?_) _
          simp only at h
          split at h
          · simp only [pure_eq_ok, reduceCtorEq] at h
          · next next hnext =>
            rw [hnext]
            rcases bind_eq_error.mp h with h | ⟨_, _, h⟩
            · exact (exceeds_skipSpace (hmembers h)).cons _
            · simp only [pure_eq_ok, reduceCtorEq] at h
          · simp only [Except.error.injEq, reduceCtorEq] at h
      · simp only [Except.error.injEq, reduceCtorEq] at h
  · simp only [Except.error.injEq, reduceCtorEq] at h

theorem findsItems_succ (hvalues : FindsValues limit fuel) (hitems : FindsItems limit fuel) :
    FindsItems limit (fuel + 1) := by
  intro t digits h
  unfold readItems at h
  rcases bind_eq_error.mp h with h | ⟨⟨v, afterValue⟩, hv, h⟩
  · exact hvalues h
  · rcases (reads_all limit fuel).1 hv with ⟨value, hvalue⟩
    rw [hvalue]
    refine Exceeds.append (exceeds_skipSpace ?_) _
    simp only at h
    split at h
    · simp only [pure_eq_ok, reduceCtorEq] at h
    · next next hnext =>
      rw [hnext]
      rcases bind_eq_error.mp h with h | ⟨_, _, h⟩
      · exact (exceeds_skipSpace (hitems h)).cons _
      · simp only [pure_eq_ok, reduceCtorEq] at h
    · simp only [Except.error.injEq, reduceCtorEq] at h

end

theorem finds_all (limit : Option Nat) (fuel : Nat) :
    FindsValues limit fuel ∧ FindsMembers limit fuel ∧ FindsItems limit fuel := by
  induction fuel with
  | zero =>
      -- Without fuel a reader fails, but not because of a number.
      refine ⟨fun t digits h => ?_, fun t digits h => ?_, fun t digits h => ?_⟩
      · simp only [readValue, Except.error.injEq, reduceCtorEq] at h
      · simp only [readMembers, Except.error.injEq, reduceCtorEq] at h
      · simp only [readItems, Except.error.injEq, reduceCtorEq] at h
  | succ fuel ih =>
      rcases ih with ⟨hvalues, hmembers, hitems⟩
      exact ⟨findsValues_succ hmembers hitems, findsMembers_succ hvalues hmembers,
        findsItems_succ hvalues hitems⟩

/-- A text at which a reader gives up for a number that is too long has that number in it. -/
theorem read_tooLong {limit : Option Nat} {t : Text} {digits : Nat}
    (h : read limit t = .error (.tooLong digits)) : Exceeds limit digits t := by
  unfold read at h
  split at h
  · simp only [Except.error.injEq, reduceCtorEq] at h
  · rcases bind_eq_error.mp h with h | ⟨⟨v, behind⟩, _, h⟩
    · exact exceeds_skipSpace ((finds_all limit _).1 h)
    · simp only at h
      split at h
      · simp only [pure_eq_ok, reduceCtorEq] at h
      · simp only [Except.error.injEq, reduceCtorEq] at h

end Json

end CallSnippets
