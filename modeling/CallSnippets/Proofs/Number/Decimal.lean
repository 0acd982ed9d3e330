import CallSnippets.Number.Decimal

/-!
# Decimal texts

The decimal text of a natural number is made of digits, of which there is at least one and the first of
which is a zero only for zero itself. So it is a number as other formats write numbers, and the digits give
the number back.

## Theorems

* `natText_isDigit`, `natText_ne_nil`, `natText_zero`: What the text looks like.
* `ofDigits_natText`: The number with these digits.
* `intText_eq`: The text of a whole number is that of its size, behind a minus if it is negative.
-/

namespace CallSnippets

theorem natText_eq (n : Nat) : natText n = (Nat.toDigits 10 n).map CodePoint.char := by
  rw [natText, Text.ofString, Nat.toList_repr]

theorem natText_isDigit (n : Nat) : ∀ c ∈ natText n, Text.isAsciiDigit c = true := by
  intro c hc
  rw [natText_eq, List.mem_map] at hc
  rcases hc with ⟨d, hd, rfl⟩
  have hdigit : d.isDigit = true := Nat.isDigit_of_mem_toDigits (by decide) (by decide) hd
  rw [Char.isDigit, Bool.and_eq_true, decide_eq_true_eq, decide_eq_true_eq] at hdigit
  rw [Text.isAsciiDigit, Bool.and_eq_true, decide_eq_true_eq, decide_eq_true_eq]
  exact hdigit

theorem natText_ne_nil (n : Nat) : natText n ≠ [] := by
  rw [natText_eq, ne_eq, List.map_eq_nil_iff]
  exact Nat.toDigits_ne_nil

/-- Only zero starts with a zero. -/
theorem eq_zero_of_head?_toDigits (n : Nat) (h : (Nat.toDigits 10 n).head? = some '0') : n = 0 := by
  induction n using Nat.strongRecOn with
  | ind n ih =>
      by_cases hsmall : n < 10
      · rw [Nat.toDigits_of_lt_base hsmall, List.head?_cons, Option.some.injEq] at h
        exact Nat.digitChar_eq_zero.mp h
      · -- The first digits are those of a tenth of the number, which is no zero.
        rw [Nat.toDigits_of_base_le (by decide) (Nat.le_of_not_lt hsmall), List.head?_append] at h
        have hfirst : (Nat.toDigits 10 (n / 10)).head? = some '0' := by
          cases hhead : (Nat.toDigits 10 (n / 10)).head? with
          | none => exact absurd (List.head?_eq_none_iff.mp hhead) Nat.toDigits_ne_nil
          | some c => rwa [hhead, Option.some_or] at h
        have htenth := ih (n / 10) (by omega) hfirst
        omega

theorem natText_zero (n : Nat) (h : (natText n).head? = some (.char '0')) : (natText n).tail = [] := by
  rw [natText_eq, List.head?_map] at h
  cases hhead : (Nat.toDigits 10 n).head? with
  | none =>
      rw [hhead] at h
      cases h
  | some c =>
      rw [hhead] at h
      cases h
      rw [eq_zero_of_head?_toDigits n hhead]
      rfl

/-- The digits of a number give the number back. -/
theorem ofDigits_natText (n : Nat) :
    ofDigits 10 ((natText n).map fun c => c.toNat - 48) = n := by
  have hdigits : ofDigits 10 ((natText n).map fun c => c.toNat - 48) =
      Nat.ofDigitChars 10 (Nat.toDigits 10 n) 0 := by
    rw [natText_eq, List.map_map, ofDigits, digitsFrom, List.foldl_map, Nat.ofDigitChars_eq_foldl]
    refine congrFun (congrFun (congrArg List.foldl ?_) 0) _
    funext value c
    rw [Nat.mul_comm]
    rfl
  rw [hdigits, Nat.ofDigitChars_ten_toDigits]

/-- The sign before the text of a whole number. -/
def signText (n : Int) : Text :=
  if n < 0 then "-" else []

/-- The text of a whole number is that of its size behind its sign. -/
theorem intText_eq (n : Int) : intText n = signText n ++ natText n.natAbs := by
  cases n with
  | ofNat n =>
      have hsign : ¬Int.ofNat n < 0 := Int.not_lt.mpr (Int.natCast_nonneg n)
      rw [signText, if_neg hsign]
      rfl
  | negSucc n =>
      rw [signText, if_pos (Int.negSucc_lt_zero n)]
      rfl

/-- The text of a number has digits and a minus only. -/
theorem intText_mem {n : Int} {c : CodePoint} (hc : c ∈ intText n) :
    Text.isAsciiDigit c = true ∨ c = '-' := by
  rw [intText_eq, List.mem_append] at hc
  rcases hc with hsign | hdigit
  · rw [signText] at hsign
    split at hsign
    · exact .inr (List.mem_singleton.mp hsign)
    · exact absurd hsign List.not_mem_nil
  · exact .inl (natText_isDigit _ c hdigit)

end CallSnippets
