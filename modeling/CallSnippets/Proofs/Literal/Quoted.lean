import CallSnippets.Proofs.Json.Meaning
import CallSnippets.Proofs.Snippet.Escaped

/-!
# Strings of JavaScript

What stands between the single marks of a string in JavaScript, and the units of 16 bits that the string
consists of. A character stands for itself unless it is a mark, a backslash or one of two ends of lines.
A backslash makes an escape of what follows, which stands for one character at most, and for nothing if
it is an end of a line. Digits make no escapes, but for a zero that no digit follows: a snippet awaits a
result outside of any function, so it is a module, and modules do without the old escapes.

A text with backslashes before its marks is the inside of such a string again. It stands for the text
that it was made from exactly if that text has neither backslashes nor ends of lines. One way this is
seen from the text as it is. For the other way it is enough to count. An escape stands for less than it
is long, and of all escapes only a backslash with a mark behind it loses no more than the backslash that
was added for that mark. So there are no other escapes.

## Main definitions

* `CodePoint.units`, `Text.units`: The units that characters are in a string.
* `Escape`: What may follow a backslash, and what it stands for.
* `StringBody`: What may stand between marks, and what it stands for.
* `IsPlainText`: The text has neither backslashes nor ends of lines.

## Theorems

* `Escape.length_units`: An escape stands for less than it is long.
* `StringBody.length_units`: What a string may lose.
* `stringBody_escapeSingle`: When an escaped text stands for the text that it was made from.
-/

namespace CallSnippets

/-- The units of 16 bits that the code point is in a string. -/
def CodePoint.units (c : CodePoint) : List Nat :=
  if c.toNat < 0x10000 then [c.toNat]
  else [0xD800 + (c.toNat - 0x10000) / 0x400, 0xDC00 + (c.toNat - 0x10000) % 0x400]

/-- The units of 16 bits that the text is in a string. -/
def Text.units (t : Text) : List Nat :=
  t.flatMap CodePoint.units

namespace JavaScript

/-- The character ends a line. -/
def isLineEnd (c : CodePoint) : Bool :=
  c = '\n' || c = '\r' || c.toNat = 0x2028 || c.toNat = 0x2029

/-- The unit that an escape of one letter stands for. -/
def letterUnit? (c : CodePoint) : Option Nat :=
  match c with
  | '\'' => some 39
  | '"' => some 34
  | '\\' => some 92
  | 'b' => some 8
  | 'f' => some 12
  | 'n' => some 10
  | 'r' => some 13
  | 't' => some 9
  | 'v' => some 11
  | _ => none

/-- What may follow a backslash in a string in front of more text, and the units that it stands for. -/
inductive Escape : Text → Text → List Nat → Prop where
  /-- A letter with a meaning of its own. -/
  | letter {c : CodePoint} {unit : Nat} {rest : Text} (hletter : letterUnit? c = some unit) :
      Escape [c] rest [unit]
  /-- Any other character that starts no escape stands for itself. -/
  | other {c : CodePoint} {rest : Text} (hletter : letterUnit? c = none) (hline : isLineEnd c = false)
      (hdigit : Text.isAsciiDigit c = false) (hhex : c ≠ 'x') (hcode : c ≠ 'u') : Escape [c] rest c.units
  /-- A zero that no digit follows. -/
  | zero {rest : Text} (hdigit : Json.StartsNot Text.isAsciiDigit rest) : Escape "0" rest [0]
  /-- A unit by two digits. -/
  | hex {digits rest : Text} {n : Nat} (hnumber : Text.hexNumber? 2 0 digits = some (n, [])) :
      Escape ('x' :: digits) rest [n]
  /-- A unit by four digits. -/
  | code {digits rest : Text} {n : Nat} (hnumber : Text.hexNumber? 4 0 digits = some (n, [])) :
      Escape ('u' :: digits) rest [n]
  /-- A code point by its digits. -/
  | point {digits rest : Text} {n : Nat} (hdigits : digits ≠ [])
      (hnumber : Text.hexNumber? digits.length 0 digits = some (n, [])) (hlast : n ≤ 0x10FFFF) :
      Escape ('u' :: enclosed '\x7b' '\x7d' digits) rest (CodePoint.ofNat n).units
  /-- The end of a line stands for nothing. -/
  | line {c : CodePoint} {rest : Text} (hline : isLineEnd c = true)
      (hpair : c = '\r' → rest.head? ≠ some (.char '\n')) : Escape [c] rest []
  /-- Two characters that end a line together stand for nothing. -/
  | lines {rest : Text} : Escape "\r\n" rest []

/-- What may stand between the marks of a string, and the units that it stands for. -/
inductive StringBody : Text → List Nat → Prop where
  | nil : StringBody [] []
  /-- A character that stands for itself. -/
  | plain {c : CodePoint} {rest : Text} {units : List Nat} (hmark : c ≠ singleMark)
      (hback : c ≠ backslash) (hfeed : c ≠ '\n') (hreturn : c ≠ '\r') (hrest : StringBody rest units) :
      StringBody (c :: rest) (c.units ++ units)
  /-- A backslash with an escape behind it. -/
  | escape {t rest : Text} {units more : List Nat} (hescape : Escape t rest units)
      (hrest : StringBody rest more) : StringBody (backslash :: (t ++ rest)) (units ++ more)

/-- The text has neither backslashes nor the ends of lines that a string must not hold. -/
def IsPlainText (t : Text) : Prop :=
  ∀ c ∈ t, c ≠ backslash ∧ c ≠ '\n' ∧ c ≠ '\r'

instance (t : Text) : Decidable (IsPlainText t) :=
  inferInstanceAs (Decidable (∀ c ∈ t, _))

/-! ## Lengths -/

theorem units_cons (c : CodePoint) (t : Text) : Text.units (c :: t) = c.units ++ Text.units t := rfl

theorem units_append (a b : Text) : Text.units (a ++ b) = Text.units a ++ Text.units b :=
  List.flatMap_append

theorem length_characterUnits (c : CodePoint) : 1 ≤ c.units.length ∧ c.units.length ≤ 2 := by
  unfold CodePoint.units
  split
  · exact ⟨Nat.le_refl 1, Nat.le_succ 1⟩
  · exact ⟨Nat.le_succ 1, Nat.le_refl 2⟩

theorem length_le_units (t : Text) : t.length ≤ (Text.units t).length := by
  induction t with
  | nil => exact Nat.le_refl 0
  | cons c rest ih =>
      have hc := (length_characterUnits c).1
      rw [units_cons, List.length_append, List.length_cons]
      omega

/-- There are no marks among digits. -/
theorem count_of_hexNumber {count n : Nat} {digits : Text}
    (h : Text.hexNumber? count 0 digits = some (n, [])) :
    digits.length = count ∧ digits.count singleMark = 0 := by
  rcases Json.hexNumber?_sound h with ⟨all, hlength, hhex, hdigits⟩
  rw [List.append_nil] at hdigits
  rw [hdigits]
  refine ⟨hlength, List.count_eq_zero.mpr fun hmem => ?_⟩
  exact absurd (hhex singleMark hmem) (by decide)

/-- An escape stands for less than it is long together with its backslash, unless it is a mark. -/
theorem Escape.length_units {t rest : Text} {units : List Nat} (h : Escape t rest units) :
    (t = [singleMark] ∧ units = [39]) ∨
      units.length + t.count singleMark ≤ (Text.units t).length := by
  have hlength := length_le_units t
  -- An escape that is not a mark has no mark in it at all.
  cases h with
  | letter hletter =>
      rename_i c unit
      by_cases hmark : c = singleMark
      · rw [hmark] at hletter ⊢
        exact .inl ⟨rfl, by rw [← Option.some.inj hletter]⟩
      · rw [List.count_singleton, if_neg (by simpa using hmark)]
        exact .inr hlength
  | other hletter hline hdigit hhex hcode =>
      rename_i c
      have hmark : c ≠ singleMark := by
        rintro rfl
        exact absurd hletter (by decide)
      rw [List.count_singleton, if_neg (by simpa using hmark)]
      exact .inr (by simp [Text.units])
  | zero hdigit => exact .inr (by decide)
  | hex hnumber =>
      rcases count_of_hexNumber hnumber with ⟨hcount, hmarks⟩
      rw [List.count_cons_of_ne (by decide), hmarks]
      rw [List.length_cons, hcount] at hlength
      exact .inr (Nat.le_trans (Nat.le_add_left 1 _) hlength)
  | code hnumber =>
      rcases count_of_hexNumber hnumber with ⟨hcount, hmarks⟩
      rw [List.count_cons_of_ne (by decide), hmarks]
      rw [List.length_cons, hcount] at hlength
      exact .inr (Nat.le_trans (Nat.le_add_left 1 _) hlength)
  | point hdigits hnumber hlast =>
      -- A code point is two units at most, and its brackets alone are as long as that.
      rename_i digits n
      have hunits := (length_characterUnits (.ofNat n)).2
      have hbrackets : (enclosed (.char '\x7b') (.char '\x7d') digits).count singleMark = 0 := by
        rw [enclosed, List.count_append, List.count_cons_of_ne (by decide),
          (count_of_hexNumber hnumber).2]
        decide
      rw [List.count_cons_of_ne (by decide), hbrackets]
      have hlong : (.char 'u' :: enclosed (.char '\x7b') (.char '\x7d') digits : Text).length =
          digits.length + 3 := by simp [enclosed]
      rw [hlong] at hlength
      exact .inr (by omega)
  | line hline hpair =>
      rename_i c
      have hmark : c ≠ singleMark := by
        rintro rfl
        exact absurd hline (by decide)
      rw [List.count_singleton, if_neg (by simpa using hmark)]
      exact .inr (Nat.zero_le _)
  | lines => exact .inr (by decide)

/-- Only a backslash has the unit of a backslash. -/
theorem eq_backslash_of_unit {c : CodePoint} (h : 92 ∈ c.units) : c = backslash := by
  have hnumber : c.toNat = 92 := by
    unfold CodePoint.units at h
    split at h
    · exact (List.mem_singleton.mp h).symm
    · -- The halves of a character are far above.
      simp only [List.mem_cons, List.not_mem_nil, or_false] at h
      omega
  rw [← CodePoint.ofNat_toNat c, hnumber]
  rfl

/-- A string stands for no more than it is long, with a unit less for each mark. It stands for as much
    only if it holds no other escapes than those of marks, and then there are no backslashes in it. -/
theorem StringBody.length_units {t : Text} {units : List Nat} (h : StringBody t units) :
    units.length + t.count singleMark ≤ (Text.units t).length ∧
      (units.length + t.count singleMark = (Text.units t).length →
        92 ∉ units ∧ ∀ c ∈ t, c ≠ '\n' ∧ c ≠ '\r') := by
  induction h with
  | nil => exact ⟨Nat.le_refl 0, fun _ => ⟨List.not_mem_nil, fun c hc => absurd hc List.not_mem_nil⟩⟩
  | plain hmark hback hfeed hreturn hrest ih =>
      rename_i c rest units
      rw [List.count_cons_of_ne hmark, units_cons, List.length_append, List.length_append]
      refine ⟨by omega, fun heq => ?_⟩
      rcases ih.2 (by omega) with ⟨hunits, hline⟩
      rw [List.mem_append, List.forall_mem_cons]
      refine ⟨?_, ⟨hfeed, hreturn⟩, hline⟩
      rintro (hmem | hmem)
      · exact hback (eq_backslash_of_unit hmem)
      · exact hunits hmem
  | escape hescape hrest ih =>
      rename_i t rest units more
      rw [List.count_cons_of_ne (by decide), List.count_append, units_cons, units_append,
        List.length_append, List.length_append, List.length_append]
      have hback : backslash.units.length = 1 := rfl
      rcases hescape.length_units with ⟨rfl, rfl⟩ | hless
      · -- The mark behind the backslash makes up for it.
        have hunits : (Text.units [singleMark]).length = 1 := rfl
        have hcount : [singleMark].count singleMark = 1 := rfl
        rw [hunits, hcount, List.length_singleton, hback]
        refine ⟨by omega, fun heq => ?_⟩
        rcases ih.2 (by omega) with ⟨hmore, hline⟩
        rw [List.mem_append, List.forall_mem_cons, List.singleton_append, List.forall_mem_cons]
        refine ⟨?_, by decide, by decide, hline⟩
        rintro (hmem | hmem)
        · exact absurd hmem (by decide)
        · exact hmore hmem
      · exact ⟨by omega, fun heq => absurd heq (by omega)⟩

/-! ## Escaped texts -/

theorem escapeSingle_lengths (t : Text) :
    (escapeSingle t).count singleMark = t.count singleMark ∧
      (Text.units (escapeSingle t)).length = (Text.units t).length + t.count singleMark := by
  induction t with
  | nil => exact ⟨rfl, rfl⟩
  | cons c rest ih =>
      rw [escapeSingle_cons, List.count_append, units_append, units_cons, List.length_append,
        List.length_append, ih.1, ih.2]
      by_cases hmark : c = singleMark
      · rw [hmark, if_pos rfl, List.count_cons_self]
        have hunits : (Text.units [backslash, singleMark]).length = 2 := rfl
        have hcount : [backslash, singleMark].count singleMark = 1 := rfl
        have hone : singleMark.units.length = 1 := rfl
        rw [hunits, hcount, hone]
        exact ⟨by omega, by omega⟩
      · rw [if_neg hmark, List.count_cons_of_ne hmark, List.count_cons_of_ne hmark, List.count_nil]
        have hunits : (Text.units [c]).length = c.units.length := by simp [Text.units]
        rw [hunits]
        exact ⟨by omega, by omega⟩

theorem mem_escapeSingle {t : Text} {c : CodePoint} (hc : c ∈ t) : c ∈ escapeSingle t := by
  induction t with
  | nil => exact absurd hc List.not_mem_nil
  | cons d rest ih =>
      rw [escapeSingle_cons, List.mem_append]
      rcases List.mem_cons.mp hc with rfl | hc
      · left
        split
        · next hmark =>
          rw [hmark]
          exact List.mem_cons_of_mem _ (List.mem_cons_self ..)
        · exact List.mem_cons_self ..
      · exact .inr (ih hc)

/-- An escaped text stands for the text that it was made from exactly if that text is plain. -/
theorem stringBody_escapeSingle (t : Text) :
    StringBody (escapeSingle t) (Text.units t) ↔ IsPlainText t := by
  constructor
  · intro h c hc
    -- What the marks cost is what was added for them, so the string loses nothing else.
    have heq : (Text.units t).length + (escapeSingle t).count singleMark =
        (Text.units (escapeSingle t)).length := by
      rw [(escapeSingle_lengths t).1, (escapeSingle_lengths t).2]
    rcases h.length_units.2 heq with ⟨hback, hline⟩
    refine ⟨?_, hline c (mem_escapeSingle hc)⟩
    rintro rfl
    exact hback (List.mem_flatMap.mpr ⟨backslash, hc, by decide⟩)
  · intro h
    induction t with
    | nil => exact .nil
    | cons c rest ih =>
        have hrest := ih fun d hd => h d (List.mem_cons_of_mem c hd)
        rcases h c (List.mem_cons_self ..) with ⟨hback, hfeed, hreturn⟩
        rw [escapeSingle_cons, units_cons]
        by_cases hmark : c = singleMark
        · rw [hmark, if_pos rfl]
          exact .escape (.letter (c := singleMark) rfl) hrest
        · rw [if_neg hmark]
          exact .plain hmark hback hfeed hreturn hrest

end JavaScript

end CallSnippets
