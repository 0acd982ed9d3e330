import CallSnippets.Number.Shortest
import CallSnippets.Proofs.Json.Closed
import CallSnippets.Proofs.Json.Complete

/-!
# Names of properties

What a property of an object literal can be called without marks in JavaScript, and what it is called
then. There are two sorts of names. The names of identifiers stand for themselves, with their escapes
resolved; reserved words are among them, since they may name properties. And a number stands for the
text that JavaScript shows for it, which need not be the text that was written: `1.0` is the property
that `1` is. One name means something else in a literal, and makes no property at all.

Beyond the first 128 characters it depends on the version of Unicode what an identifier may hold. This
is left open, as an alphabet that is asked for such characters only.

A number is taken here as JSON writes it. JavaScript has more ways of writing numbers, but JavaScript
shows no number in any of these, so none of them is a property of the name that was written.

## Main definitions

* `isIdentifierStart`, `isIdentifierPart`, `isIdentifier`: Identifiers of the first 128 characters.
* `Alphabet`: The other characters that identifiers may hold.
* `identifierName?`: What a text names as an identifier.
* `numberName`: The text that JavaScript shows for a number.
* `propertyName?`: What a text names as a property.
* `readProperty`: A reader of names that names properties.

## Theorems

* `propertyName?_marks`: A name is made of few characters, and has one at least.
* `readProperty_append`: A name is read up to the colon behind it.
-/

namespace CallSnippets

open Json (isEnd escapeMark codeMark NameReader)

/-- An identifier may start with the character. -/
def isIdentifierStart (c : CodePoint) : Bool :=
  ('a' ≤ c && c ≤ 'z') || ('A' ≤ c && c ≤ 'Z') || c = '_' || c = '$'

/-- An identifier may go on with the character. -/
def isIdentifierPart (c : CodePoint) : Bool :=
  isIdentifierStart c || Text.isAsciiDigit c

/-- The text is an identifier. -/
def isIdentifier : Text → Bool
  | [] => false
  | c :: rest => isIdentifierStart c && rest.all isIdentifierPart

/-- The characters from 128 on that identifiers may start with and that they may go on with. -/
structure Alphabet where
  /-- An identifier may start with the character. -/
  start : CodePoint → Bool
  /-- An identifier may go on with the character, even if it may not start with it. -/
  part : CodePoint → Bool

namespace Alphabet

/-- An identifier may start with the character, whichever it is. -/
def starts (alphabet : Alphabet) (c : CodePoint) : Bool :=
  if c.toNat < 128 then isIdentifierStart c else alphabet.start c

/-- An identifier may hold the character, whichever it is. -/
def holds (alphabet : Alphabet) (c : CodePoint) : Bool :=
  if c.toNat < 128 then isIdentifierPart c else alphabet.start c || alphabet.part c

end Alphabet

section

variable (alphabet : Alphabet)

/-- The characters of an identifier with its escapes resolved, if all of them may be in one. -/
def identifierText? : Text → Option Text
  | [] => some []
  | '\\' :: 'u' :: a :: b :: c :: d :: rest =>
    match Text.hexNumber? 4 0 [a, b, c, d] with
    | some (n, _) =>
      if alphabet.holds (.ofNat n) then (identifierText? rest).map (.ofNat n :: ·) else none
    | none => none
  | c :: rest => if alphabet.holds c then (identifierText? rest).map (c :: ·) else none

/-- What a text names as an identifier. -/
def identifierName? (t : Text) : Option Text :=
  (identifierText? alphabet t).filter fun name => name.head?.any alphabet.starts

end

/-- The digits of a number as JavaScript shows them: with a point or with zeros up to 21 digits before
    the point and down to 6 zeros behind it, and with an exponent outside of that. -/
def shownDigits (d : Digits) : Text :=
  let s := natText d.digits
  let point : Int := s.length + d.power
  let sign : CodePoint := if point - 1 < 0 then '-' else '+'
  let exponent : Text := 'e' :: sign :: natText (point - 1).natAbs
  if 0 < point ∧ point ≤ 21 then
    if 0 ≤ d.power then s ++ Text.repeated d.power.toNat '0'
    else s.take point.toNat ++ "." ++ s.drop point.toNat
  else if -6 < point ∧ point ≤ 0 then "0." ++ Text.repeated (-point).toNat '0' ++ s
  else s.take 1 ++ (if s.length = 1 then [] else '.' :: s.drop 1 : Text) ++ exponent

/-- The text that JavaScript shows for a number that is not negative. -/
def numberName (x : Binary64) : Text :=
  match x with
  | .nan => "NaN"
  | .infinite _ => "Infinity"
  | .finite _ mantissa exponent => shownDigits (shortest mantissa exponent)

/-- What a text names as a number. A number without fraction is rounded as any other. -/
def numericName? (t : Text) : Option Text :=
  match Json.readNumber none t with
  | .ok (.int n, []) => some (numberName (.round false n.natAbs 1))
  | .ok (.float x, []) => some (numberName x)
  | _ => none

/-- What a text names as a property of an object literal. -/
def propertyName? (alphabet : Alphabet) (t : Text) : Option Text :=
  if t.head?.any Text.isAsciiDigit then numericName? t
  else (identifierName? alphabet t).filter (· ≠ "__proto__")

/-- The character ends a name. -/
def endsName (c : CodePoint) : Bool :=
  Json.isSpace c || c = keyMark

/-- Reads the name of a property. -/
def readProperty (alphabet : Alphabet) : NameReader := fun t =>
  match propertyName? alphabet (t.takeWhile fun c => !endsName c) with
  | some name => .ok (name, t.dropWhile fun c => !endsName c)
  | none => .error (.malformed .expectedName t)

/-! ## The characters of names -/

/-- The character may be in a name as it is written. -/
def isNameMark (c : CodePoint) : Bool :=
  128 ≤ c.toNat || isIdentifierPart c || ("\\+-." : Text).contains c

section

variable {alphabet : Alphabet} {t name : Text}

theorem isNameMark_of_holds {c : CodePoint} (hc : alphabet.holds c = true) : isNameMark c = true := by
  unfold Alphabet.holds at hc
  by_cases hsmall : c.toNat < 128
  · rw [if_pos hsmall] at hc
    simp only [isNameMark, hc, Bool.or_true, Bool.true_or]
  · simp only [isNameMark, decide_eq_true (Nat.le_of_not_lt hsmall), Bool.true_or]

theorem isNameMark_of_part {c : CodePoint} (hc : isIdentifierPart c = true) : isNameMark c = true := by
  simp only [isNameMark, hc, Bool.or_true, Bool.true_or]

theorem isNameMark_of_isDigit {c : CodePoint} (hc : Text.isAsciiDigit c = true) :
    isNameMark c = true :=
  isNameMark_of_part (by rw [isIdentifierPart, hc, Bool.or_true])

theorem isNameMark_of_hex {c : CodePoint} (hc : (Text.hexValue c).isSome = true) :
    isNameMark c = true := by
  refine isNameMark_of_part ?_
  have hrange : ('0' ≤ c ∧ c ≤ '9') ∨ ('a' ≤ c ∧ c ≤ 'f') ∨ ('A' ≤ c ∧ c ≤ 'F') := by
    unfold Text.hexValue at hc
    split at hc
    · next h => exact .inl h
    · split at hc
      · next h => exact .inr (.inl h)
      · split at hc
        · next h => exact .inr (.inr h)
        · exact absurd hc Bool.false_ne_true
  simp only [isIdentifierPart, isIdentifierStart, Text.isAsciiDigit, Bool.or_eq_true,
    Bool.and_eq_true, decide_eq_true_eq]
  rcases hrange with h | h | h
  · exact .inr h
  · exact .inl (.inl (.inl (.inl ⟨h.1, Nat.le_trans h.2 (by decide)⟩)))
  · exact .inl (.inl (.inl (.inr ⟨h.1, Nat.le_trans h.2 (by decide)⟩)))

theorem identifierText?_marks (h : identifierText? alphabet t = some name) :
    ∀ c ∈ t, isNameMark c = true := by
  fun_induction identifierText? alphabet t generalizing name with
  | case1 => exact fun c hc => absurd hc List.not_mem_nil
  | case2 a b c d rest n after hcode hholds ih =>
      rcases Option.map_eq_some_iff.mp h with ⟨more, hmore, _⟩
      rcases Json.hexNumber?_sound hcode with ⟨digits, hfour, hhex, hdigits⟩
      -- All of the digits are there, so none are left over.
      have hall : [a, b, c, d] = digits := by
        have hlength := congrArg List.length hdigits
        simp only [List.length_cons, List.length_nil, List.length_append, hfour] at hlength
        rw [hdigits, List.length_eq_zero_iff.mp (show after.length = 0 by omega), List.append_nil]
      have hmarks : ∀ e ∈ [a, b, c, d], isNameMark e = true := by
        rw [hall]
        exact fun e he => isNameMark_of_hex (hhex e he)
      simp only [List.forall_mem_cons] at hmarks ⊢
      exact ⟨by decide, by decide, hmarks.1, hmarks.2.1, hmarks.2.2.1, hmarks.2.2.2.1, ih hmore⟩
  | case3 => exact absurd h (Option.some_ne_none name).symm
  | case4 => exact absurd h (Option.some_ne_none name).symm
  | case5 c rest _ hholds ih =>
      rcases Option.map_eq_some_iff.mp h with ⟨more, hmore, _⟩
      rw [List.forall_mem_cons]
      exact ⟨isNameMark_of_holds hholds, ih hmore⟩
  | case6 => exact absurd h (Option.some_ne_none name).symm

/-- A name is made of few characters, and has one at least. -/
theorem propertyName?_marks (h : propertyName? alphabet t = some name) :
    t ≠ [] ∧ ∀ c ∈ t, isNameMark c = true := by
  unfold propertyName? at h
  split at h
  · next hdigit =>
    -- A number is a name only if it is read to its end.
    have hnumber : ∃ v, Json.readNumber none t = .ok (v, []) := by
      unfold numericName? at h
      split at h
      · next n heq => exact ⟨_, heq⟩
      · next x heq => exact ⟨_, heq⟩
      · exact absurd h (Option.some_ne_none name).symm
    rcases hnumber with ⟨v, hv⟩
    rcases Json.readNumber_sound hv with ⟨n, rfl⟩
    refine ⟨fun hnil => ?_, ?_⟩
    · rw [hnil] at hdigit
      exact absurd hdigit Bool.false_ne_true
    · rw [List.append_nil]
      exact n.forall_mem (fun _ hc => isNameMark_of_isDigit hc) (by decide)
  · have hname := (Option.filter_eq_some_iff.mp h).1
    unfold identifierName? at hname
    rcases Option.filter_eq_some_iff.mp hname with ⟨htext, hstart⟩
    refine ⟨fun hnil => ?_, identifierText?_marks htext⟩
    -- Without characters there is nothing that the identifier starts with.
    rw [hnil] at htext
    rw [← Option.some.inj htext] at hstart
    exact absurd hstart Bool.false_ne_true

/-- A text with any other character in it names nothing. -/
theorem propertyName?_none {c : CodePoint} (hc : c ∈ t) (hmark : isNameMark c = false) :
    propertyName? alphabet t = none := by
  cases h : propertyName? alphabet t with
  | none => rfl
  | some name =>
      rw [(propertyName?_marks h).2 c hc] at hmark
      exact absurd hmark.symm Bool.false_ne_true

theorem isEnd_of_isNameMark {c : CodePoint} (hc : isNameMark c = true) : isEnd c = false :=
  Json.isEnd_eq_false (by decide) hc

theorem endsName_of_isNameMark {c : CodePoint} (hc : isNameMark c = true) : endsName c = false := by
  have hcolon : c ≠ keyMark := by
    rintro rfl
    exact absurd hc (by decide)
  simp only [endsName, Json.isSpace_of_isEnd (isEnd_of_isNameMark hc), decide_eq_false hcolon,
    Bool.or_self]

/-- A name is read up to the colon behind it. -/
theorem readProperty_append (h : propertyName? alphabet t = some name) (rest : Text) :
    readProperty alphabet (t ++ keyMark :: rest) = .ok (name, keyMark :: rest) := by
  have hkeep : ∀ c ∈ t, (!endsName c) = true := by
    intro c hc
    rw [endsName_of_isNameMark ((propertyName?_marks h).2 c hc)]
    rfl
  have hcolon : (!endsName keyMark) = false := by decide
  unfold readProperty
  rw [List.takeWhile_append_of_pos hkeep, List.dropWhile_append_of_pos hkeep, List.takeWhile_cons,
    List.dropWhile_cons, hcolon]
  simp only [Bool.false_eq_true, if_false, List.append_nil, h]

end

end CallSnippets
