import CallSnippets.Proofs.Json.Accepted

/-!
# What the parts of a document stand for

The letters of a string stand for a text, the digits of a number for a number, and the reader finds
exactly these when it comes to a part with more text behind it. What stands behind matters in two ways.
A number ends where its digits end only if none follow, so the text behind it has to start with white
space, a comma or a closing bracket, as it does behind every value of a document. And two escapes next
to each other may be the halves of one character, so letters are not read one by one.

## Main definitions

* `lettersText`: The text that letters stand for.
* `Number.meaning`: The number that digits stand for, if a limit allows so many of them.
* `Word.meaning`: The value that a word stands for.
* `Ends`: The text starts with something that may stand behind a value.

## Theorems

* `readString_chars`: Letters are read as their text.
* `readNumber_text`: A number is read as its meaning, if it ends where its digits end.
* `readWord?_text`, `readWord?_number`: A word is read as its value, and a number is no word.
-/

namespace CallSnippets

namespace Json

/-- The code point that digits stand for. -/
def codeNumber (digits : Text) : Nat :=
  ((Text.hexNumber? digits.length 0 digits).map Prod.fst).getD 0

/-- The text that letters stand for. Two halves of a character next to each other are joined. -/
def lettersText : List Letter → Text
  | [] => []
  | .plain c _ :: rest => c :: lettersText rest
  | .escape c _ :: rest => (simpleEscape c).getD c :: lettersText rest
  | .code first _ _ :: .code second four hex :: rest =>
    if Text.isHighHalf (codeNumber first) && Text.isLowHalf (codeNumber second) then
      Text.joinHalves (codeNumber first) (codeNumber second) :: lettersText rest
    else .ofNat (codeNumber first) :: lettersText (.code second four hex :: rest)
  | .code digits _ _ :: rest => .ofNat (codeNumber digits) :: lettersText rest

/-- The power of ten that an exponent stands for. -/
def Exponent.power (e : Exponent) : Int :=
  if e.sign = "-" then -digitsNumber e.digits.text else digitsNumber e.digits.text

/-- The number that digits stand for, or the failure that they are too many. -/
def Number.meaning (limit : Option Nat) (n : Number) : Except Failure Value :=
  let negative : Bool := n.sign = "-"
  let fraction := n.fraction.elim [] Digits.text
  if n.isWhole then
    if limit.any (· < n.whole.text.length) then .error (.tooLong n.whole.text.length)
    else .ok (.int (if negative then -digitsNumber n.whole.text else digitsNumber n.whole.text))
  else
    .ok (.float (.ofDecimal negative (digitsNumber (n.whole.text ++ fraction))
      ((n.exponent.elim 0 Exponent.power) - fraction.length)))

/-- The value that a word stands for. -/
def Word.meaning (w : Word) : Value :=
  (words.lookup w.text).getD .null

/-- The character may stand behind a value. -/
def isEnd (c : CodePoint) : Bool :=
  isSpace c || c = comma || c = '\x7d' || c = ']'

/-- The text is at its end, or starts with a character that may stand behind a value. -/
def Ends (t : Text) : Prop :=
  ∀ c ∈ t.head?, isEnd c = true

/-! ## Strings -/

theorem hexNumber?_append {count : Nat} (value : Nat) {digits : Text} (hcount : digits.length = count)
    (hex : ∀ c ∈ digits, (Text.hexValue c).isSome = true) :
    ∃ n, ∀ rest, Text.hexNumber? count value (digits ++ rest) = some (n, rest) := by
  induction digits generalizing count value with
  | nil =>
      rw [← hcount]
      exact ⟨value, fun rest => rfl⟩
  | cons c more ih =>
      rcases Option.isSome_iff_exists.mp (hex c (List.mem_cons_self ..)) with ⟨d, hd⟩
      rcases ih (value * 16 + d) rfl fun a ha => hex a (List.mem_cons_of_mem c ha) with ⟨n, hn⟩
      refine ⟨n, fun rest => ?_⟩
      rw [← hcount, List.length_cons, List.cons_append, Text.hexNumber?, hd]
      exact hn rest

/-- Four digits are read as their code point, whatever stands behind them. -/
theorem hexNumber?_code {digits : Text} (four : digits.length = 4)
    (hex : ∀ c ∈ digits, (Text.hexValue c).isSome = true) (rest : Text) :
    Text.hexNumber? 4 0 (digits ++ rest) = some (codeNumber digits, rest) := by
  rcases hexNumber?_append 0 four hex with ⟨n, hn⟩
  have halone := hn []
  rw [List.append_nil] at halone
  rw [hn rest, codeNumber, four, halone]
  rfl

/-- An escape that no other follows stands for itself. -/
theorem readCodeEscape_alone {digits rest : Text} (four : digits.length = 4)
    (hex : ∀ c ∈ digits, (Text.hexValue c).isSome = true) (hrest : rest ≠ [])
    (hother : ∀ second, rest ≠ escapeMark :: codeMark :: second) :
    readCodeEscape (codeMark :: (digits ++ rest)) = .ok (.ofNat (codeNumber digits), rest) := by
  unfold readCodeEscape
  simp only [List.drop_succ_cons, List.drop_zero, hexNumber?_code four hex]

/-- Of two escapes the second one is taken together with the first if they are the two halves. -/
theorem readCodeEscape_pair {first second rest : Text} (four : first.length = 4)
    (hex : ∀ c ∈ first, (Text.hexValue c).isSome = true) (four' : second.length = 4)
    (hex' : ∀ c ∈ second, (Text.hexValue c).isSome = true) (hrest : rest ≠ []) :
    readCodeEscape (codeMark :: (first ++ escapeMark :: codeMark :: (second ++ rest))) =
      .ok (if Text.isHighHalf (codeNumber first) && Text.isLowHalf (codeNumber second) then
        (Text.joinHalves (codeNumber first) (codeNumber second), rest)
      else (.ofNat (codeNumber first), escapeMark :: codeMark :: (second ++ rest))) := by
  -- The reader looks for a second half only if there is more text than its digits.
  have hlong : 4 < (second ++ rest).length := by
    have hpos := List.length_pos_iff.mpr hrest
    rw [List.length_append]
    omega
  unfold readCodeEscape
  simp only [List.drop_succ_cons, List.drop_zero, hexNumber?_code four hex, hlong, decide_true,
    Bool.and_true, hexNumber?_code four' hex']
  by_cases hhigh : Text.isHighHalf (codeNumber first) = true
  · by_cases hlow : Text.isLowHalf (codeNumber second) = true
    · simp only [hhigh, hlow, Bool.and_self, if_true]
    · simp only [hhigh, hlow, Bool.and_false, Bool.false_eq_true, if_true, if_false]
  · simp only [hhigh, Bool.false_and, Bool.false_eq_true, if_false]

theorem readString_plain {c : CodePoint} (h : isPlain c = true) (fuel : Nat) (opening t : Text) :
    readString (fuel + 1) opening (c :: t) =
      (readString fuel opening t).map fun p => (c :: p.1, p.2) := by
  simp only [isPlain, Bool.and_eq_true, decide_eq_true_eq, ne_eq] at h
  rw [readString.eq_7 opening c t fuel h.1.1 (fun hc _ => h.1.2 hc) (fun _ _ hc _ => h.1.2 hc)]
  simp only [if_neg (Nat.not_lt.mpr h.2)]
  cases readString fuel opening t <;> rfl

theorem escape_ne_code {c : CodePoint} (h : (simpleEscape c).isSome = true) : c ≠ codeMark := by
  rintro rfl
  exact absurd h (by decide)

theorem readString_escape {c : CodePoint} (h : (simpleEscape c).isSome = true) (fuel : Nat)
    (opening t : Text) :
    readString (fuel + 1) opening (escapeMark :: c :: t) =
      (readString fuel opening t).map fun p => ((simpleEscape c).getD c :: p.1, p.2) := by
  rcases Option.isSome_iff_exists.mp h with ⟨e, he⟩
  rw [readString.eq_5]
  simp only [if_neg (escape_ne_code h), he, ok_bind, Option.getD_some]
  cases readString fuel opening t <;> rfl

theorem readString_code {t rest : Text} {c : CodePoint} (fuel : Nat) (opening : Text)
    (h : readCodeEscape (codeMark :: t) = .ok (c, rest)) :
    readString (fuel + 1) opening (escapeMark :: codeMark :: t) =
      (readString fuel opening rest).map fun p => (c :: p.1, p.2) := by
  rw [readString.eq_5]
  simp only [if_true, h, ok_bind]
  cases readString fuel opening rest <;> rfl

/-- Behind an escape that no other one follows there is no second half. -/
theorem chars_ne_code {letters : List Letter} {rest : Text}
    (h : ∀ second four hex more, letters ≠ .code second four hex :: more) (second : Text) :
    chars letters ++ stringMark :: rest ≠ escapeMark :: codeMark :: second := by
  intro heq
  cases letters with
  | nil => exact absurd (List.cons.inj heq).1 (by decide)
  | cons letter more =>
      cases letter with
      | plain c hplain =>
          rw [(List.cons.inj heq).1] at hplain
          exact absurd hplain (by decide)
      | escape c hescape =>
          exact escape_ne_code hescape (List.cons.inj (List.cons.inj heq).2).1
      | code digits four hex => exact h digits four hex more rfl

/-- Letters are read as the text that they stand for, up to the mark behind them. -/
theorem readString_chars (letters : List Letter) {fuel : Nat} (hfuel : letters.length ≤ fuel)
    (opening rest : Text) :
    readString fuel opening (chars letters ++ stringMark :: rest) =
      .ok (lettersText letters, rest) := by
  have hmark : ∀ more : List Letter, chars more ++ stringMark :: rest ≠ [] :=
    fun more => List.append_ne_nil_of_right_ne_nil _ (List.cons_ne_nil _ _)
  fun_induction lettersText letters generalizing fuel with
  | case1 => exact readString.eq_2 fuel opening rest
  | case2 c hplain more ih =>
      obtain ⟨fuel, rfl⟩ := Nat.exists_eq_add_one_of_ne_zero (Nat.ne_zero_of_lt hfuel)
      rw [chars_cons, List.append_assoc, Letter.text, List.singleton_append, readString_plain hplain,
        ih (by simpa using hfuel), map_ok]
  | case3 c hescape more ih =>
      obtain ⟨fuel, rfl⟩ := Nat.exists_eq_add_one_of_ne_zero (Nat.ne_zero_of_lt hfuel)
      rw [chars_cons, List.append_assoc, Letter.text, List.cons_append, List.singleton_append,
        readString_escape hescape, ih (by simpa using hfuel), map_ok]
  | case4 first four hex second four' hex' more hpair ih =>
      obtain ⟨fuel, rfl⟩ := Nat.exists_eq_add_one_of_ne_zero (Nat.ne_zero_of_lt hfuel)
      have hcode := readCodeEscape_pair four hex four' hex' (hmark more)
      rw [if_pos hpair] at hcode
      simp only [chars_cons, Letter.text, List.append_assoc, List.cons_append]
      rw [readString_code fuel opening hcode, ih (by simp at hfuel; omega), map_ok, if_pos hpair]
  | case5 first four hex second four' hex' more hpair ih =>
      -- The second escape is left where it is, and read in a step of its own.
      obtain ⟨fuel, rfl⟩ := Nat.exists_eq_add_one_of_ne_zero (Nat.ne_zero_of_lt hfuel)
      have hcode := readCodeEscape_pair four hex four' hex' (hmark more)
      rw [if_neg hpair] at hcode
      have hlength : (Letter.code second four' hex' :: more).length ≤ fuel := by simpa using hfuel
      have hmore := ih hlength
      simp only [chars_cons, Letter.text, List.append_assoc, List.cons_append] at hmore ⊢
      rw [readString_code fuel opening hcode, hmore, map_ok, if_neg hpair]
  | case6 digits four hex more hnone ih =>
      obtain ⟨fuel, rfl⟩ := Nat.exists_eq_add_one_of_ne_zero (Nat.ne_zero_of_lt hfuel)
      have hcode := readCodeEscape_alone four hex (hmark more) (chars_ne_code hnone)
      simp only [chars_cons, Letter.text, List.append_assoc, List.cons_append]
      rw [readString_code fuel opening hcode, ih (by simpa using hfuel), map_ok]

/-! ## Numbers -/

/-- The text does not start with a character of the class. -/
def StartsNot (p : CodePoint → Bool) (t : Text) : Prop :=
  ∀ c ∈ t.head?, p c = false

theorem startsNot_cons {p : CodePoint → Bool} {c : CodePoint} (h : p c = false) (t : Text) :
    StartsNot p (c :: t) := by
  intro d hd
  rw [← Option.some.inj hd]
  exact h

/-- A class that has no characters that may stand behind values. -/
theorem Ends.startsNot {t : Text} (h : Ends t) {p : CodePoint → Bool}
    (hp : ∀ c, isEnd c = true → p c = false) : StartsNot p t :=
  fun c hc => hp c (h c hc)

theorem isEnd_cases {c : CodePoint} (h : isEnd c = true) :
    c ∈ (" \t\n\r,\x7d]" : Text) := by
  simp only [isEnd, isSpace, Bool.or_eq_true, decide_eq_true_eq] at h
  rcases h with (((((rfl | rfl) | rfl) | rfl) | rfl) | rfl) | rfl <;> decide

theorem not_of_isEnd {p : CodePoint → Bool} (hp : ∀ c ∈ (" \t\n\r,\x7d]" : Text), p c = false)
    (c : CodePoint) (h : isEnd c = true) : p c = false :=
  hp c (isEnd_cases h)

/-- A character of a class that has none of these may not stand behind a value. -/
theorem isEnd_eq_false {p : CodePoint → Bool} (hp : ∀ c ∈ (" \t\n\r,\x7d]" : Text), p c = false)
    {c : CodePoint} (hc : p c = true) : isEnd c = false := by
  cases hend : isEnd c with
  | false => rfl
  | true =>
      rw [not_of_isEnd hp c hend] at hc
      exact absurd hc Bool.false_ne_true

/-- Digits are split off as a whole if no digit follows them. -/
theorem spanDigits_append {digits rest : Text} (hdigits : ∀ c ∈ digits, Text.isAsciiDigit c = true)
    (hrest : StartsNot Text.isAsciiDigit rest) : spanDigits (digits ++ rest) = (digits, rest) := by
  have hnone : rest.takeWhile Text.isAsciiDigit = [] ∧ rest.dropWhile Text.isAsciiDigit = rest := by
    cases rest with
    | nil => exact ⟨rfl, rfl⟩
    | cons c more =>
        have hc := hrest c rfl
        simp [hc]
  rw [spanDigits, List.span_eq_takeWhile_dropWhile, List.takeWhile_append_of_pos hdigits,
    List.dropWhile_append_of_pos hdigits, hnone.1, hnone.2, List.append_nil]

theorem Digits.exists_cons (digits : Digits) :
    ∃ c more, digits.text = c :: more ∧ Text.isAsciiDigit c = true := by
  cases hdigits : digits.text with
  | nil => exact absurd hdigits digits.nonempty
  | cons c more => exact ⟨c, more, rfl, digits.isDigit c (by rw [hdigits]; exact List.mem_cons_self ..)⟩

theorem ne_of_isDigit {c d : CodePoint} (hc : Text.isAsciiDigit c = true)
    (hd : Text.isAsciiDigit d = false) : c ≠ d := by
  rintro rfl
  rw [hc] at hd
  exact absurd hd (by decide)

theorem spanWhole_append (whole : Whole) {rest : Text} (hrest : StartsNot Text.isAsciiDigit rest) :
    spanWhole (whole.text ++ rest) = some (whole.text, rest) := by
  rcases whole.toDigits.exists_cons with ⟨c, more, htext, hc⟩
  have hspan := spanDigits_append whole.isDigit hrest
  by_cases hzero : c = .char '0'
  · -- A zero stands alone.
    have hmore : more = [] := by
      have h := whole.zero (by rw [htext, hzero]; rfl)
      rwa [htext] at h
    rw [htext, hzero, hmore]
    rfl
  · unfold spanWhole
    rw [htext] at hspan ⊢
    split
    · next h => exact absurd (List.cons.inj h).1 hzero
    · rw [hspan]

theorem spanFraction_append (fraction : Option Digits) {rest : Text}
    (hdigit : StartsNot Text.isAsciiDigit rest) (hpoint : StartsNot (· = '.') rest) :
    spanFraction (fraction.elim [] Digits.fraction ++ rest) =
      (fraction.elim [] Digits.text, rest) := by
  cases fraction with
  | none =>
      unfold spanFraction
      split
      · next more h =>
        rw [Option.elim_none, List.nil_append] at h
        rw [h] at hpoint
        exact absurd (hpoint '.' rfl) (by decide)
      · rfl
  | some digits =>
      have hspan := spanDigits_append digits.isDigit hdigit
      rcases digits.exists_cons with ⟨c, more, htext, _⟩
      rw [Option.elim_some, Option.elim_some, Digits.fraction, List.cons_append, spanFraction.eq_1,
        hspan, htext]

theorem spanSign_append {sign : Text} (hsign : sign = [] ∨ sign = "+" ∨ sign = "-")
    (digits : Digits) (rest : Text) :
    spanSign (sign ++ (digits.text ++ rest)) = (decide (sign = "-"), digits.text ++ rest) := by
  rcases digits.exists_cons with ⟨c, more, htext, hc⟩
  rcases hsign with rfl | rfl | rfl
  · rw [htext]
    exact spanSign.eq_3 _ (fun _ h => ne_of_isDigit hc (by decide) (List.cons.inj h).1)
      (fun _ h => ne_of_isDigit hc (by decide) (List.cons.inj h).1)
  · rfl
  · rfl

theorem spanMinus_append {sign : Text} (hsign : sign = [] ∨ sign = "-") (digits : Digits)
    (rest : Text) :
    spanMinus (sign ++ (digits.text ++ rest)) = (decide (sign = "-"), digits.text ++ rest) := by
  rcases digits.exists_cons with ⟨c, more, htext, hc⟩
  rcases hsign with rfl | rfl
  · rw [htext]
    exact spanMinus.eq_2 _ fun _ h => ne_of_isDigit hc (by decide) (List.cons.inj h).1
  · rfl

theorem spanExponent_append (exponent : Option Exponent) {rest : Text}
    (hdigit : StartsNot Text.isAsciiDigit rest)
    (hletter : StartsNot (fun c => c = 'e' ∨ c = 'E') rest) :
    spanExponent (exponent.elim [] Exponent.text ++ rest) = (exponent.map Exponent.power, rest) := by
  cases exponent with
  | none =>
      cases rest with
      | nil => rfl
      | cons c more =>
          have hc := hletter c rfl
          rw [decide_eq_false_iff_not] at hc
          rw [Option.elim_none, List.nil_append, spanExponent, if_neg hc]
          rfl
  | some e =>
      have hspan := spanDigits_append e.digits.isDigit hdigit
      rcases e.digits.exists_cons with ⟨c, more, htext, _⟩
      simp only [Option.elim_some, Exponent.text, List.cons_append, List.append_assoc]
      rw [spanExponent, if_pos e.isLetter]
      simp only [spanSign_append e.isSign, hspan]
      rw [htext]
      simp only [Option.map_some, Exponent.power, htext, decide_eq_true_eq]

/-- Exponents and what stands behind values start with nothing that belongs to digits. -/
theorem startsNot_exponent (exponent : Option Exponent) {rest : Text} (hrest : Ends rest)
    {p : CodePoint → Bool} (he : p 'e' = false) (hE : p 'E' = false)
    (hp : ∀ c ∈ (" \t\n\r,\x7d]" : Text), p c = false) :
    StartsNot p (exponent.elim [] Exponent.text ++ rest) := by
  cases exponent with
  | none => exact hrest.startsNot (not_of_isEnd hp)
  | some e =>
      refine startsNot_cons ?_ _
      rcases e.isLetter with h | h
      · rw [h]
        exact he
      · rw [h]
        exact hE

/-- The reader sees a whole number where one is written. -/
theorem isWhole_eq (n : Number) :
    ((n.fraction.elim [] Digits.text).isEmpty && (n.exponent.map Exponent.power).isNone) =
      n.isWhole := by
  rw [Number.isWhole, Option.isNone_map]
  cases n.fraction with
  | none => rfl
  | some digits =>
      have hdigits : digits.text.isEmpty = false :=
        List.isEmpty_eq_false_iff.mpr digits.nonempty
      rw [Option.elim_some, hdigits, Option.isNone_some]

/-- A number is read as its meaning, if it ends where its digits end. -/
theorem readNumber_text (limit : Option Nat) (n : Number) {rest : Text} (hrest : Ends rest) :
    readNumber limit (n.text ++ rest) = (n.meaning limit).map fun v => (v, rest) := by
  -- Each part of a number ends before the next one, whichever of them are there.
  have hexponent : StartsNot Text.isAsciiDigit (n.exponent.elim [] Exponent.text ++ rest) :=
    startsNot_exponent n.exponent hrest (by decide) (by decide) (by decide)
  have hpoint : StartsNot (· = '.') (n.exponent.elim [] Exponent.text ++ rest) :=
    startsNot_exponent n.exponent hrest (by decide) (by decide) (by decide)
  have hfraction : StartsNot Text.isAsciiDigit
      (n.fraction.elim [] Digits.fraction ++ (n.exponent.elim [] Exponent.text ++ rest)) := by
    cases n.fraction with
    | none => exact hexponent
    | some digits => exact startsNot_cons (by decide) _
  have hdigit : StartsNot Text.isAsciiDigit rest := hrest.startsNot (not_of_isEnd (by decide))
  have hletter : StartsNot (fun c => c = 'e' ∨ c = 'E') rest :=
    hrest.startsNot (not_of_isEnd (by decide))
  simp only [Number.text, List.append_assoc]
  unfold readNumber
  simp only [spanMinus_append n.isSign n.whole.toDigits, spanWhole_append n.whole hfraction,
    spanFraction_append n.fraction hexponent hpoint,
    spanExponent_append n.exponent hdigit hletter, isWhole_eq, Number.meaning]
  by_cases hwhole : n.isWhole = true
  · rw [if_pos hwhole, if_pos hwhole]
    cases limit with
    | none => rfl
    | some most =>
        simp only [Option.any_some, decide_eq_true_eq]
        by_cases hlong : most < n.whole.text.length
        · rw [if_pos hlong, if_pos hlong]
          rfl
        · rw [if_neg hlong, if_neg hlong]
          rfl
  · rw [if_neg hwhole, if_neg hwhole]
    cases n.exponent <;> rfl

/-! ## Words -/

/-- A word is read as its value: no two words start with the same character. -/
theorem readWord?_text (w : Word) (rest : Text) :
    readWord? (w.text ++ rest) = some (w.meaning, rest) := by
  cases w with
  | mk text known =>
      simp only [words, List.map_cons, List.map_nil, List.mem_cons, List.not_mem_nil, or_false] at known
      rcases known with rfl | rfl | rfl | rfl | rfl | rfl <;> rfl

theorem dropStart?_ne {a c : CodePoint} (h : a ≠ c) (opening t : Text) :
    Text.dropStart? (a :: opening) (c :: t) = none := by
  rw [Text.dropStart?, if_neg h]

/-- A number is no word: the words have no digit at their start, nor behind a minus. -/
theorem readWord?_number (n : Number) (rest : Text) : readWord? (n.text ++ rest) = none := by
  rcases n.whole.toDigits.exists_cons with ⟨c, more, htext, hc⟩
  have hne : ∀ {d : CodePoint}, Text.isAsciiDigit d = false → d ≠ c :=
    fun hd h => ne_of_isDigit hc hd h.symm
  rw [readWord?, List.findSome?_eq_none_iff]
  intro w hw
  simp only [Number.text, List.append_assoc, htext, List.cons_append, Option.map_eq_none_iff]
  simp only [words, List.mem_cons, List.not_mem_nil, or_false] at hw
  rcases n.isSign with h | h
  · rw [h, List.nil_append]
    rcases hw with rfl | rfl | rfl | rfl | rfl | rfl <;> exact dropStart?_ne (hne (by decide)) _ _
  · rw [h]
    rcases hw with rfl | rfl | rfl | rfl | rfl | rfl
    -- Only one of the words starts with a minus.
    case inr.inr.inr.inr.inr => exact dropStart?_ne (a := 'I') (hne (by decide)) _ _
    all_goals exact dropStart?_ne (c := '-') (by decide) _ _

end Json

end CallSnippets
