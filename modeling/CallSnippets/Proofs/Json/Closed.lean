import CallSnippets.Proofs.Json.Document
import CallSnippets.Proofs.Snippet.Statements

/-!
# Documents close what they open

A document opens and closes brackets in its arrays and objects, and marks in its strings, and nowhere
else: its white space, numbers and words hold quiet characters only. So a document is closed as soon as
its keys are, however they are written.

The inside of a string is left alone by the walk whatever the string holds, since a quotation mark in
it has a backslash before it, and every backslash in it is the first half of an escape. For the same
reason no statement ends in a document: its members and items stand between brackets.

## Theorems

* `Gap.quiet`, `Number.quiet`, `Word.quiet`: Characters between brackets and marks.
* `stringText_chars`, `phrase_quoted`: Strings.
* `Tree.closed_textWith`: Values, by their structure.
* `Tree.phrase_textWith`: No statement ends in a value.
* `Document.phrase_bare`: A document with bare keys is a phrase if the keys are inert.
-/

namespace CallSnippets

namespace Json

theorem Gap.quiet (gap : Gap) : ∀ c ∈ gap.text, isQuiet c = true :=
  fun c hc => isQuiet_of_class (by decide) (gap.isSpace c hc)

section

variable {p : CodePoint → Prop}

/-- What holds for digits, letters and signs of exponents holds for all characters of exponents. -/
theorem Exponent.forall_mem (e : Exponent) (hdigit : ∀ c, Text.isAsciiDigit c = true → p c)
    (hother : ∀ c ∈ ("+-.eE" : Text), p c) : ∀ c ∈ e.text, p c := by
  intro c hc
  rw [Exponent.text, List.cons_append, List.mem_cons, List.mem_append] at hc
  rcases hc with rfl | hc | hc
  · rcases e.isLetter with h | h <;> rw [h] <;> exact hother _ (by decide)
  · rcases e.isSign with h | h | h <;> rw [h] at hc
    · exact absurd hc List.not_mem_nil
    · rw [List.mem_singleton.mp hc]
      exact hother _ (by decide)
    · rw [List.mem_singleton.mp hc]
      exact hother _ (by decide)
  · exact hdigit c (e.digits.isDigit c hc)

/-- What holds for digits and for the few other characters of numbers holds for all of them. -/
theorem Number.forall_mem (n : Number) (hdigit : ∀ c, Text.isAsciiDigit c = true → p c)
    (hother : ∀ c ∈ ("+-.eE" : Text), p c) : ∀ c ∈ n.text, p c := by
  intro c hc
  simp only [Number.text, List.mem_append] at hc
  rcases hc with ((hc | hc) | hc) | hc
  · rcases n.isSign with h | h <;> rw [h] at hc
    · exact absurd hc List.not_mem_nil
    · rw [List.mem_singleton.mp hc]
      exact hother _ (by decide)
  · exact hdigit c (n.whole.isDigit c hc)
  · cases hfraction : n.fraction with
    | none => simp only [hfraction, Option.elim_none, List.not_mem_nil] at hc
    | some digits =>
        simp only [hfraction, Option.elim_some, Digits.fraction, List.mem_cons] at hc
        rcases hc with rfl | hc
        · exact hother _ (by decide)
        · exact hdigit c (digits.isDigit c hc)
  · cases hexponent : n.exponent with
    | none => simp only [hexponent, Option.elim_none, List.not_mem_nil] at hc
    | some e =>
        simp only [hexponent, Option.elim_some] at hc
        exact e.forall_mem hdigit hother c hc

end

theorem Number.quiet (n : Number) : ∀ c ∈ n.text, isQuiet c = true :=
  n.forall_mem (fun _ hc => isQuiet_of_class (by decide) hc) (by decide)

theorem Word.quiet (w : Word) : ∀ c ∈ w.text, isQuiet c = true := by
  -- The words are few, so their characters can be gone through.
  have hwords : ∀ t ∈ words.map Prod.fst, ∀ c ∈ t, isQuiet c = true := by decide
  exact hwords w.text w.known

/-! ## Strings -/

theorem hex_not_special {c : CodePoint} (hc : (Text.hexValue c).isSome = true) :
    isInert c = true ∧ c ≠ escapeMark := by
  refine ⟨isInert_of_class (p := fun d => (Text.hexValue d).isSome) (by decide) hc, ?_⟩
  rintro rfl
  exact absurd hc (by decide)

theorem stringText_hex {mark : CodePoint} (hmark : isInert mark = false) {digits : Text}
    (h : ∀ c ∈ digits, (Text.hexValue c).isSome = true) : StringText mark digits := by
  refine stringText_plain fun c hc => ?_
  rcases hex_not_special (h c hc) with ⟨hinert, hback⟩
  exact ⟨ne_of_isInert hinert hmark, hback⟩

theorem stringText_letter (letter : Letter) : StringText stringMark letter.text := by
  cases letter with
  | plain c h =>
      simp only [isPlain, Bool.and_eq_true, decide_eq_true_eq] at h
      exact .plain h.1.1 h.1.2 .nil
  | escape c _ => exact .escape .nil
  | code digits _ hex =>
      -- The backslash takes the letter behind it, and the digits stand for themselves.
      exact .escape (stringText_hex (by decide) hex)

theorem stringText_chars (letters : List Letter) : StringText stringMark (chars letters) := by
  induction letters with
  | nil => exact .nil
  | cons letter rest ih =>
      rw [chars, List.flatMap_cons]
      exact (stringText_letter letter).append ih

theorem phrase_quoted (letters : List Letter) : IsPhrase (quoted letters) :=
  phrase_string (by decide) (stringText_chars letters)

/-! ## Values -/

theorem closed_gap (gap : Gap) : Closed gap.text :=
  (phrase_quiet gap.quiet).closed

theorem closed_comma {t : Text} (ht : Closed t) : Closed (comma :: t) :=
  closed_append (a := [comma]) (closed_inert (by decide)) ht

section

variable {write : Key → Text}

mutual

/-- A value is closed if its keys are, however they are written. -/
theorem Tree.closed_textWith (value : Tree) (h : ∀ k ∈ value.keys, Closed (write k)) :
    Closed (value.textWith write) := by
  cases value with
  | word w => exact (phrase_quiet w.quiet).closed
  | number n => exact (phrase_quiet n.quiet).closed
  | string letters => exact (phrase_quoted letters).closed
  | emptyObject gap => exact closed_bracketed (by decide) (closed_gap gap)
  | object gap members =>
      exact closed_bracketed (by decide)
        (closed_append (closed_gap gap) (members.closed_textWith h))
  | emptyArray gap => exact closed_bracketed (by decide) (closed_gap gap)
  | array gap items =>
      exact closed_bracketed (by decide) (closed_append (closed_gap gap) (items.closed_textWith h))

theorem Member.closed_textWith (m : Member) (h : ∀ k ∈ m.keys, Closed (write k)) :
    Closed (m.textWith write) := by
  cases m with
  | mk key before value after =>
      rw [Member.keys, List.forall_mem_cons] at h
      exact closed_append
        (closed_append (closed_append h.1 (closed_gap before)) (value.closed_textWith h.2))
        (closed_gap after)

theorem Members.closed_textWith (members : Members) (h : ∀ k ∈ members.keys, Closed (write k)) :
    Closed (members.textWith write) := by
  cases members with
  | last m => exact m.closed_textWith h
  | next m gap rest =>
      rw [Members.keys, List.forall_mem_append] at h
      exact closed_append (closed_append (m.closed_textWith h.1) (closed_comma (closed_gap gap)))
        (rest.closed_textWith h.2)

theorem Items.closed_textWith (items : Items) (h : ∀ k ∈ items.keys, Closed (write k)) :
    Closed (items.textWith write) := by
  cases items with
  | last value after => exact closed_append (value.closed_textWith h) (closed_gap after)
  | next value after gap rest =>
      rw [Items.keys, List.forall_mem_append] at h
      exact closed_append
        (closed_append (closed_append (value.closed_textWith h.1) (closed_gap after))
          (closed_comma (closed_gap gap)))
        (rest.closed_textWith h.2)

end

/-- A value is even a phrase: whatever its members and items hold stands between its brackets. -/
theorem Tree.phrase_textWith (value : Tree) (h : ∀ k ∈ value.keys, Closed (write k)) :
    IsPhrase (value.textWith write) := by
  cases value with
  | word w => exact phrase_quiet w.quiet
  | number n => exact phrase_quiet n.quiet
  | string letters => exact phrase_quoted letters
  | emptyObject gap => exact phrase_bracketed (by decide) (closed_gap gap)
  | object gap members =>
      exact phrase_bracketed (by decide) (closed_append (closed_gap gap) (members.closed_textWith h))
  | emptyArray gap => exact phrase_bracketed (by decide) (closed_gap gap)
  | array gap items =>
      exact phrase_bracketed (by decide) (closed_append (closed_gap gap) (items.closed_textWith h))

end

theorem trimEnd_subset {t : Text} {c : CodePoint} (hc : c ∈ Text.trimEnd t) : c ∈ t := by
  rw [Text.trimEnd, List.mem_reverse] at hc
  exact List.mem_reverse.mp ((List.dropWhile_sublist _).subset hc)

theorem Key.closed_bare {k : Key} (h : ∀ c ∈ chars k.name, isInert c = true) : Closed k.bare :=
  closed_append (closed_inert fun c hc => h c (trimEnd_subset hc)) (closed_inert (by decide))

/-- A document with bare keys is a phrase if nothing in its keys opens or closes anything. -/
theorem Document.phrase_bare (d : Document)
    (h : ∀ k ∈ d.keys, ∀ c ∈ chars k.name, isInert c = true) : IsPhrase d.bare :=
  phrase_append
    (phrase_append (phrase_quiet d.before.quiet)
      (d.value.phrase_textWith fun k hk => Key.closed_bare (h k hk)))
    (phrase_quiet d.after.quiet)

end Json

end CallSnippets
